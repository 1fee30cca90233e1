namespace TrafficControl

namespace Entries

variable {α : Type u} {β : Type v}

def Sorted (entries : List (String × α)) : Prop :=
  entries.Pairwise fun a b => a.1 < b.1

def get? (key : String) : List (String × α) → Option α
  | [] => none
  | (k, v) :: rest => if k = key then some v else get? key rest

def insert (key : String) (value : α) : List (String × α) → List (String × α)
  | [] => [(key, value)]
  | (k, v) :: rest =>
    if key = k then (key, value) :: rest
    else if key < k then (key, value) :: (k, v) :: rest
    else (k, v) :: insert key value rest

def erase (key : String) (entries : List (String × α)) : List (String × α) :=
  entries.filter fun e => e.1 != key

def insertAll (entries : List (String × α)) (added : List (String × α)) : List (String × α) :=
  added.foldl (fun t e => insert e.1 e.2 t) entries

def ofList (added : List (String × α)) : List (String × α) := insertAll [] added

theorem lt_of_not_lt_of_ne {a b : String} (h : ¬ a < b) (ne : a ≠ b) : b < a :=
  String.not_le.mp fun le => ne (String.le_antisymm le (String.not_lt.mp h))

theorem mem_insert {key : String} {value : α} {entries : List (String × α)} {e : String × α}
    (h : e ∈ insert key value entries) : e = (key, value) ∨ e ∈ entries := by
  induction entries with
  | nil => simpa [insert] using h
  | cons head rest ih =>
    simp only [insert] at h
    split at h
    · rcases List.mem_cons.mp h with h | h <;> simp [h]
    · split at h
      · simpa using h
      · rcases List.mem_cons.mp h with h | h
        · simp [h]
        · rcases ih h with h | h <;> simp [h]

theorem Sorted.insert {entries : List (String × α)} (sorted : Sorted entries) (key : String)
    (value : α) : Sorted (Entries.insert key value entries) := by
  induction entries with
  | nil => simp [Entries.insert, Sorted]
  | cons head rest ih =>
    obtain ⟨above, tail⟩ := List.pairwise_cons.mp sorted
    simp only [Entries.insert]
    split
    · next same => subst same; exact List.pairwise_cons.mpr ⟨above, tail⟩
    · next ne =>
      split
      · next lt =>
        refine List.pairwise_cons.mpr ⟨?_, sorted⟩
        intro e member
        rcases List.mem_cons.mp member with rfl | member
        · exact lt
        · exact String.lt_trans lt (above e member)
      · next ge =>
        refine List.pairwise_cons.mpr ⟨?_, ih tail⟩
        intro e member
        rcases mem_insert member with rfl | member
        · exact lt_of_not_lt_of_ne ge ne
        · exact above e member

theorem Sorted.insertAll {entries : List (String × α)} (sorted : Sorted entries)
    (added : List (String × α)) : Sorted (Entries.insertAll entries added) := by
  induction added generalizing entries with
  | nil => exact sorted
  | cons head rest ih => exact ih (sorted.insert _ _)

theorem mem_insertAll {entries added : List (String × α)} {e : String × α}
    (h : e ∈ insertAll entries added) : e ∈ entries ∨ e ∈ added := by
  induction added generalizing entries with
  | nil => exact .inl h
  | cons head rest ih =>
    rcases ih h with before | later
    · rcases mem_insert before with rfl | before
      · exact .inr List.mem_cons_self
      · exact .inl before
    · exact .inr (List.mem_cons_of_mem _ later)

theorem Sorted.erase {entries : List (String × α)} (sorted : Sorted entries) (key : String) :
    Sorted (Entries.erase key entries) :=
  List.Pairwise.filter _ sorted

theorem insert_above {key : String} {entries : List (String × α)} (value : α)
    (above : ∀ e ∈ entries, e.1 < key) : insert key value entries = entries ++ [(key, value)] := by
  induction entries with
  | nil => rfl
  | cons e rest ih =>
    obtain ⟨first, later⟩ := List.forall_mem_cons.mp above
    have other : key ≠ e.1 := fun same => String.lt_irrefl _ (same ▸ first)
    have behind : ¬ key < e.1 := fun lt => String.lt_irrefl _ (String.lt_trans lt first)
    simp only [insert, other, behind, if_false, ih later, List.cons_append]

theorem insertAll_above {entries added : List (String × α)} (sorted : Sorted (entries ++ added)) :
    insertAll entries added = entries ++ added := by
  induction added generalizing entries with
  | nil => exact (List.append_nil entries).symm
  | cons e rest ih =>
    have above : ∀ before ∈ entries, before.1 < e.1 := fun before member =>
      (List.pairwise_append.mp sorted).2.2 before member e List.mem_cons_self
    have step : insertAll entries (e :: rest) = insertAll (insert e.1 e.2 entries) rest := rfl
    rw [step, insert_above e.2 above, ih]
    · rw [List.append_assoc, List.singleton_append]
    · rw [List.append_assoc, List.singleton_append]
      exact sorted

theorem ofList_eq_self {entries : List (String × α)} (sorted : Sorted entries) :
    ofList entries = entries :=
  insertAll_above sorted

theorem get?_insert (key sought : String) (value : α) (entries : List (String × α)) :
    get? sought (insert key value entries) =
      if key = sought then some value else get? sought entries := by
  induction entries with
  | nil => rfl
  | cons head rest ih =>
    simp only [insert]
    split
    · next same => simp only [get?, same]; split <;> rfl
    · next ne =>
      split
      · rfl
      · simp only [get?, ih]
        by_cases found : head.1 = sought
        · have other : key ≠ sought := fun h => ne (h.trans found.symm)
          simp only [found, other, if_true, if_false]
        · simp only [found, if_false]

theorem erase_cons (key : String) (e : String × α) (rest : List (String × α)) :
    erase key (e :: rest) = if e.1 = key then erase key rest else e :: erase key rest := by
  by_cases same : e.1 = key <;> simp [erase, same]

theorem get?_erase (key sought : String) (entries : List (String × α)) :
    get? sought (erase key entries) = if key = sought then none else get? sought entries := by
  induction entries with
  | nil => simp [erase, get?]
  | cons e rest ih =>
    rw [erase_cons]
    split
    · next erased =>
      rw [ih]
      by_cases same : key = sought
      · simp only [same, if_true]
      · have other : e.1 ≠ sought := fun found => same (erased.symm.trans found)
        simp only [get?, same, other, if_false]
    · next kept =>
      simp only [get?, ih]
      by_cases found : e.1 = sought
      · have other : key ≠ sought := fun same => kept (found.trans same.symm)
        simp only [found, other, if_true, if_false]
      · simp only [found, if_false]

theorem get?_eq_none {key : String} {entries : List (String × α)}
    (absent : key ∉ entries.map Prod.fst) : get? key entries = none := by
  induction entries with
  | nil => rfl
  | cons e rest ih =>
    obtain ⟨k, v⟩ := e
    obtain ⟨other, later⟩ : key ≠ k ∧ key ∉ rest.map Prod.fst := by simpa using absent
    simp [get?, Ne.symm other, ih later]

theorem mem_of_get? {key : String} {value : α} {entries : List (String × α)}
    (found : get? key entries = some value) : (key, value) ∈ entries := by
  induction entries with
  | nil => cases found
  | cons e rest ih =>
    simp only [get?] at found
    split at found
    · next same =>
      cases found
      exact same ▸ List.mem_cons_self
    · exact List.mem_cons_of_mem _ (ih found)

theorem get?_of_mem {key : String} {value : α} {entries : List (String × α)}
    (distinct : (entries.map Prod.fst).Nodup) (member : (key, value) ∈ entries) :
    get? key entries = some value := by
  induction entries with
  | nil => cases member
  | cons e rest ih =>
    obtain ⟨absent, distinct⟩ := List.nodup_cons.mp distinct
    rcases List.mem_cons.mp member with rfl | later
    · simp only [get?, if_true]
    · have other : e.1 ≠ key := by
        rintro rfl
        exact absent (List.mem_map.mpr ⟨_, later, rfl⟩)
      simp only [get?, other, if_false, ih distinct later]

theorem Sorted.keys_nodup {entries : List (String × α)} (sorted : Sorted entries) :
    (entries.map Prod.fst).Nodup := by
  refine List.pairwise_map.mpr (List.Pairwise.imp ?_ sorted)
  intro a b lt same
  exact String.lt_irrefl _ (same ▸ lt)

theorem get?_append (key : String) (front back : List (String × α)) :
    get? key (front ++ back) = (get? key front).or (get? key back) := by
  induction front with
  | nil => rfl
  | cons e rest ih =>
    simp only [List.cons_append, get?, ih]
    split <;> rfl

theorem get?_insertAll (key : String) (entries added : List (String × α)) :
    get? key (insertAll entries added) = (get? key added.reverse).or (get? key entries) := by
  induction added generalizing entries with
  | nil => rfl
  | cons e rest ih =>
    have step : insertAll entries (e :: rest) = insertAll (insert e.1 e.2 entries) rest := rfl
    have alone : get? key [e] = if e.1 = key then some e.2 else none := rfl
    rw [step, ih, get?_insert, List.reverse_cons, get?_append, alone, Option.or_assoc]
    split <;> rfl

theorem get?_ofList (key : String) (entries : List (String × α)) :
    get? key (ofList entries) = get? key entries.reverse := by
  rw [ofList, get?_insertAll]
  exact Option.or_none

theorem get?_reverse {key : String} {entries : List (String × α)}
    (distinct : (entries.map Prod.fst).Nodup) :
    get? key entries.reverse = get? key entries := by
  induction entries with
  | nil => rfl
  | cons e rest ih =>
    obtain ⟨k, v⟩ := e
    obtain ⟨absent, distinct⟩ := List.nodup_cons.mp distinct
    rw [List.reverse_cons, get?_append, ih distinct]
    by_cases same : k = key
    · subst same
      simp [get?, get?_eq_none absent]
    · simp [get?, same]

theorem get?_eq_none_iff {key : String} {entries : List (String × α)} :
    get? key entries = none ↔ key ∉ entries.map Prod.fst := by
  refine ⟨fun absent member => ?_, get?_eq_none⟩
  induction entries with
  | nil => cases member
  | cons e rest ih =>
    simp only [get?] at absent
    split at absent
    · cases absent
    · next other =>
      rcases List.mem_cons.mp member with same | later
      · exact other same.symm
      · exact ih absent later

theorem insert_perm {key : String} (value : α) {entries : List (String × α)}
    (absent : key ∉ entries.map Prod.fst) :
    (insert key value entries).Perm ((key, value) :: entries) := by
  induction entries with
  | nil => exact .refl _
  | cons e rest ih =>
    obtain ⟨other, later⟩ : key ≠ e.1 ∧ key ∉ rest.map Prod.fst := by simpa using absent
    simp only [insert, other, if_false]
    split
    · exact .refl _
    · exact ((ih later).cons e).trans (.swap ..)

theorem insertAll_perm {entries added : List (String × α)}
    (distinct : ((added ++ entries).map Prod.fst).Nodup) :
    (insertAll entries added).Perm (added ++ entries) := by
  induction added generalizing entries with
  | nil => exact .refl _
  | cons e rest ih =>
    have own : e.1 ∉ entries.map Prod.fst := by
      rw [List.cons_append, List.map_cons, List.map_append] at distinct
      exact fun member => (List.nodup_cons.mp distinct).1 (List.mem_append_right _ member)
    have inserted := insert_perm e.2 own
    have moved : (rest ++ insert e.1 e.2 entries).Perm (e :: (rest ++ entries)) :=
      (inserted.append_left rest).trans List.perm_middle
    exact (ih ((moved.map Prod.fst).nodup_iff.mpr distinct)).trans moved

end Entries

/-- A table with its keys in ascending order. -/
structure Table (α : Type u) where
  entries : List (String × α)
  sorted : Entries.Sorted entries
  deriving DecidableEq

namespace Table

variable {α : Type u}

def empty : Table α := ⟨[], List.Pairwise.nil⟩

instance : Inhabited (Table α) := ⟨empty⟩

def get? (t : Table α) (key : String) : Option α := Entries.get? key t.entries

def contains (t : Table α) (key : String) : Bool := (t.get? key).isSome

def insert (t : Table α) (key : String) (value : α) : Table α :=
  ⟨Entries.insert key value t.entries, t.sorted.insert key value⟩

def erase (t : Table α) (key : String) : Table α :=
  ⟨Entries.erase key t.entries, t.sorted.erase key⟩

def overwrite (t added : Table α) : Table α :=
  ⟨Entries.insertAll t.entries added.entries, t.sorted.insertAll added.entries⟩

def ofList (entries : List (String × α)) : Table α :=
  ⟨Entries.ofList entries, Entries.Sorted.insertAll List.Pairwise.nil entries⟩

def keys (t : Table α) : List String := t.entries.map Prod.fst

def size (t : Table α) : Nat := t.entries.length

theorem get?_insert (t : Table α) (key sought : String) (value : α) :
    (t.insert key value).get? sought = if key = sought then some value else t.get? sought :=
  Entries.get?_insert key sought value t.entries

theorem get?_erase (t : Table α) (key sought : String) :
    (t.erase key).get? sought = if key = sought then none else t.get? sought :=
  Entries.get?_erase key sought t.entries

theorem keys_nodup (t : Table α) : t.keys.Nodup := t.sorted.keys_nodup

theorem get?_eq_some_iff {t : Table α} {key : String} {value : α} :
    t.get? key = some value ↔ (key, value) ∈ t.entries :=
  ⟨Entries.mem_of_get?, Entries.get?_of_mem t.keys_nodup⟩

theorem ofList_of_perm {t : Table α} {entries : List (String × α)}
    (perm : entries.Perm t.entries) : ofList entries = t := by
  have distinct : ((entries ++ []).map Prod.fst).Nodup := by
    rw [List.append_nil]
    exact (perm.map Prod.fst).nodup_iff.mpr t.keys_nodup
  have same : (ofList entries).entries.Perm t.entries := by
    have all := Entries.insertAll_perm distinct
    rw [List.append_nil] at all
    exact all.trans perm
  have equal : (ofList entries).entries = t.entries :=
    same.eq_of_pairwise
      (fun a b _ _ lt lt' => absurd (String.lt_trans lt lt') (String.lt_irrefl _))
      (ofList entries).sorted t.sorted
  obtain ⟨_, _⟩ := t
  obtain rfl := equal
  rfl

theorem get?_overwrite (t added : Table α) (key : String) :
    (t.overwrite added).get? key = (added.get? key).or (t.get? key) := by
  rw [get?, overwrite, Entries.get?_insertAll, Entries.get?_reverse added.keys_nodup]
  rfl

theorem get?_ofList (entries : List (String × α)) (key : String) :
    (ofList entries).get? key = Entries.get? key entries.reverse :=
  Entries.get?_ofList key entries

theorem get?_ofList_eq_some_iff {entries : List (String × α)} {key : String} {value : α}
    (distinct : (entries.map Prod.fst).Nodup) :
    (ofList entries).get? key = some value ↔ (key, value) ∈ entries := by
  rw [get?_ofList, Entries.get?_reverse distinct]
  exact ⟨Entries.mem_of_get?, Entries.get?_of_mem distinct⟩

theorem ext_get? {t u : Table α} (same : ∀ key, t.get? key = u.get? key) : t = u := by
  have nodup : ∀ s : Table α, s.entries.Nodup := by
    refine fun s => s.sorted.imp ?_
    rintro a _ lt rfl
    exact String.lt_irrefl _ lt
  have perm : t.entries.Perm u.entries := by
    refine (List.perm_ext_iff_of_nodup (nodup t) (nodup u)).mpr fun e => ?_
    rw [← get?_eq_some_iff, ← get?_eq_some_iff, same]
  rw [← ofList_of_perm (.refl t.entries), ofList_of_perm perm]

theorem ofList_append (first second : List (String × α)) :
    ofList (first ++ second) = (ofList first).overwrite (ofList second) := by
  apply ext_get?
  intro key
  rw [get?_overwrite, get?_ofList, get?_ofList, get?_ofList, List.reverse_append,
    Entries.get?_append]

theorem overwrite_overwrite (t added : Table α) :
    (t.overwrite added).overwrite added = t.overwrite added := by
  apply ext_get?
  intro key
  rw [get?_overwrite, get?_overwrite, ← Option.or_assoc, Option.or_self]

end Table

end TrafficControl
