namespace TrafficControl

class Ranked (α : Type u) extends LT α where
  decidableEq : DecidableEq α
  decidableLT : ∀ a b : α, Decidable (a < b)
  irrefl : ∀ a : α, ¬ a < a
  trans : ∀ {a b c : α}, a < b → b < c → a < c
  connected : ∀ {a b : α}, ¬ a < b → a ≠ b → b < a

instance instDecidableEqOfRanked [Ranked α] : DecidableEq α := Ranked.decidableEq

instance instDecidableLTOfRanked [Ranked α] (a b : α) : Decidable (a < b) := Ranked.decidableLT a b

instance : Ranked String where
  decidableEq := inferInstance
  decidableLT := inferInstance
  irrefl := String.lt_irrefl
  trans := String.lt_trans
  connected := fun h ne =>
    String.not_le.mp fun le => ne (String.le_antisymm le (String.not_lt.mp h))

def insertAscending [Ranked α] (x : α) : List α → List α
  | [] => [x]
  | y :: rest =>
    if x = y then y :: rest
    else if x < y then x :: y :: rest
    else y :: insertAscending x rest

theorem mem_insertAscending [Ranked α] {x e : α} {xs : List α} :
    e ∈ insertAscending x xs ↔ e = x ∨ e ∈ xs := by
  induction xs with
  | nil => simp [insertAscending]
  | cons y rest ih =>
    simp only [insertAscending]
    split
    · next same => subst same; simp
    · split
      · simp
      · simp only [List.mem_cons, ih]
        constructor
        · rintro (h | h | h) <;> simp [h]
        · rintro (h | h | h) <;> simp [h]

theorem pairwise_insertAscending [Ranked α] {x : α} {xs : List α}
    (ascending : xs.Pairwise (· < ·)) : (insertAscending x xs).Pairwise (· < ·) := by
  induction xs with
  | nil => simp [insertAscending]
  | cons y rest ih =>
    obtain ⟨above, tail⟩ := List.pairwise_cons.mp ascending
    simp only [insertAscending]
    split
    · exact ascending
    · next ne =>
      split
      · next lt =>
        refine List.pairwise_cons.mpr ⟨?_, ascending⟩
        intro e member
        rcases List.mem_cons.mp member with rfl | member
        · exact lt
        · exact Ranked.trans lt (above e member)
      · next ge =>
        refine List.pairwise_cons.mpr ⟨?_, ih tail⟩
        intro e member
        rcases mem_insertAscending.mp member with rfl | member
        · exact Ranked.connected ge ne
        · exact above e member

/-- A set, held as its elements in ascending order. -/
structure Ascending (α : Type u) [Ranked α] where
  elems : List α
  ascending : elems.Pairwise (· < ·)

namespace Ascending

variable {α : Type u} [Ranked α]

def empty : Ascending α := ⟨[], List.Pairwise.nil⟩

instance : Inhabited (Ascending α) := ⟨empty⟩

instance : Membership α (Ascending α) := ⟨fun s x => x ∈ s.elems⟩

instance : DecidableEq (Ascending α) := fun s t =>
  if h : s.elems = t.elems then
    .isTrue (by cases s; cases t; simp_all)
  else .isFalse fun same => h (by rw [same])

def insert (s : Ascending α) (x : α) : Ascending α :=
  ⟨insertAscending x s.elems, pairwise_insertAscending s.ascending⟩

def ofList (xs : List α) : Ascending α := xs.foldl insert empty

def union (s t : Ascending α) : Ascending α := t.elems.foldl insert s

theorem mem_insert {s : Ascending α} {x e : α} : e ∈ s.insert x ↔ e = x ∨ e ∈ s :=
  mem_insertAscending

theorem not_mem_empty {e : α} : e ∉ (empty : Ascending α) := List.not_mem_nil

theorem mem_foldl_insert {xs : List α} {s : Ascending α} {e : α} :
    e ∈ xs.foldl insert s ↔ e ∈ s ∨ e ∈ xs := by
  induction xs generalizing s with
  | nil => simp
  | cons x rest ih =>
    rw [List.foldl_cons, ih, mem_insert, List.mem_cons, or_comm (a := e = x), or_assoc]

theorem mem_ofList {xs : List α} {e : α} : e ∈ ofList xs ↔ e ∈ xs := by
  rw [ofList, mem_foldl_insert]
  exact or_iff_right not_mem_empty

theorem mem_union {s t : Ascending α} {e : α} : e ∈ s.union t ↔ e ∈ s ∨ e ∈ t := mem_foldl_insert

theorem nodup (s : Ascending α) : s.elems.Nodup := by
  refine s.ascending.imp ?_
  rintro a _ lt rfl
  exact Ranked.irrefl _ lt

theorem ext_mem {s t : Ascending α} (same : ∀ e, e ∈ s ↔ e ∈ t) : s = t := by
  have perm : s.elems.Perm t.elems := (List.perm_ext_iff_of_nodup s.nodup t.nodup).mpr same
  have equal : s.elems = t.elems :=
    perm.eq_of_pairwise (fun a b _ _ lt gt => absurd (Ranked.trans lt gt) (Ranked.irrefl a))
      s.ascending t.ascending
  obtain ⟨_, _⟩ := s
  obtain rfl := equal
  rfl

end Ascending

end TrafficControl
