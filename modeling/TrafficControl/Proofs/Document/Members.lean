import TrafficControl.Proofs.Document.Loosening

namespace TrafficControl.Reader

section Exact

variable {α : Type} {read : Reader α} {write : α → Json}

def Exact (read : Reader α) (write : α → Json) : Prop :=
  ∀ place j v, read place (.ofJson j) = .ok v → write v = j

theorem seen_ofJson (place : Place) (j : Json) : seen place (.ofJson j) = .ofJson j := by
  cases place <;> cases j <;> rfl

theorem exact_text : Exact text .str := by
  intro place j v found
  simp only [text, expectText, seen_ofJson] at found
  cases j <;> cases found
  rfl

theorem exact_boolean : Exact boolean .bool := by
  intro place j v found
  simp only [boolean, seen_ofJson] at found
  cases j <;> cases found
  rfl

theorem exact_word64 : Exact word64 (fun n => .int n.toNat) := by
  intro place j v found
  simp only [word64, word, seen_ofJson] at found
  cases j with
  | int n =>
    simp only [Document.ofJson] at found
    split at found
    · next bounds =>
      cases found
      have small : n.toNat < UInt64.size := bounds.2
      have whole : (n.toNat : Int) = n := Int.toNat_of_nonneg bounds.1
      simp only [UInt64.toNat_ofNat', Nat.mod_eq_of_lt small, whole]
    · cases found
  | _ => cases found

theorem Exact.optional (exact : Exact read write) :
    Exact (Reader.optional read) fun v? => .ofOption (v?.map write) := by
  intro place j v? found
  by_cases null : j = .null
  · subst null
    cases found
    rfl
  · have content : Reader.optional read place (.ofJson j) = (read place (.ofJson j)).map some := by
      cases j with
      | null => exact absurd rfl null
      | _ => rfl
    rw [content] at found
    obtain ⟨v, value, rfl⟩ := map_eq_ok_iff.mp found
    exact exact place j v value

end Exact

section Records

variable {α : Type} {form : Form α} {write : α → Json} {members : List (String × Json)}
  {start x : α} {place : Place}

/-- The field of `x` is read from its member, or it is the one of `start` where it has none. -/
def Slot.Taken (s : Slot α) (place : Place) (members : List (String × Json)) (start x : α) : Prop :=
  match Entries.get? s.name members with
  | some j => s.read place (.ofJson j) = .ok (s.get x)
  | none => s.get x = s.get start

theorem setField_cases (slots : form.Slots write) {draft next : Draft α} {key : String} {j : Json}
    (set : setField form.fields place draft (.str key, .ofJson j) = .ok next) :
    (∃ s ∈ slots.all, s.name = key ∧ ∃ v, s.read place (.ofJson j) = .ok v ∧
      next.record = s.put v draft.record) ∨
    (∀ s ∈ slots.all, s.name ≠ key) ∧ next = draft := by
  obtain ⟨name?, named, set⟩ := bind_eq_ok_iff.mp set
  rw [fieldName_str] at named
  cases named
  by_cases known : ∃ s ∈ slots.all, s.name = key
  · obtain ⟨s, member, rfl⟩ := known
    refine .inl ⟨s, member, rfl, ?_⟩
    simp only [slots.find?_field member] at set
    split at set
    · cases set
    · obtain ⟨record, read, same⟩ := bind_eq_ok_iff.mp set
      cases same
      obtain ⟨v, value, rfl⟩ := map_eq_ok_iff.mp read
      exact ⟨v, value, rfl⟩
  · have unknown : ∀ s ∈ slots.all, s.name ≠ key := fun s member same => known ⟨s, member, same⟩
    simp only [slots.find?_none unknown] at set
    cases set
    exact .inr ⟨unknown, rfl⟩

theorem setField_taken (slots : form.Slots write) {draft next : Draft α} {m : String × Json}
    (fresh : m.1 ∉ members.map Prod.fst)
    (taken : ∀ s ∈ slots.all, s.Taken place members start draft.record)
    (set : setField form.fields place draft (.str m.1, .ofJson m.2) = .ok next) :
    ∀ s ∈ slots.all, s.Taken place (members ++ [m]) start next.record := by
  have old {s : Slot α} (other : s.name ≠ m.1) :
      Entries.get? s.name (members ++ [m]) = Entries.get? s.name members := by
    rw [Entries.get?_append]
    simp [Entries.get?, Ne.symm other]
  intro s member
  have earlier := taken s member
  rcases setField_cases slots set with ⟨t, own, named, v, value, written⟩ | ⟨unknown, rfl⟩
  · by_cases same : s.name = m.1
    · obtain rfl := slots.eq_of_name member own (same.trans named.symm)
      have found : Entries.get? s.name (members ++ [m]) = some m.2 := by
        rw [same, Entries.get?_append, Entries.get?_eq_none fresh]
        simp [Entries.get?]
      simp only [Slot.Taken, found, written, s.get_put, value]
    · have apart := slots.apart_of_ne own member fun names => same (names.symm.trans named)
      simp only [Slot.Taken, old same, written, apart.1] at earlier ⊢
      exact earlier
  · simp only [Slot.Taken, old (unknown s member)] at earlier ⊢
    exact earlier

theorem foldlM_setField_taken (slots : form.Slots write) {draft : Draft α}
    (distinct : (members.map Prod.fst).Nodup)
    (built : (Document.entriesOfJson members).foldlM (setField form.fields place) ⟨start, []⟩ =
      .ok draft) :
    ∀ s ∈ slots.all, s.Taken place members start draft.record := by
  rw [Document.entriesOfJson_eq_map] at built
  induction members using List.reverseRecOn generalizing draft with
  | nil =>
    cases built
    exact fun s _ => rfl
  | append_singleton before m ih =>
    rw [List.map_append, List.nodup_append] at distinct
    obtain ⟨distinct, _, apart⟩ := distinct
    have fresh : m.1 ∉ before.map Prod.fst := fun earlier =>
      apart m.1 earlier m.1 (by simp) rfl
    rw [List.map_append, List.foldlM_append] at built
    obtain ⟨former, earlier, built⟩ := bind_eq_ok_iff.mp built
    rw [List.map_singleton, List.foldlM_cons] at built
    obtain ⟨next, last, same⟩ := bind_eq_ok_iff.mp built
    cases same
    exact setField_taken slots fresh (ih distinct earlier) last

theorem record_taken (slots : form.Slots write) (distinct : (members.map Prod.fst).Nodup)
    (accepted : record form place (.ofJson (.object members)) = .ok x) :
    ∀ s ∈ slots.all, s.Taken place members form.start x := by
  rw [record_object] at accepted
  obtain ⟨draft, built, accepted⟩ := bind_eq_ok_iff.mp accepted
  split at accepted
  · cases accepted
  · cases accepted
    exact foldlM_setField_taken slots distinct built

theorem record_member? (slots : form.Slots write)
    (exact : ∀ s ∈ slots.all, Exact s.read s.write) (distinct : (members.map Prod.fst).Nodup)
    (accepted : record form place (.ofJson (.object members)) = .ok x) {s : Slot α}
    (member : s ∈ slots.all) :
    (write x).member? s.name =
      some ((Entries.get? s.name members).getD (s.tree form.start)) := by
  have taken := record_taken slots distinct accepted s member
  rw [slots.tree x member]
  unfold Slot.Taken at taken
  split at taken
  · next j found =>
    rw [found, Option.getD_some, Slot.tree, exact s member place j _ taken]
  · next absent =>
    rw [absent, Option.getD_none, Slot.tree, Slot.tree, taken]

end Records

end TrafficControl.Reader
