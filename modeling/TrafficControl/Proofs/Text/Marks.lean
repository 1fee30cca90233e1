import TrafficControl.Proofs.Text.Scan

namespace TrafficControl.Text

/-- Starts with `lead` and has it nowhere else, so that two such texts cannot overlap. -/
def LeadsOnce (lead : Char) (mark : List Char) : Prop :=
  mark.head? = some lead ∧ lead ∉ mark.tail

instance (lead : Char) (mark : List Char) : Decidable (LeadsOnce lead mark) :=
  inferInstanceAs (Decidable (_ ∧ _))

section Marks

variable {lead : Char} {mark mark' before before' after after' : List Char}

theorem LeadsOnce.swallowed (once : LeadsOnce lead mark) (once' : LeadsOnce lead mark')
    (same : mark ++ after = before ++ (mark' ++ after')) :
    before = [] ∨ ∃ between, before = mark ++ between ∧ after = between ++ (mark' ++ after') := by
  rcases List.append_eq_append_iff.mp same with ⟨between, outer, rest⟩ | ⟨inner, cut, rest⟩
  · exact .inr ⟨between, outer, rest⟩
  · cases before with
    | nil => exact .inl rfl
    | cons first before =>
      cases inner with
      | nil => exact .inr ⟨[], by simpa using cut.symm, by simpa using rest.symm⟩
      | cons next inner =>
        -- `next` would be a second `lead` in `mark`
        obtain ⟨starts', -⟩ := once'
        obtain ⟨tail', rfl⟩ : ∃ tail', mark' = lead :: tail' := by
          cases mark' with
          | nil => simp at starts'
          | cons c tail' => exact ⟨tail', by simpa using starts'⟩
        have isLead : lead = next := by
          have heads := congrArg List.head? rest
          simpa using heads
        have again : lead ∈ mark.tail := by simp [cut, isLead]
        exact absurd again once.2

theorem LeadsOnce.cuts (once : LeadsOnce lead mark) (once' : LeadsOnce lead mark')
    (same : before ++ (mark ++ after) = before' ++ (mark' ++ after')) :
    (before = before' ∧ mark ++ after = mark' ++ after') ∨
      (∃ between, before' = before ++ (mark ++ between) ∧
        after = between ++ (mark' ++ after')) ∨
      (∃ between, before = before' ++ (mark' ++ between) ∧
        after' = between ++ (mark ++ after)) := by
  rcases List.append_eq_append_iff.mp same with ⟨extra, outer, rest⟩ | ⟨extra, outer, rest⟩
  · rcases once.swallowed once' rest with rfl | ⟨between, rfl, later⟩
    · exact .inl ⟨by simpa using outer.symm, by simpa using rest⟩
    · exact .inr (.inl ⟨between, outer, later⟩)
  · rcases once'.swallowed once rest with rfl | ⟨between, rfl, later⟩
    · exact .inl ⟨by simpa using outer, by simpa using rest.symm⟩
    · exact .inr (.inr ⟨between, outer, later⟩)

def Begins (marks : List (List Char)) (text : List Char) : Prop :=
  text = [] ∨ ∃ mark ∈ marks, mark <+: text

def Clear (marks : List (List Char)) (text : List Char) : Prop :=
  ∀ mark ∈ marks, ¬ mark <:+: text

theorem infix_of_between {between : List Char} (same : before' = before ++ (mark ++ between)) :
    mark <:+: before' := ⟨before, between, by simp [same]⟩

theorem append_inj_of_clear (lead : Char) {marks : List (List Char)}
    (once : ∀ mark ∈ marks, LeadsOnce lead mark)
    (clear : Clear marks before) (clear' : Clear marks before') (begins : Begins marks after)
    (begins' : Begins marks after') (same : before ++ after = before' ++ after') :
    before = before' ∧ after = after' := by
  rcases begins with rfl | ⟨mark, listed, rest, rfl⟩ <;>
    rcases begins' with rfl | ⟨mark', listed', rest', rfl⟩
  · simpa using same
  · exact absurd (infix_of_between (by simpa using same)) (clear mark' listed')
  · exact absurd (infix_of_between (by simpa using same.symm)) (clear' mark listed)
  · rcases (once mark listed).cuts (once mark' listed') same with
      equal | ⟨between, inside, -⟩ | ⟨between, inside, -⟩
    · exact equal
    · exact absurd (infix_of_between inside) (clear' mark listed)
    · exact absurd (infix_of_between inside) (clear mark' listed')

theorem cutWord?_append (once : LeadsOnce lead mark) (clear : ¬mark <:+: before) :
    cutWord? mark (before ++ (mark ++ after)) = some (before, after) := by
  have nonempty : mark ≠ [] := by
    rintro rfl
    cases once.1
  cases found : cutWord? mark (before ++ (mark ++ after)) with
  | none => exact absurd ⟨before, after, List.append_assoc ..⟩ (not_infix_of_cutWord?_eq_none found)
  | some cut =>
    obtain ⟨before', after'⟩ := cut
    obtain ⟨same, clear'⟩ := eq_of_cutWord? nonempty found
    rcases once.cuts once same with ⟨rfl, rest⟩ | ⟨between, inside, -⟩ | ⟨between, inside, -⟩
    · rw [List.append_cancel_left rest]
    · exact absurd (infix_of_between inside) clear'
    · exact absurd (infix_of_between inside) clear

end Marks

end TrafficControl.Text
