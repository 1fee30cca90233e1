import TrafficControl.Proofs.Text.Scan

namespace TrafficControl.Text

def AllBlank (cs : List Char) : Prop := ∀ c ∈ cs, isBlankChar c = true

structure Trimmed (cs : List Char) : Prop where
  starts : Stops isBlankChar cs
  ends : EndsVisibly cs

/-- The text is `core` with white space put around it. -/
def Padded (core cs : List Char) : Prop :=
  ∃ front back, AllBlank front ∧ AllBlank back ∧ cs = front ++ (core ++ back)

variable {p : Char → Bool} {front back core cs cs' : List Char} {s t : String}

theorem allBlank_nil : AllBlank [] := nofun

theorem AllBlank.append (first : AllBlank front) (second : AllBlank back) :
    AllBlank (front ++ back) := by
  intro c member
  rcases List.mem_append.mp member with member | member
  · exact first c member
  · exact second c member

theorem AllBlank.reverse (blank : AllBlank cs) : AllBlank cs.reverse :=
  fun c member => blank c (List.mem_reverse.mp member)

theorem Padded.refl (cs : List Char) : Padded cs cs :=
  ⟨[], [], allBlank_nil, allBlank_nil, (List.append_nil cs).symm⟩

theorem Padded.trans (inner : Padded core cs) (outer : Padded cs cs') : Padded core cs' := by
  obtain ⟨front, back, before, behind, rfl⟩ := inner
  obtain ⟨front', back', before', behind', rfl⟩ := outer
  refine ⟨front' ++ front, back ++ back', before'.append before, behind.append behind', ?_⟩
  simp only [List.append_assoc]

theorem Stops.start {rest : List Char} (stops : Stops p cs) (part : rest <+: cs) :
    Stops p rest := by
  obtain ⟨more, rfl⟩ := part
  intro c first
  cases rest with
  | nil => cases first
  | cons d rest => exact stops c first

theorem stops_dropWhile (p : Char → Bool) (cs : List Char) : Stops p (cs.dropWhile p) := by
  intro c first
  have other := List.head?_dropWhile_not p cs
  rw [Option.mem_def.mp first] at other
  exact other

theorem trimChars_of_padded (trimmed : Trimmed core) (padded : Padded core cs) :
    trimChars cs = core := by
  obtain ⟨front, back, before, behind, rfl⟩ := padded
  cases core with
  | nil =>
    have all := before.append behind
    rw [List.nil_append, trimChars, strip, List.dropWhile_eq_nil_iff.mpr all]
    rfl
  | cons c rest =>
    have starts : Stops isBlankChar (c :: rest ++ back) := trimmed.starts
    have ends : Stops isBlankChar (c :: rest).reverse := by
      rw [Stops, List.head?_reverse]
      exact trimmed.ends
    rw [trimChars, strip, dropWhile_run before starts, List.reverse_append,
      dropWhile_run behind.reverse ends, List.reverse_reverse]

theorem padded_trimChars (cs : List Char) : Padded (trimChars cs) cs := by
  let rest := cs.dropWhile isBlankChar
  have cut : trimChars cs ++ (rest.reverse.takeWhile isBlankChar).reverse = rest := by
    have parts := List.takeWhile_append_dropWhile (p := isBlankChar) (l := rest.reverse)
    have whole := congrArg List.reverse parts
    rwa [List.reverse_append, List.reverse_reverse] at whole
  refine ⟨cs.takeWhile isBlankChar, (rest.reverse.takeWhile isBlankChar).reverse, ?_, ?_, ?_⟩
  · exact fun c member => List.mem_takeWhile_imp member
  · exact AllBlank.reverse fun c member => List.mem_takeWhile_imp member
  · rw [cut]
    exact List.takeWhile_append_dropWhile.symm

theorem trimmed_trimChars (cs : List Char) : Trimmed (trimChars cs) where
  starts := by
    have part : trimChars cs <+: cs.dropWhile isBlankChar := by
      rw [trimChars, strip, ← List.reverse_suffix, List.reverse_reverse]
      exact List.dropWhile_suffix _
    exact (stops_dropWhile isBlankChar cs).start part
  ends := by
    rw [EndsVisibly, trimChars, strip, List.getLast?_reverse]
    exact stops_dropWhile isBlankChar _

theorem trimChars_pad (padded : Padded cs cs') : trimChars cs' = trimChars cs :=
  trimChars_of_padded (trimmed_trimChars cs) ((padded_trimChars cs).trans padded)

theorem Trimmed.append {more : List Char} (first : Trimmed cs) (nonempty : cs ≠ [])
    (ends : EndsVisibly more) : Trimmed (cs ++ more) where
  starts := by
    obtain ⟨c, rest, rfl⟩ := List.exists_cons_of_ne_nil nonempty
    exact first.starts
  ends := first.ends.append ends

theorem exists_trimChars_append (trimmed : Trimmed core) (nonempty : core ≠ []) (cs : List Char) :
    ∃ rest, trimChars (core ++ cs) = core ++ rest ∧ trimChars rest = trimChars cs := by
  obtain ⟨front, back, before, behind, whole⟩ := padded_trimChars cs
  by_cases trimmedAway : trimChars cs = []
  · have blank : AllBlank cs := by
      rw [whole, trimmedAway, List.nil_append]
      exact before.append behind
    refine ⟨[], ?_, trimmedAway.symm⟩
    rw [List.append_nil]
    exact trimChars_of_padded trimmed ⟨[], cs, allBlank_nil, blank, rfl⟩
  · have ends : EndsVisibly (front ++ trimChars cs) := by
      rw [EndsVisibly, List.getLast?_append_of_ne_nil _ trimmedAway]
      exact (trimmed_trimChars cs).ends
    refine ⟨front ++ trimChars cs, ?_, ?_⟩
    · apply trimChars_of_padded (trimmed.append nonempty ends)
      refine ⟨[], back, allBlank_nil, behind, ?_⟩
      rw [List.nil_append, List.append_assoc, List.append_assoc, ← whole]
    · apply trimChars_of_padded (trimmed_trimChars cs)
      exact ⟨front, [], before, allBlank_nil, by rw [List.append_nil]⟩

theorem trimChars_eq_nil_iff : trimChars cs = [] ↔ AllBlank cs := by
  constructor
  · intro empty
    obtain ⟨front, back, before, behind, whole⟩ := padded_trimChars cs
    rw [whole, empty, List.nil_append]
    exact before.append behind
  · intro blank
    have padded : Padded [] cs := ⟨cs, [], blank, allBlank_nil, (List.append_nil cs).symm⟩
    exact trimChars_of_padded ⟨.nil, nofun⟩ padded

section Strings

variable {before s behind t : String}

theorem isBlank_iff : isBlank s = true ↔ AllBlank s.toList := List.all_eq_true

theorem isBlank_iff_trim : isBlank s = true ↔ trim s = "" := by
  rw [isBlank_iff, ← trimChars_eq_nil_iff, trim, ← String.toList_inj, String.toList_ofList]
  rfl

theorem trim_trim (s : String) : trim (trim s) = trim s := by
  have same : trimChars (trimChars s.toList) = trimChars s.toList :=
    trimChars_of_padded (trimmed_trimChars _) (.refl _)
  rw [trim, trim, String.toList_ofList, same]

theorem isBlank_trim (s : String) : isBlank (trim s) = isBlank s := by
  rw [Bool.eq_iff_iff, isBlank_iff_trim, isBlank_iff_trim, trim_trim]

theorem trim_pad (front : isBlank before = true) (back : isBlank behind = true) (s : String) :
    trim (before ++ s ++ behind) = trim s := by
  rw [isBlank_iff] at front back
  have padded : Padded s.toList (before ++ s ++ behind).toList :=
    ⟨_, _, front, back, by simp only [String.toList_append, List.append_assoc]⟩
  rw [trim, trim, trimChars_pad padded]

theorem trim_eq_self_iff : trim s = s ↔ Trimmed s.toList := by
  constructor
  · intro same
    have chars : trimChars s.toList = s.toList := by
      rw [← String.toList_inj, trim, String.toList_ofList] at same
      exact same
    rw [← chars]
    exact trimmed_trimChars _
  · intro trimmed
    rw [trim, trimChars_of_padded trimmed (.refl _), String.ofList_toList]

theorem exists_trim_append (trimmed : trim s = s) (nonempty : s ≠ "") (t : String) :
    ∃ rest, trim (s ++ t) = s ++ rest ∧ trim rest = trim t := by
  rw [trim_eq_self_iff] at trimmed
  have filled : s.toList ≠ [] := fun empty => nonempty (String.toList_inj.mp empty)
  obtain ⟨rest, whole, same⟩ := exists_trimChars_append trimmed filled t.toList
  refine ⟨String.ofList rest, ?_, ?_⟩
  · rw [trim, String.toList_append, whole, String.ofList_append, String.ofList_toList]
  · rw [trim, trim, String.toList_ofList, same]

theorem trim_append_self (first : trim s = s) (nonempty : s ≠ "") (second : trim t = t) :
    trim (s ++ t) = s ++ t := by
  rw [trim_eq_self_iff] at first second ⊢
  have filled : s.toList ≠ [] := fun empty => nonempty (String.toList_inj.mp empty)
  rw [String.toList_append]
  exact first.append filled second.ends

theorem trimmedNonBlank?_eq (s : String) :
    trimmedNonBlank? s = if isBlank s then none else some (trim s) := by
  rw [trimmedNonBlank?, nonBlank?, isBlank_trim]

theorem trimmedNonBlank?_congr (same : trim s = trim t) :
    trimmedNonBlank? s = trimmedNonBlank? t := by
  rw [trimmedNonBlank?, trimmedNonBlank?, same]

end Strings

end TrafficControl.Text
