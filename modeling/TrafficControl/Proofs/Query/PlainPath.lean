import TrafficControl.Proofs.Query.Canonical

namespace TrafficControl.Query

variable {name : List Char} {indexes : List Nat}

def rowText (indexes : List Nat) : List Char := indexes.flatMap fun i => (Step.index i).text

theorem brackets?_rowText (fit : ∀ i ∈ indexes, i < 2 ^ 64) :
    brackets? (rowText indexes) = some (indexes.map .index) := by
  induction indexes with
  | nil => simp [rowText, brackets?]
  | cons i rest ih =>
    obtain ⟨here, later⟩ := List.forall_mem_cons.mp fit
    have closed : Text.cut? ']' (Decimal.numeral i ++ ']' :: rowText rest) =
        some (Decimal.numeral i, rowText rest) := Text.cut?_append (closing_not_mem_numeral i)
    have text : rowText (i :: rest) = '[' :: (Decimal.numeral i ++ ']' :: rowText rest) := by
      simp [rowText, Step.text]
    rw [text, brackets?]
    split
    · next inner after found =>
      rw [closed] at found
      cases found
      simp [index?_numeral here, ih later]
    · next unclosed =>
      rw [closed] at unclosed
      cases unclosed

def opened (name : List Char) : List Step :=
  if name.isEmpty then [] else [.name (String.ofList name)]

theorem token?_opened (unbracketed : '[' ∉ name) (fit : ∀ i ∈ indexes, i < 2 ^ 64) :
    token? (name ++ rowText indexes) = some (opened name ++ indexes.map .index) := by
  have outside : ∀ c ∈ name, (c != '[') = true := by
    intro c mem
    have other : c ≠ '[' := fun same => unbracketed (same ▸ mem)
    simp [other]
  have stops : Text.Stops (· != '[') (rowText indexes) := by
    cases indexes with
    | nil => exact .nil
    | cons i rest => exact .cons (by decide)
  unfold token? opened
  rw [Text.takeWhile_run outside stops, Text.dropWhile_run outside stops, brackets?_rowText fit]
  cases name <;> simp

theorem steps?_token {token : List Char} (unpointed : '.' ∉ token) :
    steps? token = token? token := by
  cases token with
  | nil => simp [steps?, Text.splitOn, token?, brackets?]
  | cons c more =>
    rw [steps?, Text.splitOn_single unpointed]
    cases read : token? (c :: more) <;> simp [read]

theorem steps?_append {token rest : List Char} (unpointed : '.' ∉ token) :
    steps? (token ++ '.' :: rest) = (do
      let here ← token? token
      let later ← steps? rest
      some (here ++ later)) := by
  unfold steps?
  rw [Text.splitOn_append unpointed]
  cases token with
  | nil => simp [token?, brackets?]
  | cons c more => simp

theorem unpointed_rowText (indexes : List Nat) : '.' ∉ rowText indexes := by
  intro mem
  obtain ⟨i, -, inside⟩ := List.mem_flatMap.mp mem
  have digit : '.' ∈ Decimal.numeral i := by simpa [Step.text] using inside
  exact absurd (Decimal.isDigit_of_mem_numeral digit) (by decide)

theorem IsPlainName.opened {key : String} (plain : IsPlainName key.toList) :
    opened key.toList = [.name key] := by
  have nonempty : key.toList.isEmpty = false := List.isEmpty_eq_false_iff.mpr plain.nonempty
  simp [Query.opened, nonempty]

theorem steps?_inside {steps : List Step} (plain : ∀ s ∈ steps, s.IsPlain)
    (unbracketed : '[' ∉ name) (unpointed : '.' ∉ name) (fit : ∀ i ∈ indexes, i < 2 ^ 64) :
    steps? (name ++ rowText indexes ++ pathText steps) =
      some (opened name ++ indexes.map .index ++ steps) := by
  induction steps generalizing name indexes with
  | nil =>
    have inside : '.' ∉ name ++ rowText indexes := by simp [unpointed, unpointed_rowText]
    simpa [pathText, steps?_token inside] using token?_opened unbracketed fit
  | cons s rest ih =>
    obtain ⟨here, later⟩ := List.forall_mem_cons.mp plain
    cases s with
    | name key =>
      -- the point closes the token, and `key` opens the next one
      have named : IsPlainName key.toList := here
      have next : steps? (key.toList ++ rowText [] ++ pathText rest) =
          some (opened key.toList ++ [].map .index ++ rest) :=
        ih later named.unbracketed named.unpointed (by simp)
      have text : pathText (.name key :: rest) =
          '.' :: (key.toList ++ rowText [] ++ pathText rest) := by
        simp [pathText, Step.text, rowText]
      have inside : '.' ∉ name ++ rowText indexes := by simp [unpointed, unpointed_rowText]
      rw [text, steps?_append inside, token?_opened unbracketed fit, next, named.opened]
      simp
    | index i =>
      have fits : i < 2 ^ 64 := here
      have longer : steps? (name ++ rowText (indexes ++ [i]) ++ pathText rest) =
          some (opened name ++ (indexes ++ [i]).map .index ++ rest) :=
        ih later unbracketed unpointed (List.forall_mem_append.mpr ⟨fit, by simpa using fits⟩)
      simpa [rowText, pathText] using longer

theorem steps?_behind {steps : List Step} (plain : ∀ s ∈ steps, s.IsPlain)
    (unbracketed : '[' ∉ name) (unpointed : '.' ∉ name) :
    steps? (name ++ pathText steps) = some (opened name ++ steps) := by
  have read : steps? (name ++ rowText [] ++ pathText steps) =
      some (opened name ++ [].map .index ++ steps) :=
    steps?_inside plain unbracketed unpointed nofun
  simpa [rowText] using read

theorem steps?_relative {steps : List Step} (plain : ∀ s ∈ steps, s.IsPlain) :
    steps? (relative steps) = some steps := by
  have fromStart : steps? ([] ++ pathText steps) = some (opened [] ++ steps) :=
    steps?_behind plain (by simp) (by simp)
  rcases steps with _ | ⟨key | i, rest⟩
  · exact fromStart
  · obtain ⟨here, later⟩ := List.forall_mem_cons.mp plain
    have named : IsPlainName key.toList := here
    have behind : steps? (key.toList ++ pathText rest) = some (opened key.toList ++ rest) :=
      steps?_behind later named.unbracketed named.unpointed
    rw [relative, behind, named.opened]
    rfl
  · exact fromStart

theorem readPlain?_written (arguments : List Value) {n : Nat} {steps : List Step}
    {head : List Char} (written : Head steps n head) (fits : n < 2 ^ 64)
    (plain : ∀ s ∈ steps, s.IsPlain) :
    readPlain? (String.ofList (head ++ pathText steps)) arguments =
      arguments[n]?.bind fun v => (walk? steps v).bind Value.display? := by
  unfold readPlain?
  rw [String.toList_ofList, splitParam?_written written fits plain]
  cases argument : arguments[n]? <;> simp [argument, steps?_relative plain]

end TrafficControl.Query
