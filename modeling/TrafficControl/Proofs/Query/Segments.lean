import TrafficControl.Proofs.Query.PlainPath
import TrafficControl.Query.Resolver

namespace TrafficControl.Query

open JsonPath
open Json (skipSpace)

variable {steps : List Step} {rest : List Char} {i : Nat}

theorem call_not_mem_relative (canonical : ∀ s ∈ steps, s.IsCanonical) : ')' ∉ relative steps := by
  intro mem
  obtain ⟨s, listed, inside⟩ := List.mem_flatMap.mp (relative_subset steps mem)
  cases s with
  | name key =>
    have shorthand : IsShorthand key.toList := canonical _ listed
    have named : ')' ∈ key.toList := by simpa [Step.text] using inside
    exact shorthand.not_mem (by decide) named
  | index i =>
    have digit : ')' ∈ Decimal.numeral i := by simpa [Step.text] using inside
    exact absurd (Decimal.isDigit_of_mem_numeral digit) (by decide)

theorem absolute_relative (canonical : ∀ s ∈ steps, s.IsCanonical) :
    absolute (relative steps) = '$' :: pathText steps := by
  rcases steps with _ | ⟨key | i, rest⟩
  · rfl
  · have shorthand : IsShorthand key.toList := canonical _ List.mem_cons_self
    unfold absolute
    split
    · next empty =>
      obtain ⟨c, more, shape, -⟩ := shorthand.starts
      simp [relative, shape] at empty
    · next same => exact absurd same (shorthand.append_ne (by decide) _ _)
    · next same => exact absurd same (shorthand.append_ne (by decide) _ _)
    · rfl
  · rfl

theorem withoutLength_relative (canonical : ∀ s ∈ steps, s.IsCanonical) :
    withoutLength (relative steps) = (relative steps, false) := by
  have different : ¬ lengthSuffix <:+ relative steps := by
    intro suffix
    have closing : ')' ∈ lengthSuffix := by decide
    exact call_not_mem_relative canonical (suffix.subset closing)
  exact withoutLength_of_not_suffix different

theorem whole?_numeral (stops : Text.Stops Decimal.isDigit rest) :
    Json.Numeral.whole? (Decimal.numeral i ++ rest) = some (Decimal.numeral i, rest) := by
  unfold Json.Numeral.whole?
  rw [Decimal.takeWhile_numeral i stops, Decimal.dropWhile_numeral i stops]
  split
  · next empty => exact absurd empty (Decimal.numeral_ne_nil i)
  · next leads => exact nomatch Decimal.numeral_head_zero leads
  · rfl

theorem integer?_numeral (fits : i < 2 ^ 53) (stops : Text.Stops Decimal.isDigit rest) :
    integer? (Decimal.numeral i ++ rest) = some ((i : Int), rest) := by
  have unsigned : ∀ more, Decimal.numeral i ++ rest ≠ '-' :: more :=
    Decimal.numeral_append_ne (by decide) i rest
  have high : ¬ Int64.maxValue.toInt < (i : Int) := by
    have greatest : Int64.maxValue.toInt = 9223372036854775807 := by decide
    omega
  simp [integer?, whole?_numeral stops, Decimal.ofDigits_numeral, high]

theorem skipSpace_cons {c : Char} {cs : List Char} (dark : Json.isSpace c = false) :
    skipSpace (c :: cs) = c :: cs := by
  simp [skipSpace, dark]

theorem indexOrSlice?_numeral (fits : i < 2 ^ 53) :
    indexOrSlice? (Decimal.numeral i ++ ']' :: rest) = some (.index i, ']' :: rest) := by
  have read : integer? (Decimal.numeral i ++ ']' :: rest) = some ((i : Int), ']' :: rest) :=
    integer?_numeral fits (.cons (by decide))
  have closed : skipSpace (']' :: rest) = ']' :: rest := skipSpace_cons (by decide)
  obtain ⟨c, digits, shape, digit⟩ := Decimal.numeral_cons i
  rw [shape, List.cons_append] at read ⊢
  simp [indexOrSlice?, optionalInteger?, digit, read, closed]

theorem quoted?_numeral (i : Nat) (rest : List Char) :
    quoted? (Decimal.numeral i ++ rest) = none := by
  obtain ⟨c, digits, shape, digit⟩ := Decimal.numeral_cons i
  have unquoted : ¬ (c = '"' ∨ c = Char.ofNat 0x27) := by
    rintro (rfl | rfl) <;> exact absurd digit (by decide)
  simp only [shape, List.cons_append, quoted?]
  simp [unquoted]

theorem skipSpace_numeral (i : Nat) (rest : List Char) :
    skipSpace (Decimal.numeral i ++ rest) = Decimal.numeral i ++ rest := by
  obtain ⟨c, digits, shape, digit⟩ := Decimal.numeral_cons i
  have dark : Json.isSpace c = false := by
    rw [Bool.eq_false_iff]
    intro space
    have named : c = ' ' ∨ c = '\t' ∨ c = '\n' ∨ c = '\r' := by
      simpa [Json.isSpace, or_assoc] using space
    rcases named with rfl | rfl | rfl | rfl <;> exact absurd digit (by decide)
  rw [shape]
  exact skipSpace_cons dark

theorem selectors?_index (fits : i < 2 ^ 53) (fuel : Nat) :
    selectors? (fuel + 2) (Decimal.numeral i ++ ']' :: rest) = some ([.index i], rest) := by
  -- a digit starts neither a wildcard nor a filter nor a quoted name
  have selector : selector? (fuel + 1) (Decimal.numeral i ++ ']' :: rest) =
      some (.index i, ']' :: rest) := by
    unfold selector?
    split
    · next same => exact absurd same (Decimal.numeral_append_ne (by decide) i _ _)
    · next same => exact absurd same (Decimal.numeral_append_ne (by decide) i _ _)
    · rw [quoted?_numeral]
      exact indexOrSlice?_numeral fits
  have closed : skipSpace (']' :: rest) = ']' :: rest := skipSpace_cons (by decide)
  unfold selectors?
  rw [skipSpace_numeral, selector]
  simp [closed]

theorem stepSelector?_name {key : String} (shorthand : IsShorthand key.toList) (steps : List Step) :
    stepSelector? (key.toList ++ pathText steps) = some (.name key, pathText steps) := by
  obtain ⟨c, more, shape, start⟩ := shorthand.starts
  have named : ∀ d ∈ more, isNameChar d = true :=
    fun d mem => shorthand.chars d (shape ▸ List.mem_cons_of_mem _ mem)
  have stops : Text.Stops isNameChar (pathText steps) :=
    stops_pathText (by decide) (by decide) steps
  have text : String.ofList (c :: more) = key := by rw [← shape, String.ofList_toList]
  have read : shorthand? (key.toList ++ pathText steps) = some (key, pathText steps) := by
    rw [shape, List.cons_append]
    simp [shorthand?, start, Text.takeWhile_run named stops, Text.dropWhile_run named stops, text]
  unfold stepSelector?
  split
  · next same => exact absurd same (shorthand.append_ne (by decide) _ _)
  · rw [read]
    rfl

def Step.selector : Step → Selector
  | .name key => .name key
  | .index i => .index i

def segmentsOf (steps : List Step) : List Segment := steps.map fun s => .child [s.selector]

theorem segments?_pathText (canonical : ∀ s ∈ steps, s.IsCanonical) {fuel : Nat}
    (enough : steps.length + 3 ≤ fuel) :
    segments? fuel (pathText steps) = some (segmentsOf steps, []) := by
  induction steps generalizing fuel with
  | nil =>
    obtain ⟨fuel, rfl⟩ : ∃ more, fuel = more + 1 := ⟨fuel - 1, by simp at enough; omega⟩
    simp [pathText, segments?, skipSpace, segmentsOf]
  | cons s rest ih =>
    obtain ⟨here, later⟩ := List.forall_mem_cons.mp canonical
    -- one call for the segment, and two more where its selector stands in brackets
    obtain ⟨fuel, rfl⟩ : ∃ more, fuel = more + 2 + 1 := ⟨fuel - 3, by simp at enough; omega⟩
    have others : segments? (fuel + 2) (pathText rest) = some (segmentsOf rest, []) :=
      ih later (by simp at enough; omega)
    cases s with
    | name key =>
      have shorthand : IsShorthand key.toList := here
      have selector := stepSelector?_name shorthand rest
      have visible : skipSpace ('.' :: (key.toList ++ pathText rest)) =
          '.' :: (key.toList ++ pathText rest) := skipSpace_cons (by decide)
      have text : pathText (.name key :: rest) = '.' :: (key.toList ++ pathText rest) := rfl
      rw [text, segments?]
      · simp [visible, selector, others, segmentsOf, Step.selector]
      · intro more same
        exact shorthand.append_ne (by decide) _ _ (List.cons.inj same).2
    | index i =>
      have selectors : selectors? (fuel + 2) (Decimal.numeral i ++ ']' :: pathText rest) =
          some ([.index i], pathText rest) := selectors?_index here fuel
      have visible : skipSpace ('[' :: (Decimal.numeral i ++ ']' :: pathText rest)) =
          '[' :: (Decimal.numeral i ++ ']' :: pathText rest) := skipSpace_cons (by decide)
      have text : pathText (.index i :: rest) =
          '[' :: (Decimal.numeral i ++ ']' :: pathText rest) := by simp [pathText, Step.text]
      rw [text, segments?]
      · simp [visible, selectors, others, segmentsOf, Step.selector]
      · intro more same
        cases same

theorem length_le_pathText (steps : List Step) : steps.length ≤ (pathText steps).length := by
  induction steps with
  | nil => exact Nat.le_refl 0
  | cons s rest ih =>
    have longer : 0 < s.text.length := by cases s <;> exact Nat.succ_pos _
    have text : pathText (s :: rest) = s.text ++ pathText rest := rfl
    rw [text, List.length_append, List.length_cons]
    omega

theorem ofText?_relative (canonical : ∀ s ∈ steps, s.IsCanonical) :
    ofText? (absolute (relative steps)) = some (segmentsOf steps) := by
  have enough : steps.length + 3 ≤ 10 * (pathText steps).length + 10 := by
    have le := length_le_pathText steps
    omega
  rw [absolute_relative canonical]
  simp [ofText?, segments?_pathText canonical enough]

def Step.child? : Step → Json → Option Json
  | .name key, node => node.member? key
  | .index i, node => node.element? i

def walkNodes? (steps : List Step) (node : Json) : Option Json :=
  steps.foldlM (fun node s => Step.child? s node) node

theorem select_selector (root node : Json) (s : Step) :
    s.selector.select root node = (s.child? node).toList := by
  cases s with
  | name key => rfl
  | index i =>
    have fromStart : ¬ (i : Int) < 0 := by omega
    cases node <;>
      simp [Step.selector, Selector.select, elementFrom?, Step.child?, Json.element?, fromStart]

theorem follow_nil (root : Json) (segments : List Segment) : follow root segments [] = [] := by
  induction segments with
  | nil => rfl
  | cons s rest ih => simpa [follow] using ih

theorem follow_segmentsOf (root node : Json) (steps : List Step) :
    follow root (segmentsOf steps) [node] = (walkNodes? steps node).toList := by
  induction steps generalizing node with
  | nil => rfl
  | cons s rest ih =>
    have here : ([node].flatMap fun n => (Segment.child [s.selector]).follow root n) =
        (s.child? node).toList := by
      simp [Segment.follow, selectAll, select_selector]
    have unfolded : follow root (segmentsOf (s :: rest)) [node] =
        follow root (segmentsOf rest) (s.child? node).toList := by
      rw [← here]
      rfl
    rw [unfolded, walkNodes?, List.foldlM_cons]
    cases s.child? node with
    | none => exact follow_nil root _
    | some child => exact ih child

end TrafficControl.Query
