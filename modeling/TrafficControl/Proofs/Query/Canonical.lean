import Mathlib.Algebra.Group.Nat.Defs
import TrafficControl.Proofs.Decimal.Numeral
import TrafficControl.Query.JsonPath.Reader
import TrafficControl.Query.Walk

namespace TrafficControl.Query

open JsonPath (isNameStart isNameChar)
open Text (isBlankChar)

structure IsShorthand (name : List Char) : Prop where
  starts : ∃ c rest, name = c :: rest ∧ isNameStart c = true
  chars : ∀ c ∈ name, isNameChar c = true
  visible : ∀ c ∈ name, isBlankChar c = false

/-- The greatest index that RFC 9535 asks for is 2^53 - 1. -/
def Step.IsCanonical : Step → Prop
  | .name key => IsShorthand key.toList
  | .index i => i < 2 ^ 53

structure IsPlainName (name : List Char) : Prop where
  nonempty : name ≠ []
  unpointed : '.' ∉ name
  unbracketed : '[' ∉ name
  visible : ∀ c ∈ name, isBlankChar c = false

def Step.IsPlain : Step → Prop
  | .name key => IsPlainName key.toList
  | .index i => i < 2 ^ 64

def Step.text : Step → List Char
  | .name key => '.' :: key.toList
  | .index i => '[' :: (Decimal.numeral i ++ [']'])

def pathText (steps : List Step) : List Char := steps.flatMap Step.text

/-- The ways to write the argument before a path. An index behind the bare word would name the
argument. -/
inductive Head (steps : List Step) : Nat → List Char → Prop
  | digits (n : Nat) : Head steps n ("param".toList ++ Decimal.numeral n)
  | brackets (n : Nat) : Head steps n ("param".toList ++ ('[' :: (Decimal.numeral n ++ [']'])))
  | bare (noIndex : ∀ i rest, steps ≠ .index i :: rest) : Head steps 0 "param".toList

def relative : List Step → List Char
  | .name key :: rest => key.toList ++ pathText rest
  | steps => pathText steps

section Characters

theorem isNameChar_separator : ∀ c ∈ ['.', '[', ']', ')', '$', '*'], isNameChar c = false :=
  Text.forall_mem_of_all (by decide)

theorem IsShorthand.not_mem {name : List Char} (shorthand : IsShorthand name) {c : Char}
    (separator : c ∈ ['.', '[', ']', ')', '$', '*']) : c ∉ name := by
  intro mem
  have part := shorthand.chars c mem
  rw [isNameChar_separator c separator] at part
  cases part

theorem IsShorthand.append_ne {name : List Char} (shorthand : IsShorthand name) {c : Char}
    (separator : c ∈ ['.', '[', ']', ')', '$', '*']) (after rest : List Char) :
    name ++ after ≠ c :: rest := by
  intro same
  obtain ⟨first, more, rfl, -⟩ := shorthand.starts
  obtain rfl : first = c := (List.cons.inj same).1
  exact shorthand.not_mem separator List.mem_cons_self

theorem IsShorthand.isPlain {name : List Char} (shorthand : IsShorthand name) :
    IsPlainName name where
  nonempty := by
    obtain ⟨c, rest, shape, -⟩ := shorthand.starts
    simp [shape]
  unpointed := shorthand.not_mem (by decide)
  unbracketed := shorthand.not_mem (by decide)
  visible := shorthand.visible

theorem Step.IsCanonical.isPlain {s : Step} (canonical : s.IsCanonical) : s.IsPlain := by
  cases s with
  | name key => exact IsShorthand.isPlain canonical
  | index i => exact Nat.lt_trans canonical (by decide)

theorem isBlankChar_of_isDigit {c : Char} (digit : Decimal.isDigit c = true) :
    isBlankChar c = false := by
  obtain ⟨low, high⟩ : 48 ≤ c.toNat ∧ c.toNat ≤ 57 := by
    simpa [Decimal.isDigit, Char.le_def, UInt32.le_iff_toNat_le] using digit
  simp [isBlankChar]
  omega

end Characters

section Visible

theorem visible_numeral (n : Nat) : ∀ c ∈ Decimal.numeral n, isBlankChar c = false :=
  fun _ mem => isBlankChar_of_isDigit (Decimal.isDigit_of_mem_numeral mem)

theorem Step.IsPlain.visible {s : Step} (plain : s.IsPlain) :
    ∀ c ∈ s.text, isBlankChar c = false := by
  cases s with
  | name key => exact List.forall_mem_cons.mpr ⟨by decide, IsPlainName.visible plain⟩
  | index i =>
    refine List.forall_mem_cons.mpr ⟨by decide, ?_⟩
    exact List.forall_mem_append.mpr ⟨visible_numeral i, Text.forall_mem_of_all (by decide)⟩

variable {steps : List Step}

theorem visible_pathText (plain : ∀ s ∈ steps, s.IsPlain) :
    ∀ c ∈ pathText steps, isBlankChar c = false := by
  intro c mem
  obtain ⟨s, listed, inside⟩ := List.mem_flatMap.mp mem
  exact (plain s listed).visible c inside

theorem relative_subset (steps : List Step) : relative steps ⊆ pathText steps := by
  rcases steps with _ | ⟨key | i, rest⟩
  · exact List.Subset.refl _
  · exact List.subset_cons_self _ _
  · exact List.Subset.refl _

theorem visible_relative (plain : ∀ s ∈ steps, s.IsPlain) :
    ∀ c ∈ relative steps, isBlankChar c = false :=
  fun c mem => visible_pathText plain c (relative_subset steps mem)

theorem Head.visible {n : Nat} {head : List Char} (written : Head steps n head) :
    ∀ c ∈ head, isBlankChar c = false := by
  have word : ∀ c ∈ "param".toList, isBlankChar c = false :=
    Text.forall_mem_of_all (by decide)
  cases written with
  | digits => exact List.forall_mem_append.mpr ⟨word, visible_numeral n⟩
  | brackets =>
    refine List.forall_mem_append.mpr ⟨word, List.forall_mem_cons.mpr ⟨by decide, ?_⟩⟩
    exact List.forall_mem_append.mpr ⟨visible_numeral n, Text.forall_mem_of_all (by decide)⟩
  | bare => exact word

end Visible

section Head

variable {steps : List Step} {n : Nat} {head rest : List Char}

theorem le_maxIndex (fits : n < 2 ^ 64) : n ≤ maxIndex := by
  simp only [maxIndex, UInt64.size]
  omega

theorem index?_numeral (fits : n < 2 ^ 64) : index? (Decimal.numeral n) = some n := by
  rw [index?, Text.trimChars_eq_self (visible_numeral n),
    Decimal.bounded?_numeral (le_maxIndex fits)]

theorem closing_not_mem_numeral (n : Nat) : ']' ∉ Decimal.numeral n := fun mem =>
  absurd (Decimal.isDigit_of_mem_numeral mem) (by decide)

theorem argument?_digits (fits : n < 2 ^ 64) (stops : Text.Stops Decimal.isDigit rest) :
    argument? (Decimal.numeral n ++ rest) = some (n, rest) := by
  unfold argument?
  split
  · next same => exact absurd same (Decimal.numeral_append_ne (by decide) n _ _)
  · rw [Decimal.takeWhile_numeral n stops, Decimal.dropWhile_numeral n stops]
    split
    · next empty => exact absurd empty (Decimal.numeral_ne_nil n)
    · rw [Decimal.bounded?_numeral (le_maxIndex fits)]
      rfl

theorem argument?_brackets (fits : n < 2 ^ 64) :
    argument? ('[' :: (Decimal.numeral n ++ ']' :: rest)) = some (n, rest) := by
  simp [argument?, Text.cut?_append (closing_not_mem_numeral n), index?_numeral fits]

theorem stops_pathText {p : Char → Bool} (point : p '.' = false) (bracket : p '[' = false)
    (steps : List Step) : Text.Stops p (pathText steps) := by
  rcases steps with _ | ⟨key | i, rest⟩
  · exact .nil
  · exact .cons point
  · exact .cons bracket

theorem argument?_bare (noIndex : ∀ i rest, steps ≠ .index i :: rest) :
    argument? (pathText steps) = some (0, pathText steps) := by
  rcases steps with _ | ⟨key | i, rest⟩
  · rfl
  · have point : Decimal.isDigit '.' = false := by decide
    simp [argument?, pathText, Step.text, point]
  · exact absurd rfl (noIndex i rest)

theorem pathAfter?_pathText (steps : List Step) :
    pathAfter? (pathText steps) = some (relative steps) := by
  rcases steps with _ | ⟨key | i, rest⟩ <;> rfl

theorem Head.argument (written : Head steps n head) (fits : n < 2 ^ 64) :
    ∃ behind, head = "param".toList ++ behind ∧
      argument? (behind ++ pathText steps) = some (n, pathText steps) := by
  cases written with
  | digits => exact ⟨_, rfl, argument?_digits fits (stops_pathText (by decide) (by decide) steps)⟩
  | brackets =>
    refine ⟨_, rfl, ?_⟩
    rw [List.cons_append, List.append_assoc]
    exact argument?_brackets fits
  | bare noIndex => exact ⟨[], by simp, argument?_bare noIndex⟩

theorem splitParam?_written (written : Head steps n head) (fits : n < 2 ^ 64)
    (plain : ∀ s ∈ steps, s.IsPlain) :
    splitParam? (head ++ pathText steps) = some (n, relative steps) := by
  have visible : ∀ c ∈ head ++ pathText steps, isBlankChar c = false :=
    List.forall_mem_append.mpr ⟨written.visible, visible_pathText plain⟩
  obtain ⟨behind, rfl, argument⟩ := written.argument fits
  unfold splitParam?
  rw [Text.trimChars_eq_self visible, List.append_assoc, Text.afterWord?_append]
  simp [argument, pathAfter?_pathText]

end Head

end TrafficControl.Query
