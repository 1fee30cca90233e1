import TrafficControl.Json.Printer
import TrafficControl.Proofs.Decimal.Numeral

namespace TrafficControl.Json

inductive Spot where
  | plain
  | quoted
  | escaped
  deriving DecidableEq

/-- What is behind a look through a text: the brackets left open, and the commas that stand in the
outermost one. -/
structure Scan where
  spot : Spot
  depth : Nat
  commas : Nat

namespace Scan

def next (s : Scan) (c : Char) : Scan :=
  match s.spot with
  | .escaped => { s with spot := .quoted }
  | .quoted =>
    if c = '\\' then { s with spot := .escaped }
    else if c = '"' then { s with spot := .plain }
    else s
  | .plain =>
    if c = '"' then { s with spot := .quoted }
    else if c = '[' ∨ c = '\x7b' then { s with depth := s.depth + 1 }
    else if c = ']' ∨ c = '\x7d' then { s with depth := s.depth - 1 }
    else if c = ',' ∧ s.depth = 1 then { s with commas := s.commas + 1 }
    else s

def pass (s : Scan) (text : List Char) : Scan := text.foldl next s

end Scan

def elementsShown (text : String) : Nat :=
  if text = "[]" then 0 else (Scan.pass ⟨.plain, 0, 0⟩ text.toList).commas + 1

def marks : List Char := ['"', '[', '\x7b', ']', '\x7d', ',']

def Quiet (text : List Char) : Prop := ∀ c ∈ text, c ∉ marks

section Quiet

variable {cs ds : List Char} {c : Char}

theorem Quiet.append (front : Quiet cs) (back : Quiet ds) : Quiet (cs ++ ds) :=
  List.forall_mem_append.mpr ⟨front, back⟩

theorem Quiet.cons (here : c ∉ marks) (later : Quiet cs) : Quiet (c :: cs) :=
  List.forall_mem_cons.mpr ⟨here, later⟩

theorem Quiet.of_subset (quiet : Quiet ds) (part : cs ⊆ ds) : Quiet cs :=
  fun c mem => quiet c (part mem)

theorem isDigit_marks : ∀ c ∈ marks, Decimal.isDigit c = false :=
  Text.forall_mem_of_all (by decide)

theorem quiet_numeral (n : Nat) : Quiet (Decimal.numeral n) := by
  intro c mem mark
  have digit := Decimal.isDigit_of_mem_numeral mem
  rw [isDigit_marks c mark] at digit
  cases digit

theorem quiet_withSign (negative : Bool) (quiet : Quiet cs) :
    Quiet (Decimal.withSign negative cs) := by
  cases negative with
  | false => exact quiet
  | true => exact quiet.cons (by decide)

theorem quiet_intNumeral (n : Int) : Quiet (Decimal.intNumeral n) := by
  rw [Decimal.intNumeral]
  split
  · exact (quiet_numeral _).cons (by decide)
  · exact quiet_numeral _

theorem quiet_zeros (n : Nat) : Quiet (List.replicate n '0') := by
  intro c mem
  rw [List.eq_of_mem_replicate mem]
  decide

theorem quiet_plain (d : Decimal.Digits) : Quiet (Decimal.plain d) := by
  have digits : Quiet (Decimal.numeral d.digits) := quiet_numeral _
  unfold Decimal.plain
  simp only
  split
  · exact digits.append (quiet_zeros _)
  · split
    · refine (digits.of_subset (List.take_subset _ _)).append (.cons (by decide) ?_)
      exact digits.of_subset (List.drop_subset _ _)
    · exact .cons (by decide) (.cons (by decide) ((quiet_zeros _).append digits))

theorem quiet_scientific (d : Decimal.Digits) : Quiet (Decimal.scientific d) := by
  have digits : Quiet (Decimal.numeral d.digits) := quiet_numeral _
  have behind : Quiet ((Decimal.numeral d.digits).drop 1) :=
    digits.of_subset (List.drop_subset _ _)
  unfold Decimal.scientific
  simp only
  refine .append (.append (digits.of_subset (List.take_subset _ _)) ?_) (.cons (by decide) ?_)
  · split
    · exact nofun
    · exact behind.cons (by decide)
  · refine .cons ?_ (quiet_numeral _)
    split <;> decide

theorem quiet_jsonForm (x : Double) : Quiet x.jsonForm.toList := by
  have point : Quiet ['.', '0'] := .cons (by decide) (.cons (by decide) nofun)
  unfold Double.jsonForm
  rw [String.toList_ofList]
  apply quiet_withSign
  split
  · exact .cons (by decide) point
  · simp only
    split
    · split
      · exact (quiet_plain _).append point
      · exact quiet_plain _
    · exact quiet_scientific _

end Quiet

def Bare (text : List Char) : Prop := ∀ c ∈ text, c ≠ '"' ∧ c ≠ '\\'

theorem bare_hex {n : Nat} (small : n < 0x20) : Bare (Nat.toDigits 16 n) := by
  have checked : ∀ n < 0x20,
      ((Nat.toDigits 16 n).all fun c => c != '"' && c != '\\') = true := by decide
  intro c mem
  simpa using List.all_eq_true.mp (checked n small) c mem

theorem escapedChar_shape (c : Char) :
    (∃ e rest, escapedChar c = '\\' :: e :: rest ∧ Bare rest) ∨
      escapedChar c = [c] ∧ Bare [c] := by
  unfold escapedChar
  split
  · exact .inl ⟨_, _, rfl, nofun⟩
  · next noQuote =>
    split
    · exact .inl ⟨_, _, rfl, nofun⟩
    · next noEscape =>
      iterate 5
        split
        · exact .inl ⟨_, _, rfl, nofun⟩
      split
      · next control =>
        have zero : '0' ≠ '"' ∧ '0' ≠ '\\' := by decide
        refine .inl ⟨'u', ['0', '0'] ++ (if c.toNat < 0x10 then ['0'] else []) ++
          Nat.toDigits 16 c.toNat, rfl, ?_⟩
        refine List.forall_mem_append.mpr ⟨List.forall_mem_append.mpr ⟨?_, ?_⟩,
          bare_hex control⟩
        · exact List.forall_mem_cons.mpr ⟨zero, List.forall_mem_singleton.mpr zero⟩
        · split
          · exact List.forall_mem_singleton.mpr zero
          · exact nofun
      · exact .inr ⟨rfl, List.forall_mem_singleton.mpr ⟨noQuote, noEscape⟩⟩

namespace Scan

variable {s : Scan}

theorem pass_append (s : Scan) (front back : List Char) :
    s.pass (front ++ back) = (s.pass front).pass back := List.foldl_append

theorem pass_cons (s : Scan) (c : Char) (text : List Char) :
    s.pass (c :: text) = (s.next c).pass text := rfl

theorem pass_quiet (plain : s.spot = .plain) {text : List Char} (quiet : Quiet text) :
    s.pass text = s := by
  induction text with
  | nil => rfl
  | cons c rest ih =>
    obtain ⟨here, later⟩ := List.forall_mem_cons.mp quiet
    have stays : s.next c = s := by
      simp only [marks, List.mem_cons, not_or] at here
      simp [next, plain, here]
    rw [pass_cons, stays, ih later]

theorem pass_bare (quoted : s.spot = .quoted) {text : List Char} (bare : Bare text) :
    s.pass text = s := by
  induction text with
  | nil => rfl
  | cons c rest ih =>
    obtain ⟨⟨noQuote, noEscape⟩, later⟩ := List.forall_mem_cons.mp bare
    have stays : s.next c = s := by simp [next, quoted, noQuote, noEscape]
    rw [pass_cons, stays, ih later]

theorem pass_escapedChar (quoted : s.spot = .quoted) (c : Char) : s.pass (escapedChar c) = s := by
  rcases escapedChar_shape c with ⟨e, rest, shape, bare⟩ | ⟨shape, bare⟩
  · have escaped : (s.next '\\').next e = s := by
      obtain ⟨spot, depth, commas⟩ := s
      cases quoted
      simp [next]
    rw [shape, pass_cons, pass_cons, escaped, pass_bare quoted bare]
  · rw [shape, pass_bare quoted bare]

theorem pass_body (quoted : s.spot = .quoted) (text : List Char) :
    s.pass (text.flatMap escapedChar) = s := by
  induction text with
  | nil => rfl
  | cons c rest ih => rw [List.flatMap_cons, pass_append, pass_escapedChar quoted, ih]

theorem pass_renderString (plain : s.spot = .plain) (text : String) :
    s.pass (renderString text).toList = s := by
  have quoted : (s.next '"').spot = .quoted := by simp [next, plain]
  have closed : (s.next '"').pass ['"'] = s := by
    obtain ⟨spot, depth, commas⟩ := s
    cases plain
    simp [pass, next]
  rw [renderString, String.toList_ofList, pass_cons, pass_append, pass_body quoted, closed]

variable {depth commas : Nat}

theorem pass_comma :
    (⟨.plain, depth + 1, commas⟩ : Scan).pass ",".toList =
      ⟨.plain, depth + 1, commas + if depth = 0 then 1 else 0⟩ := by
  cases depth <;> rfl

theorem pass_member (key : String) {value : String}
    (inside : (⟨.plain, depth, commas⟩ : Scan).pass value.toList = ⟨.plain, depth, commas⟩) :
    (⟨.plain, depth, commas⟩ : Scan).pass (renderString key ++ ":" ++ value).toList =
      ⟨.plain, depth, commas⟩ := by
  have colon : (⟨.plain, depth, commas⟩ : Scan).pass ":".toList = ⟨.plain, depth, commas⟩ := rfl
  rw [String.toList_append, String.toList_append, pass_append, pass_append,
    pass_renderString rfl, colon, inside]

mutual

theorem pass_render (depth commas : Nat) : (j : Json) →
    (⟨.plain, depth + 1, commas⟩ : Scan).pass j.render.toList = ⟨.plain, depth + 1, commas⟩
  | .null => rfl
  | .bool b => by cases b <;> rfl
  | .int n => by
    rw [render, String.toList_ofList]
    exact pass_quiet rfl (quiet_intNumeral n)
  | .float x => by
    rw [render]
    split
    · exact pass_quiet rfl (quiet_jsonForm x)
    · rfl
  | .str text => pass_renderString rfl text
  | .array elems => by
    have opened : (⟨.plain, depth + 1, commas⟩ : Scan).pass "[".toList =
        ⟨.plain, depth + 2, commas⟩ := rfl
    have inside := pass_renderElems (depth + 1) commas elems
    rw [render, String.toList_append, String.toList_append, pass_append, pass_append, opened,
      inside]
    rfl
  | .object members => by
    have opened : (⟨.plain, depth + 1, commas⟩ : Scan).pass "\x7b".toList =
        ⟨.plain, depth + 2, commas⟩ := rfl
    have inside := pass_renderMembers depth commas members
    rw [render, String.toList_append, String.toList_append, pass_append, pass_append, opened,
      inside]
    rfl

theorem pass_renderElems (depth commas : Nat) : (elems : List Json) →
    (⟨.plain, depth + 1, commas⟩ : Scan).pass (renderElems elems).toList =
      ⟨.plain, depth + 1, commas + if depth = 0 then elems.length - 1 else 0⟩
  | [] => by simp [renderElems, pass]
  | [e] => by
    rw [renderElems, pass_render depth commas e]
    simp
  | e :: f :: rest => by
    have text : renderElems (e :: f :: rest) = e.render ++ "," ++ renderElems (f :: rest) := rfl
    rw [text, String.toList_append, String.toList_append, pass_append, pass_append,
      pass_render depth commas e, pass_comma, pass_renderElems depth _ (f :: rest)]
    simp only [List.length_cons, mk.injEq, true_and]
    split <;> omega

theorem pass_renderMembers (depth commas : Nat) : (members : List (String × Json)) →
    (⟨.plain, depth + 2, commas⟩ : Scan).pass (renderMembers members).toList =
      ⟨.plain, depth + 2, commas⟩
  | [] => rfl
  | [(key, value)] => pass_member key (pass_render (depth + 1) commas value)
  | (key, value) :: m :: rest => by
    have text : renderMembers ((key, value) :: m :: rest) =
        renderString key ++ ":" ++ value.render ++ "," ++ renderMembers (m :: rest) := rfl
    have first := pass_member key (pass_render (depth + 1) commas value)
    have comma : (⟨.plain, depth + 2, commas⟩ : Scan).pass ",".toList =
        ⟨.plain, depth + 2, commas⟩ := rfl
    rw [text, String.toList_append, pass_append, String.toList_append, pass_append, first, comma,
      pass_renderMembers depth commas (m :: rest)]

end

end Scan

/-- Of two elements and more the text shows all, whatever stands in them. -/
theorem elementsShown_render {elems : List Json} (several : 2 ≤ elems.length) :
    elementsShown (render (.array elems)) = elems.length := by
  have opened : (⟨.plain, 0, 0⟩ : Scan).pass "[".toList = ⟨.plain, 1, 0⟩ := rfl
  have inside := Scan.pass_renderElems 0 0 elems
  have whole : (⟨.plain, 0, 0⟩ : Scan).pass (render (.array elems)).toList =
      ⟨.plain, 0, elems.length - 1⟩ := by
    rw [render, String.toList_append, String.toList_append, Scan.pass_append, Scan.pass_append,
      opened, inside]
    simp [Scan.pass, Scan.next]
  have filled : render (.array elems) ≠ "[]" := by
    intro same
    rw [same] at whole
    have uncut : 0 = elems.length - 1 := congrArg Scan.commas whole
    omega
  rw [elementsShown, if_neg filled, whole]
  exact Nat.sub_add_cancel (by omega)

example : elementsShown "[[1,2],\"],[\",3]" = 3 := by decide

end TrafficControl.Json
