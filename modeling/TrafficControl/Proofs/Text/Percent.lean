import TrafficControl.Proofs.Text.Utf8
import TrafficControl.Text.Percent

namespace TrafficControl.Text.Percent

def hexDigits (n : Nat) : List Char := [n.digitChar, n.digitChar.toUpper]

inductive Escapes : List UInt8 → List Char → Prop
  | nil : Escapes [] []
  | cons {byte : UInt8} {bytes : List UInt8} {high low : Char} {text : List Char} :
    high ∈ hexDigits (byte.toNat / 16) → low ∈ hexDigits (byte.toNat % 16) →
    Escapes bytes text → Escapes (byte :: bytes) ('%' :: high :: low :: text)

/-- The text gives the characters, each by the escapes of its bytes or, unless it is reserved, as it
is. -/
inductive Spells (reserved : List Char) : List Char → List Char → Prop
  | nil : Spells reserved [] []
  | plain {c : Char} {cs text : List Char} :
    c ∉ reserved → Spells reserved cs text → Spells reserved (c :: cs) (c :: text)
  | escaped {c : Char} {cs front text : List Char} :
    Escapes (String.utf8EncodeChar c) front → Spells reserved cs text →
    Spells reserved (c :: cs) (front ++ text)

theorem hexDigits_ascii : ∀ n < 16, ∀ d ∈ hexDigits n, d.toNat < 128 := by
  have each : ∀ n < 16, (hexDigits n).all (·.toNat < 128) := by decide
  intro n small d member
  simpa using List.all_eq_true.mp (each n small) d member

theorem hexValue?_hexDigits :
    ∀ n < 16, ∀ d ∈ hexDigits n, hexValue? (UInt8.ofNat d.toNat) = some n := by
  have each : ∀ n < 16, (hexDigits n).all fun d => hexValue? (UInt8.ofNat d.toNat) = some n := by
    decide
  intro n small d member
  simpa using List.all_eq_true.mp (each n small) d member

theorem encodeChar_ascii {c : Char} (ascii : c.toNat < 128) :
    String.utf8EncodeChar c = [UInt8.ofNat c.toNat] := by
  have small : c.val.toNat ≤ 127 := Nat.le_of_lt_succ ascii
  rw [String.utf8EncodeChar]
  simp only [small, if_true]
  rfl

theorem encodeChar_ne_nil (c : Char) : String.utf8EncodeChar c ≠ [] := by
  unfold String.utf8EncodeChar
  dsimp only
  repeat' split
  all_goals exact List.cons_ne_nil _ _

theorem ne_percent_of_mem_encodeChar {c : Char} (other : c ≠ '%') :
    ∀ b ∈ String.utf8EncodeChar c, b ≠ percent := by
  have value : c.val.toNat ≠ 37 := fun same => other (Char.ext (UInt32.toNat_inj.mp same))
  intro b member same
  have byte : b.toNat = 37 := congrArg UInt8.toNat same
  unfold String.utf8EncodeChar at member
  dsimp only at member
  -- beyond ASCII every byte is 128 or above
  repeat' split at member
  all_goals
    simp only [List.mem_cons, List.not_mem_nil, or_false] at member
    rcases member with rfl | rfl | rfl | rfl <;>
      rw [Utf8.toNat_ofNat (by omega)] at byte <;> omega

theorem decode_cons {b : UInt8} (bytes : List UInt8) (other : b ≠ percent) :
    decode (b :: bytes) = b :: decode bytes := by
  match bytes with
  | [] => rfl
  | [_] => rfl
  | _ :: _ :: _ => rw [decode, if_neg other]

theorem decode_append {front : List UInt8} (rest : List UInt8) (others : ∀ b ∈ front, b ≠ percent) :
    decode (front ++ rest) = front ++ decode rest := by
  induction front with
  | nil => rfl
  | cons b front ih =>
    obtain ⟨other, others⟩ := List.forall_mem_cons.mp others
    rw [List.cons_append, decode_cons _ other, ih others, List.cons_append]

theorem escaped?_hexDigits {byte : UInt8} {high low : Char}
    (highDigit : high ∈ hexDigits (byte.toNat / 16)) (lowDigit : low ∈ hexDigits (byte.toNat % 16)) :
    escaped? (UInt8.ofNat high.toNat) (UInt8.ofNat low.toNat) = some byte := by
  have bound : byte.toNat < 256 := byte.toNat_lt
  have h := hexValue?_hexDigits _ (by omega) _ highDigit
  have l := hexValue?_hexDigits _ (by omega) _ lowDigit
  have whole : 16 * (byte.toNat / 16) + byte.toNat % 16 = byte.toNat := by omega
  have value : UInt8.ofNat (16 * (byte.toNat / 16) + byte.toNat % 16) = byte := by
    rw [whole, UInt8.ofNat_toNat]
  rw [escaped?, h, l, Option.bind_eq_bind, Option.bind_some, Option.bind_some, value]
  rfl

theorem Escapes.decode {bytes : List UInt8} {text : List Char} (escapes : Escapes bytes text)
    (rest : List UInt8) : decode (Utf8.encode text ++ rest) = bytes ++ decode rest := by
  induction escapes with
  | nil => rfl
  | @cons byte bytes high low text highDigit lowDigit _ ih =>
    have bound : byte.toNat < 256 := byte.toNat_lt
    have highByte := encodeChar_ascii (hexDigits_ascii _ (by omega) _ highDigit)
    have lowByte := encodeChar_ascii (hexDigits_ascii _ (by omega) _ lowDigit)
    have written : Utf8.encode ('%' :: high :: low :: text) =
        percent :: UInt8.ofNat high.toNat :: UInt8.ofNat low.toNat :: Utf8.encode text := by
      simp only [Utf8.encode, List.flatMap_cons, highByte, lowByte]
      rfl
    rw [written]
    simp only [List.cons_append, Percent.decode, if_true, escaped?_hexDigits highDigit lowDigit, ih]

variable {reserved cs text : List Char}

theorem Spells.decode (spells : Spells reserved cs text) (marked : '%' ∈ reserved) :
    decode (Utf8.encode text) = Utf8.encode cs := by
  induction spells with
  | nil => rfl
  | @plain c _ _ free _ ih =>
    have other : c ≠ '%' := fun same => free (same ▸ marked)
    simp only [Utf8.encode, List.flatMap_cons] at ih ⊢
    rw [decode_append _ (ne_percent_of_mem_encodeChar other), ih]
  | escaped escapes _ ih =>
    simp only [Utf8.encode, List.flatMap_cons, List.flatMap_append] at ih ⊢
    rw [← ih]
    exact escapes.decode _

theorem Escapes.mem {bytes : List UInt8} {text : List Char} (escapes : Escapes bytes text) :
    ∀ d ∈ text, d = '%' ∨ ∃ n < 16, d ∈ hexDigits n := by
  induction escapes with
  | nil => exact fun d member => nomatch member
  | @cons byte _ _ _ _ highDigit lowDigit _ ih =>
    have bound : byte.toNat < 256 := byte.toNat_lt
    intro d member
    rcases List.mem_cons.mp member with rfl | member
    · exact .inl rfl
    · rcases List.mem_cons.mp member with rfl | member
      · exact .inr ⟨_, by omega, highDigit⟩
      · rcases List.mem_cons.mp member with rfl | member
        · exact .inr ⟨_, by omega, lowDigit⟩
        · exact ih d member

theorem Spells.not_mem (spells : Spells reserved cs text) {c : Char} (listed : c ∈ reserved)
    (free : c ≠ '%' ∧ ∀ n < 16, c ∉ hexDigits n) : c ∉ text := by
  induction spells with
  | nil => exact List.not_mem_nil
  | plain other _ ih =>
    intro member
    rcases List.mem_cons.mp member with rfl | member
    · exact other listed
    · exact ih member
  | escaped escapes _ ih =>
    intro member
    rcases List.mem_append.mp member with member | member
    · rcases escapes.mem c member with mark | ⟨n, small, digit⟩
      · exact free.1 mark
      · exact free.2 n small digit
    · exact ih member

theorem Spells.ne_nil (spells : Spells reserved cs text) (nonempty : cs ≠ []) : text ≠ [] := by
  cases spells with
  | nil => exact absurd rfl nonempty
  | plain => exact List.cons_ne_nil _ _
  | @escaped c _ front _ escapes _ =>
    intro empty
    obtain ⟨rfl, -⟩ := List.append_eq_nil_iff.mp empty
    generalize bytes : String.utf8EncodeChar c = front at escapes
    cases escapes
    exact encodeChar_ne_nil c bytes

theorem exists_escapes (bytes : List UInt8) : ∃ text, Escapes bytes text := by
  induction bytes with
  | nil => exact ⟨[], .nil⟩
  | cons byte bytes ih =>
    obtain ⟨text, escapes⟩ := ih
    have digit (n : Nat) : n.digitChar ∈ hexDigits n := List.mem_cons_self
    exact ⟨_, .cons (digit _) (digit _) escapes⟩

theorem exists_spells (reserved cs : List Char) : ∃ text, Spells reserved cs text := by
  induction cs with
  | nil => exact ⟨[], .nil⟩
  | cons c cs ih =>
    obtain ⟨text, spells⟩ := ih
    obtain ⟨front, escapes⟩ := exists_escapes (String.utf8EncodeChar c)
    exact ⟨front ++ text, .escaped escapes spells⟩

theorem Spells.self {reserved cs : List Char} (free : cs.all (· ∉ reserved) = true) :
    Spells reserved cs cs := by
  induction cs with
  | nil => exact .nil
  | cons c cs ih =>
    obtain ⟨own, others⟩ := Bool.and_eq_true_iff.mp free
    exact .plain (of_decide_eq_true own) (ih others)

end TrafficControl.Text.Percent
