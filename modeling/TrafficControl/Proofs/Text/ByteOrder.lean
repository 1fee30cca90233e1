import Mathlib.Tactic.ByContra
import Mathlib.Tactic.SplitIfs
import TrafficControl.Proofs.Text.Utf8

namespace TrafficControl.Text.Utf8

variable {c d : Char} {xs ys : List Char}

/-- The greater of two numbers has the greater digit where their digits in base 64 first differ. -/
theorem digits_lt {v w : Nat} (lt : v < w) :
    v / 262144 < w / 262144 ∨ v / 262144 = w / 262144 ∧
      (v / 4096 % 64 < w / 4096 % 64 ∨ v / 4096 % 64 = w / 4096 % 64 ∧
        (v / 64 % 64 < w / 64 % 64 ∨ v / 64 % 64 = w / 64 % 64 ∧ v % 64 < w % 64)) := by
  omega

theorem encodeChar_append_lt (lt : c < d) (front back : List UInt8) :
    String.utf8EncodeChar c ++ front < String.utf8EncodeChar d ++ back := by
  have valid : d.val.toNat < 0xD800 ∨ 0xDFFF < d.val.toNat ∧ d.val.toNat < 0x110000 := d.valid
  have less : c.val.toNat < d.val.toNat := lt
  have digits := digits_lt less
  have lead : c.val.toNat / 262144 % 8 = c.val.toNat / 262144 := Nat.mod_eq_of_lt (by omega)
  have lead' : d.val.toNat / 262144 % 8 = d.val.toNat / 262144 := Nat.mod_eq_of_lt (by omega)
  simp only [String.utf8EncodeChar]
  -- of characters with different numbers of bytes, the first byte tells which one is greater
  split_ifs <;>
    simp (disch := omega) only [List.cons_append, List.nil_append, List.cons_lt_cons_iff,
      UInt8.lt_iff_toNat_lt, ← UInt8.toNat_inj, toNat_ofNat] <;>
    omega

theorem encode_cons (c : Char) (cs : List Char) :
    encode (c :: cs) = String.utf8EncodeChar c ++ encode cs := List.flatMap_cons

theorem encode_lt_encode (lt : xs < ys) : encode xs < encode ys := by
  induction xs generalizing ys with
  | nil =>
    cases ys with
    | nil => exact absurd lt (List.not_lt_nil _)
    | cons y ys =>
      have nonempty : encode (y :: ys) ≠ [] := by
        rw [encode_cons, ne_eq, List.append_eq_nil_iff]
        exact fun empty => String.utf8EncodeChar_ne_nil empty.1
      obtain ⟨b, bytes, cut⟩ := List.exists_cons_of_ne_nil nonempty
      rw [cut]
      exact List.nil_lt_cons b bytes
  | cons x xs ih =>
    cases ys with
    | nil => exact absurd lt (List.not_lt_nil _)
    | cons y ys =>
      rw [encode_cons, encode_cons]
      rcases List.cons_lt_cons_iff.mp lt with first | ⟨rfl, later⟩
      · exact encodeChar_append_lt first _ _
      · exact List.append_left_lt (ih later)

theorem encode_lt_encode_iff : encode xs < encode ys ↔ xs < ys := by
  refine ⟨fun lt => ?_, encode_lt_encode⟩
  by_contra ge
  rcases List.le_iff_lt_or_eq.mp (List.not_lt.mp ge) with gt | same
  · exact List.lt_asymm lt (encode_lt_encode gt)
  · rw [same] at lt
    exact List.lt_irrefl _ lt

end TrafficControl.Text.Utf8
