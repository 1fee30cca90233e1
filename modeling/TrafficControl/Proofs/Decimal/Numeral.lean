import TrafficControl.Decimal.Basic
import TrafficControl.Proofs.Text.Scan

namespace TrafficControl.Decimal

theorem isDigit_of_mem_numeral {n : Nat} {c : Char} (mem : c ∈ numeral n) : isDigit c = true :=
  Nat.isDigit_of_mem_toDigits (by omega) (by omega) mem

theorem numeral_ne_nil (n : Nat) : numeral n ≠ [] := Nat.toDigits_ne_nil

theorem takeWhile_numeral (n : Nat) {rest : List Char} (stops : Text.Stops isDigit rest) :
    (numeral n ++ rest).takeWhile isDigit = numeral n :=
  Text.takeWhile_run (fun _ mem => isDigit_of_mem_numeral mem) stops

theorem dropWhile_numeral (n : Nat) {rest : List Char} (stops : Text.Stops isDigit rest) :
    (numeral n ++ rest).dropWhile isDigit = rest :=
  Text.dropWhile_run (fun _ mem => isDigit_of_mem_numeral mem) stops

theorem numeral_cons (n : Nat) : ∃ c rest, numeral n = c :: rest ∧ isDigit c = true := by
  obtain ⟨c, rest, shape⟩ := List.exists_cons_of_ne_nil (numeral_ne_nil n)
  exact ⟨c, rest, shape, isDigit_of_mem_numeral (by rw [shape]; exact List.mem_cons_self)⟩

theorem numeral_append_ne {symbol : Char} (other : isDigit symbol = false) (n : Nat)
    (after rest : List Char) : numeral n ++ after ≠ symbol :: rest := by
  intro same
  obtain ⟨c, digits, shape, digit⟩ := numeral_cons n
  rw [shape] at same
  rw [(List.cons.inj same).1, other] at digit
  cases digit

theorem ofDigits_numeral (n : Nat) : ofDigits (numeral n) = n :=
  Nat.ofDigitChars_toDigits (by omega) (by omega)

theorem numeral_head_zero {n : Nat} {rest : List Char} (leads : numeral n = '0' :: rest) :
    rest = [] := by
  induction n using Nat.strongRecOn generalizing rest with
  | ind n ih =>
    by_cases small : n < 10
    · rw [numeral, Nat.toDigits_of_lt_base small] at leads
      exact (List.cons.inj leads).2.symm
    · have split : numeral n = numeral (n / 10) ++ [Nat.digitChar (n % 10)] :=
        Nat.toDigits_of_base_le (by omega) (by omega)
      cases front : numeral (n / 10) with
      | nil => exact absurd front (numeral_ne_nil _)
      | cons c more =>
        rw [split, front] at leads
        obtain rfl : c = '0' := (List.cons.inj leads).1
        have alone : more = [] := ih (n / 10) (by omega) front
        have value := ofDigits_numeral (n / 10)
        rw [front, alone] at value
        have zero : n / 10 = 0 := value.symm
        omega

theorem digits?_numeral (n : Nat) : digits? (numeral n) = some n := by
  have nonempty : (numeral n).isEmpty = false := by simp [numeral_ne_nil]
  have digits : (numeral n).all isDigit = true :=
    List.all_eq_true.mpr fun c mem => isDigit_of_mem_numeral mem
  simp [digits?, nonempty, digits, ofDigits_numeral]

theorem bounded?_numeral {n bound : Nat} (le : n ≤ bound) :
    bounded? bound (numeral n) = some n := by
  have unsigned : ∀ rest, numeral n ≠ '+' :: rest := by
    simpa using numeral_append_ne (by decide) n []
  simp [bounded?, digits?_numeral, le]

end TrafficControl.Decimal
