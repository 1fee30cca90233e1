namespace TrafficControl.Checked

def word? (n : Nat) : Option UInt64 := if n < UInt64.size then some (.ofNat n) else none

def add? (a b : UInt64) : Option UInt64 := word? (a.toNat + b.toNat)

def mul? (a b : UInt64) : Option UInt64 := word? (a.toNat * b.toNat)

def sub? (a b : UInt64) : Option UInt64 := if b ≤ a then some (a - b) else none

variable {n : Nat} {a b w : UInt64}

theorem word?_eq_none_iff : word? n = none ↔ UInt64.size ≤ n := by simp [word?]

theorem word?_eq_some_iff : word? n = some w ↔ w.toNat = n := by
  rw [word?]
  constructor
  · intro found
    split at found
    · next fits =>
      cases found
      exact UInt64.toNat_ofNat_of_lt fits
    · cases found
  · rintro rfl
    rw [if_pos w.toNat_lt, UInt64.ofNat_toNat]

theorem exists_word? (fits : n < UInt64.size) : ∃ w, word? n = some w ∧ w.toNat = n := by
  have exact : (UInt64.ofNat n).toNat = n := UInt64.toNat_ofNat_of_lt fits
  exact ⟨.ofNat n, word?_eq_some_iff.mpr exact, exact⟩

theorem mul?_bind_add? (a b c : UInt64) :
    (mul? a b).bind (add? · c) = word? (a.toNat * b.toNat + c.toNat) := by
  by_cases fits : a.toNat * b.toNat < UInt64.size
  · obtain ⟨w, found, exact⟩ := exists_word? fits
    rw [mul?, found, Option.bind_some, add?, exact]
  · have large : UInt64.size ≤ a.toNat * b.toNat := Nat.not_lt.mp fits
    have larger : UInt64.size ≤ a.toNat * b.toNat + c.toNat := Nat.le_add_right_of_le large
    rw [mul?, word?_eq_none_iff.mpr large, Option.bind_none, word?_eq_none_iff.mpr larger]

theorem sub?_eq_some (le : b ≤ a) : ∃ w, sub? a b = some w ∧ w.toNat = a.toNat - b.toNat :=
  ⟨a - b, if_pos le, UInt64.toNat_sub_of_le _ _ le⟩

end TrafficControl.Checked
