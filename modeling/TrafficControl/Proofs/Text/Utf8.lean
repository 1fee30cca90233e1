import TrafficControl.Text.Utf8

namespace TrafficControl.Text.Utf8

theorem decodeFrom_cons {b : UInt8} {bounds : List (Nat × Nat)} {bytes rest : List UInt8}
    {code start : Nat} {cs : List Char} (lead : tails? b.toNat = some bounds)
    (tail : readTail bounds 1 (leadBits b.toNat bounds.length) bytes = .whole code rest)
    (later : ∀ start, decodeFrom start rest = .ok cs) :
    decodeFrom start (b :: bytes) = .ok (Char.ofNat code :: cs) := by
  rw [decodeFrom]
  split
  · next unread => cases lead.symm.trans unread
  · next found =>
    cases lead.symm.trans found
    split
    · next read =>
      cases tail.symm.trans read
      rw [later]
      rfl
    · next read => cases tail.symm.trans read
    · next read => cases tail.symm.trans read

theorem readTail_cons {low high length code : Nat} {bounds : List (Nat × Nat)} {b : UInt8}
    {bytes : List UInt8} (above : low ≤ b.toNat) (below : b.toNat ≤ high) :
    readTail ((low, high) :: bounds) length code (b :: bytes) =
      readTail bounds (length + 1) (code * 64 + b.toNat % 64) bytes := by
  rw [readTail, if_pos ⟨above, below⟩]

theorem tails?_two {v : Nat} (low : 0x80 ≤ v) (high : v < 0x800) :
    tails? (v / 64 + 192) = some [(0x80, 0xBF)] := by
  unfold tails?
  grind

theorem tails?_three {v : Nat} (low : 0x800 ≤ v) (high : v < 0x10000)
    (valid : v < 0xD800 ∨ 0xDFFF < v) :
    ∃ first last, tails? (v / 4096 + 224) = some [(first, last), (0x80, 0xBF)] ∧
      first ≤ v / 64 % 64 + 128 ∧ v / 64 % 64 + 128 ≤ last := by
  unfold tails?
  by_cases least : v / 4096 = 0
  · exact ⟨0xA0, 0xBF, by simp [least], by omega, by omega⟩
  · by_cases surrogates : v / 4096 = 13
    · exact ⟨0x80, 0x9F, by simp [surrogates], by omega, by omega⟩
    · refine ⟨0x80, 0xBF, ?_, by omega, by omega⟩
      grind

theorem tails?_four {v : Nat} (low : 0x10000 ≤ v) (high : v < 0x110000) :
    ∃ first last, tails? (v / 262144 + 240) = some [(first, last), (0x80, 0xBF), (0x80, 0xBF)] ∧
      first ≤ v / 4096 % 64 + 128 ∧ v / 4096 % 64 + 128 ≤ last := by
  unfold tails?
  by_cases least : v / 262144 = 0
  · exact ⟨0x90, 0xBF, by simp [least], by omega, by omega⟩
  · by_cases greatest : v / 262144 = 4
    · exact ⟨0x80, 0x8F, by simp [greatest], by omega, by omega⟩
    · refine ⟨0x80, 0xBF, ?_, by omega, by omega⟩
      grind

theorem toNat_ofNat {n : Nat} (small : n < 256) : (UInt8.ofNat n).toNat = n := by
  rw [UInt8.toNat_ofNat', Nat.mod_eq_of_lt small]

theorem toNat_continuation (n : Nat) : (UInt8.ofNat (n % 64 + 128)).toNat = n % 64 + 128 :=
  toNat_ofNat (by omega)

section Sizes

variable {v start : Nat} {rest : List UInt8} {cs : List Char}

theorem decodeFrom_one (high : v < 0x80) (later : ∀ start, decodeFrom start rest = .ok cs) :
    decodeFrom start (UInt8.ofNat v :: rest) = .ok (Char.ofNat v :: cs) := by
  have lead : (UInt8.ofNat v).toNat = v := toNat_ofNat (by omega)
  have bounds : tails? (UInt8.ofNat v).toNat = some [] := by
    rw [lead, tails?, if_pos high]
  refine decodeFrom_cons bounds ?_ later
  rw [lead]
  rfl

theorem decodeFrom_two (low : 0x80 ≤ v) (high : v < 0x800)
    (later : ∀ start, decodeFrom start rest = .ok cs) :
    decodeFrom start (UInt8.ofNat (v / 64 % 32 + 192) :: UInt8.ofNat (v % 64 + 128) :: rest) =
      .ok (Char.ofNat v :: cs) := by
  have lead : (UInt8.ofNat (v / 64 % 32 + 192)).toNat = v / 64 + 192 := by
    rw [toNat_ofNat (by omega)]
    omega
  have last := toNat_continuation v
  have bounds := tails?_two low high
  rw [← lead] at bounds
  refine decodeFrom_cons bounds ?_ later
  rw [readTail_cons (by omega) (by omega), readTail, lead, last]
  congr 1
  show (v / 64 + 192) % 32 * 64 + (v % 64 + 128) % 64 = v
  omega

theorem decodeFrom_three (low : 0x800 ≤ v) (high : v < 0x10000) (valid : v < 0xD800 ∨ 0xDFFF < v)
    (later : ∀ start, decodeFrom start rest = .ok cs) :
    decodeFrom start (UInt8.ofNat (v / 4096 % 16 + 224) :: UInt8.ofNat (v / 64 % 64 + 128) ::
        UInt8.ofNat (v % 64 + 128) :: rest) =
      .ok (Char.ofNat v :: cs) := by
  have lead : (UInt8.ofNat (v / 4096 % 16 + 224)).toNat = v / 4096 + 224 := by
    rw [toNat_ofNat (by omega)]
    omega
  have second := toNat_continuation (v / 64)
  have last := toNat_continuation v
  obtain ⟨least, greatest, bounds, above, below⟩ := tails?_three low high valid
  rw [← lead] at bounds
  rw [← second] at above below
  refine decodeFrom_cons bounds ?_ later
  rw [readTail_cons above below, readTail_cons (by omega) (by omega), readTail, lead, second, last]
  congr 1
  show ((v / 4096 + 224) % 16 * 64 + (v / 64 % 64 + 128) % 64) * 64 + (v % 64 + 128) % 64 = v
  omega

theorem decodeFrom_four (low : 0x10000 ≤ v) (high : v < 0x110000)
    (later : ∀ start, decodeFrom start rest = .ok cs) :
    decodeFrom start (UInt8.ofNat (v / 262144 % 8 + 240) :: UInt8.ofNat (v / 4096 % 64 + 128) ::
        UInt8.ofNat (v / 64 % 64 + 128) :: UInt8.ofNat (v % 64 + 128) :: rest) =
      .ok (Char.ofNat v :: cs) := by
  have lead : (UInt8.ofNat (v / 262144 % 8 + 240)).toNat = v / 262144 + 240 := by
    rw [toNat_ofNat (by omega)]
    omega
  have second := toNat_continuation (v / 4096)
  have third := toNat_continuation (v / 64)
  have last := toNat_continuation v
  obtain ⟨least, greatest, bounds, above, below⟩ := tails?_four low high
  rw [← lead] at bounds
  rw [← second] at above below
  refine decodeFrom_cons bounds ?_ later
  rw [readTail_cons above below, readTail_cons (by omega) (by omega),
    readTail_cons (by omega) (by omega), readTail, lead, second, third, last]
  congr 1
  show (((v / 262144 + 240) % 8 * 64 + (v / 4096 % 64 + 128) % 64) * 64 +
    (v / 64 % 64 + 128) % 64) * 64 + (v % 64 + 128) % 64 = v
  omega

theorem decodeFrom_encodeChar {c : Char} (later : ∀ start, decodeFrom start rest = .ok cs) :
    decodeFrom start (String.utf8EncodeChar c ++ rest) = .ok (c :: cs) := by
  have valid : c.toNat < 0xD800 ∨ 0xDFFF < c.toNat ∧ c.toNat < 0x110000 := c.valid
  have read : ∀ bytes, decodeFrom start bytes = .ok (Char.ofNat c.toNat :: cs) →
      decodeFrom start bytes = .ok (c :: cs) := fun _ read => by rwa [Char.ofNat_toNat] at read
  apply read
  unfold String.utf8EncodeChar
  rw [show c.val.toNat = c.toNat from rfl]
  dsimp only
  split
  · exact decodeFrom_one (by omega) later
  · split
    · exact decodeFrom_two (by omega) (by omega) later
    · split
      · exact decodeFrom_three (by omega) (by omega) (by omega) later
      · exact decodeFrom_four (by omega) (by omega) later

end Sizes

theorem decode_encode (cs : List Char) : decode (encode cs) = .ok cs := by
  have later : ∀ start, decodeFrom start (encode cs) = .ok cs := by
    induction cs with
    | nil =>
      intro start
      rw [encode, List.flatMap_nil, decodeFrom]
    | cons c cs ih =>
      intro start
      rw [encode, List.flatMap_cons]
      exact decodeFrom_encodeChar ih
  exact later 0

end TrafficControl.Text.Utf8
