namespace TrafficControl.Text.Utf8

def encode (cs : List Char) : List UInt8 := cs.flatMap String.utf8EncodeChar

/-- Where the first ill-formed sequence starts: either a byte after `length` bytes of it rules it
out, or the text ends inside of it. -/
inductive Fault where
  | invalid (length start : Nat)
  | incomplete (start : Nat)
  deriving DecidableEq, Repr

def tails? (lead : Nat) : Option (List (Nat × Nat)) :=
  if lead < 0x80 then some []
  else if lead < 0xC2 then none
  else if lead < 0xE0 then some [(0x80, 0xBF)]
  else if lead = 0xE0 then some [(0xA0, 0xBF), (0x80, 0xBF)]
  else if lead = 0xED then some [(0x80, 0x9F), (0x80, 0xBF)]
  else if lead < 0xF0 then some [(0x80, 0xBF), (0x80, 0xBF)]
  else if lead = 0xF0 then some [(0x90, 0xBF), (0x80, 0xBF), (0x80, 0xBF)]
  else if lead < 0xF4 then some [(0x80, 0xBF), (0x80, 0xBF), (0x80, 0xBF)]
  else if lead = 0xF4 then some [(0x80, 0x8F), (0x80, 0xBF), (0x80, 0xBF)]
  else none

def leadBits (lead count : Nat) : Nat :=
  if count = 0 then lead else lead % (1 <<< (6 - count))

inductive Tail where
  | whole (code : Nat) (rest : List UInt8)
  | broken (length : Nat)
  | short

def readTail : List (Nat × Nat) → Nat → Nat → List UInt8 → Tail
  | [], _, code, bytes => .whole code bytes
  | _ :: _, _, _, [] => .short
  | (low, high) :: bounds, length, code, b :: bytes =>
    if low ≤ b.toNat ∧ b.toNat ≤ high then
      readTail bounds (length + 1) (code * 64 + b.toNat % 64) bytes
    else .broken length

theorem readTail_length {bounds : List (Nat × Nat)} {length code code' : Nat}
    {bytes rest : List UInt8} (h : readTail bounds length code bytes = .whole code' rest) :
    rest.length ≤ bytes.length := by
  induction bounds generalizing length code bytes with
  | nil => simp only [readTail, Tail.whole.injEq] at h; simp [h.2]
  | cons bound bounds ih =>
    cases bytes with
    | nil => simp [readTail] at h
    | cons b bytes =>
      simp only [readTail] at h
      split at h
      · exact Nat.le_succ_of_le (ih h)
      · simp at h

def decodeFrom (start : Nat) : List UInt8 → Except Fault (List Char)
  | [] => .ok []
  | b :: bytes =>
    match tails? b.toNat with
    | none => .error (.invalid 1 start)
    | some bounds =>
      match h : readTail bounds 1 (leadBits b.toNat bounds.length) bytes with
      | .whole code rest => do
        have _ := readTail_length h
        let cs ← decodeFrom (start + bounds.length + 1) rest
        return Char.ofNat code :: cs
      | .broken length => .error (.invalid length start)
      | .short => .error (.incomplete start)
termination_by bytes => bytes.length
decreasing_by simp_wf; omega

def decode (bytes : List UInt8) : Except Fault (List Char) := decodeFrom 0 bytes

end TrafficControl.Text.Utf8
