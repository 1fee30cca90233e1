namespace TrafficControl.Decimal

structure Format where
  precision : Nat
  minExponent : Int
  maxExponent : Int

def Format.double : Format := ⟨53, -1074, 971⟩

def Format.single : Format := ⟨24, -149, 104⟩

def scaled (base num den : Nat) (e : Int) : Nat × Nat :=
  if 0 ≤ e then (num, den * Nat.pow base e.toNat) else (num * Nat.pow base (-e).toNat, den)

def roundHalfEven (num den : Nat) : Nat :=
  let floor := num / den
  let twice := 2 * (num % den)
  if twice < den then floor
  else if den < twice then floor + 1
  else floor + floor % 2

def floorLog2 (num den : Nat) : Int :=
  let e : Int := (num.log2 : Int) - den.log2
  let (n, d) := scaled 2 num den e
  if d ≤ n then e else e - 1

/-- `none` where the rounded value exceeds the format. -/
def Format.round (f : Format) (num den : Nat) : Option (Nat × Int) :=
  let q := max (floorLog2 num den - (f.precision - 1)) f.minExponent
  let (n, d) := scaled 2 num den q
  let m := roundHalfEven n d
  let (m, q) := if m = 1 <<< f.precision then (1 <<< (f.precision - 1), q + 1) else (m, q)
  if f.maxExponent < q then none else some (m, q)

end TrafficControl.Decimal
