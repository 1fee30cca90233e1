import TrafficControl.Decimal.Round

namespace TrafficControl

/-- A binary64 number. Both zeros and all the bit patterns that are not a number are distinct. -/
structure Double where
  bits : UInt64
  deriving DecidableEq, Repr, Inhabited

namespace Double

open Decimal

def signWeight : Nat := 0x8000000000000000

def unitWeight : Nat := 0x10000000000000

def isNegative (x : Double) : Bool := signWeight ≤ x.bits.toNat

def exponentField (x : Double) : Nat := x.bits.toNat / unitWeight % 2048

def fraction (x : Double) : Nat := x.bits.toNat % unitWeight

def isFinite (x : Double) : Bool := x.exponentField != 2047

def isNaN (x : Double) : Bool := x.exponentField == 2047 && x.fraction != 0

/-- A finite number is `± mantissa · 2 ^ power`. -/
def mantissa (x : Double) : Nat :=
  if x.exponentField = 0 then x.fraction else unitWeight + x.fraction

def power (x : Double) : Int := (max x.exponentField 1 : Nat) - 1075

def ofFields (negative : Bool) (exponentField fraction : Nat) : Double :=
  ⟨UInt64.ofNat ((if negative then signWeight else 0) + exponentField * unitWeight + fraction)⟩

def zero (negative : Bool) : Double := ofFields negative 0 0

def infinity (negative : Bool) : Double := ofFields negative 2047 0

def nan : Double := ofFields false 2047 (unitWeight / 2)

def ofParts (negative : Bool) (m : Nat) (q : Int) : Double :=
  if m < unitWeight then ofFields negative 0 m
  else ofFields negative (q + 1075).toNat (m - unitWeight)

def ofRatio (negative : Bool) (num den : Nat) : Double :=
  if num = 0 then zero negative
  else
    match Format.double.round num den with
    | some (m, q) => ofParts negative m q
    | none => infinity negative

def ofInt (n : Int) : Double := ofRatio (n < 0) n.natAbs 1

def ratio (x : Double) : Nat × Nat := scaled 2 x.mantissa 1 (-x.power)

def mul (x y : Double) : Double :=
  let (a, b) := x.ratio
  let (c, d) := y.ratio
  ofRatio (x.isNegative != y.isNegative) (a * c) (b * d)

def div (x y : Double) : Double :=
  let (a, b) := x.ratio
  let (c, d) := y.ratio
  ofRatio (x.isNegative != y.isNegative) (a * d) (b * c)

def toSingle (x : Double) : Double :=
  if !x.isFinite || x.mantissa = 0 then x
  else
    let (num, den) := x.ratio
    match Format.single.round num den with
    | some (m, q) =>
      let (n, d) := scaled 2 m 1 (-q)
      ofRatio x.isNegative n d
    | none => infinity x.isNegative

def toQuotient (x : Double) : Int × Nat :=
  let (num, den) := x.ratio
  (if x.isNegative then -(num : Int) else num, den)

def equals (x y : Double) : Bool :=
  let (a, b) := x.toQuotient
  let (c, d) := y.toQuotient
  a * d == c * b

def less (x y : Double) : Bool :=
  let (a, b) := x.toQuotient
  let (c, d) := y.toQuotient
  a * d < c * b

end Double

end TrafficControl
