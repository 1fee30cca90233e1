import TrafficControl.Decimal.Basic
import TrafficControl.Json.Basic

namespace TrafficControl.Json

structure Numeral where
  negative : Bool
  whole : List Char
  fraction : List Char
  exponent : Int
  plain : Bool

namespace Numeral

def whole? (cs : List Char) : Option (List Char × List Char) :=
  match cs.takeWhile Decimal.isDigit with
  | [] => none
  | '0' :: _ :: _ => none
  | ds => some (ds, cs.dropWhile Decimal.isDigit)

def fractionOf : List Char → List Char × List Char
  | '.' :: after =>
    match after.takeWhile Decimal.isDigit with
    | [] => ([], '.' :: after)
    | ds => (ds, after.dropWhile Decimal.isDigit)
  | cs => ([], cs)

def exponentOf (cs : List Char) : Option Int × List Char :=
  match cs with
  | e :: after =>
    if e = 'e' || e = 'E' then
      let (negative, after) := match after with
        | '-' :: after => (true, after)
        | '+' :: after => (false, after)
        | _ => (false, after)
      match after.takeWhile Decimal.isDigit with
      | [] => (none, cs)
      | ds =>
        let n : Int := Decimal.ofDigits ds
        (some (if negative then -n else n), after.dropWhile Decimal.isDigit)
    else (none, cs)
  | [] => (none, cs)

def read? (cs : List Char) : Option (Numeral × List Char) := do
  let (negative, body) := match cs with
    | '-' :: rest => (true, rest)
    | _ => (false, cs)
  let (whole, rest) ← whole? body
  let (fraction, rest) := fractionOf rest
  let (exponent, rest) := exponentOf rest
  let plain := fraction.isEmpty && exponent.isNone
  some (⟨negative, whole, fraction, exponent.getD 0, plain⟩, rest)

/-- Appends digits to the significand up to the first that 64 bits do not hold. -/
def gather (significand : Nat) : List Char → Nat × List Char
  | [] => (significand, [])
  | c :: rest =>
    let longer := 10 * significand + Decimal.digitValue c
    if longer < UInt64.size then gather longer rest else (significand, c :: rest)

/-- The significand and the power of ten to scale it by. A digit that the significand has no room
for counts as a power of ten before the point and not at all behind it. -/
def parts (n : Numeral) : Nat × Int :=
  let (significand, left) := gather 0 n.whole
  let (significand, unused) := gather significand n.fraction
  (significand, left.length - (n.fraction.length - unused.length : Nat) + n.exponent)

def greatestPower : Nat := 308

def tenTo (k : Nat) : Double := .ofRatio false (Nat.pow 10 k) 1

/-- The significand scaled, each step rounded to a double. Nothing if the result is not finite; a
significand of 64 bits is zero after it was divided by the greatest power twice. -/
def scale? (negative : Bool) (significand : Nat) (exponent : Int) : Option Double :=
  let x := Double.ofRatio negative significand 1
  let k := exponent.natAbs
  if significand = 0 then some x
  else if 0 ≤ exponent then
    if greatestPower < k then none
    else
      let y := x.mul (tenTo k)
      if y.isFinite then some y else none
  else if k ≤ greatestPower then some (x.div (tenTo k))
  else if k ≤ 2 * greatestPower then
    some ((x.div (tenTo greatestPower)).div (tenTo (k - greatestPower)))
  else some (.zero negative)

def value? (n : Numeral) : Option Json :=
  let (significand, exponent) := n.parts
  let value : Int := if n.negative then -(significand : Int) else significand
  if n.plain && exponent = 0 && minInteger ≤ value && !(n.negative && significand = 0) then
    some (.int value)
  else (scale? n.negative significand exponent).map .float

end Numeral

def number? (cs : List Char) : Option (Json × List Char) := do
  let (n, rest) ← Numeral.read? cs
  let value ← n.value?
  some (value, rest)

end TrafficControl.Json
