import TrafficControl.Json.Basic
import TrafficControl.Text.Split
import TrafficControl.Toml.Time

namespace TrafficControl.Toml

open Decimal

def numeralDigits? (p : Char → Bool) (cs : List Char) : Option (List Char) :=
  let parts := Text.splitOn '_' cs
  if parts.all fun part => !part.isEmpty && part.all p then some parts.flatten else none

def wholeDigits? (cs : List Char) : Option (List Char) :=
  match cs with
  | '0' :: _ :: _ => none
  | _ => numeralDigits? isDigit cs

def splitSign : List Char → Bool × List Char
  | '-' :: rest => (true, rest)
  | '+' :: rest => (false, rest)
  | cs => (false, cs)

def hexDigit? (c : Char) : Option Nat :=
  if isDigit c then some (digitValue c)
  else if 'a' ≤ c ∧ c ≤ 'f' then some (c.toNat - 'a'.toNat + 10)
  else if 'A' ≤ c ∧ c ≤ 'F' then some (c.toNat - 'A'.toNat + 10)
  else none

def isDigitOf (base : Nat) (c : Char) : Bool :=
  match hexDigit? c with
  | some n => n < base
  | none => false

def ofDigitsIn (base : Nat) (cs : List Char) : Nat :=
  cs.foldl (fun n c => base * n + (hexDigit? c).getD 0) 0

def int64? (n : Int) : Option Json :=
  if Int64.minValue.toInt ≤ n ∧ n ≤ Int64.maxValue.toInt then some (.int n) else none

def integerIn? (base : Nat) (cs : List Char) : Option Json :=
  (numeralDigits? (isDigitOf base) cs).bind fun ds => int64? (ofDigitsIn base ds)

def integer? (cs : List Char) : Option Json :=
  match cs with
  | '0' :: 'x' :: rest => integerIn? 16 rest
  | '0' :: 'o' :: rest => integerIn? 8 rest
  | '0' :: 'b' :: rest => integerIn? 2 rest
  | cs =>
    let (negative, rest) := splitSign cs
    (wholeDigits? rest).bind fun ds =>
      let n : Int := ofDigits ds
      int64? (if negative then -n else n)

/-- A float has a fraction or an exponent. One that is too large is refused, unless it is negative.
-/
def float? (cs : List Char) : Option Json := do
  let (negative, body) := splitSign cs
  let mantissa := body.takeWhile fun c => c ≠ 'e' && c ≠ 'E'
  let exponent ← match body.dropWhile fun c => c ≠ 'e' && c ≠ 'E' with
    | [] => some none
    | _ :: rest =>
      let (negative, digits) := splitSign rest
      (numeralDigits? isDigit digits).map fun ds =>
        some (if negative then -(ofDigits ds : Int) else ofDigits ds)
  let (whole, fraction) ← match Text.cut? '.' mantissa with
    | none => (wholeDigits? mantissa).map fun ds => (ds, none)
    | some (whole, fraction) => do
      let ds ← wholeDigits? whole
      let fs ← numeralDigits? isDigit fraction
      some (ds, some fs)
  if fraction.isNone && exponent.isNone then none
  else
    let x := (Decimal.ofParts negative whole (fraction.getD []) (exponent.getD 0)).toDouble
    if x = .infinity false then none else some (.ofDouble x)

def isSpecialFloat (cs : List Char) : Bool :=
  let (_, word) := splitSign cs
  word = ['i', 'n', 'f'] || word = ['n', 'a', 'n']

/-- The member under which a date or time stands in the JSON form. -/
def dateTimeKey : String := "$__toml_private_datetime"

def dateTimeForm (text : String) : Json := .object [(dateTimeKey, .str text)]

def scalar? (cs : List Char) : Option Json :=
  if cs = ['t', 'r', 'u', 'e'] then some (.bool true)
  else if cs = ['f', 'a', 'l', 's', 'e'] then some (.bool false)
  else if isSpecialFloat cs then some .null
  else
    match dateTime? .literal cs with
    | some text => some (dateTimeForm text)
    | none => (integer? cs).or (float? cs)

end TrafficControl.Toml
