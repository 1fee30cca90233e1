import TrafficControl.Decimal.Basic

namespace TrafficControl.Decimal

inductive Tie where
  | up
  | even
  deriving DecidableEq, Repr

structure Digits where
  digits : Nat
  exponent : Int
  deriving DecidableEq, Repr

/-- The decimals that read back as `m · 2 ^ q`: from `lo` to `hi` quarters of `2 ^ q`, the ends
included for an even `m`. -/
structure Interval where
  lo : Nat
  hi : Nat
  closed : Bool

def interval (m : Nat) (q : Int) : Interval :=
  let gap := if m = 1 <<< 52 && Format.double.minExponent < q then 1 else 2
  ⟨4 * m - gap, 4 * m + 2, m % 2 = 0⟩

def compareGrid (c : Nat) (p : Int) (n : Nat) (e : Int) : Ordering :=
  let (num, den) := scaled 10 c 1 (-p)
  let (num', den') := scaled 2 n 1 (-e)
  compare (num * den') (num' * den)

def readsBack (m : Nat) (q : Int) (c : Nat) (p : Int) : Bool :=
  let i := interval m q
  let low := compareGrid c p i.lo (q - 2)
  let high := compareGrid c p i.hi (q - 2)
  (low == .gt || (i.closed && low == .eq)) && (high == .lt || (i.closed && high == .eq))

def floorLog10 (num den : Nat) : Int :=
  let e := floorLog2 num den * 30103 / 100000
  let above := fun (k : Int) => let (n, d) := scaled 10 num den k; decide (d ≤ n)
  if above (e + 1) then e + 1 else if above e then e else e - 1

def neighbours (tie : Tie) (m : Nat) (q p : Int) : List Nat :=
  let (num, den) := scaled 2 m 1 (-q)
  let (n, d) := scaled 10 num den p
  let floor := n / d
  let twice := 2 * (n % d)
  let upFirst := d < twice || (twice = d && (tie = .up || floor % 2 = 1))
  if upFirst then [floor + 1, floor] else [floor, floor + 1]

def onGrid (tie : Tie) (m : Nat) (q top : Int) (count : Nat) : Option Digits :=
  let p := top - count
  ((neighbours tie m q p).find? fun c => readsBack m q c p).map fun c => ⟨c, p⟩

def Digits.reduce (d : Digits) : Digits :=
  if d.digits = 10 then ⟨1, d.exponent + 1⟩ else d

def shortest (tie : Tie) (m : Nat) (q : Int) : Digits :=
  let (num, den) := scaled 2 m 1 (-q)
  let top := floorLog10 num den
  (((List.range 17).findSome? (onGrid tie m q top)).getD ⟨m, q⟩).reduce

def plain (d : Digits) : List Char :=
  let ds := numeral d.digits
  if 0 ≤ d.exponent then ds ++ List.replicate d.exponent.toNat '0'
  else
    let places := (-d.exponent).toNat
    if places < ds.length then ds.take (ds.length - places) ++ '.' :: ds.drop (ds.length - places)
    else '0' :: '.' :: (List.replicate (places - ds.length) '0' ++ ds)

def scientific (d : Digits) : List Char :=
  let ds := numeral d.digits
  let e := d.exponent + (ds.length - 1 : Nat)
  let tail := match ds.drop 1 with
    | [] => []
    | rest => '.' :: rest
  ds.take 1 ++ tail ++ 'e' :: (if e < 0 then '-' else '+') :: numeral e.natAbs

def withSign (negative : Bool) (cs : List Char) : List Char :=
  if negative then '-' :: cs else cs

end TrafficControl.Decimal

namespace TrafficControl.Double

open Decimal

/-- The plain form: never an exponent, no point after a whole number, a tie going up. -/
def display (x : Double) : String :=
  if x.isNaN then "NaN"
  else if !x.isFinite then if x.isNegative then "-inf" else "inf"
  else
    let body := if x.mantissa = 0 then ['0'] else plain (shortest .up x.mantissa x.power)
    String.ofList (withSign x.isNegative body)

/-- The form of a finite number inside JSON: a point or an exponent always shows, numbers from
`10 ^ -5` up to `10 ^ 16` are positional, and a tie goes to the even digit. -/
def jsonForm (x : Double) : String :=
  let body :=
    if x.mantissa = 0 then ['0', '.', '0']
    else
      let d := shortest .even x.mantissa x.power
      let e := d.exponent + ((numeral d.digits).length - 1 : Nat)
      if -5 ≤ e && e ≤ 15 then
        if 0 ≤ d.exponent then plain d ++ ['.', '0'] else plain d
      else scientific d
  String.ofList (withSign x.isNegative body)

end TrafficControl.Double
