import TrafficControl.Decimal.Basic

namespace TrafficControl.Toml

open Decimal

def pair? (a b : Char) : Option Nat := digits? [a, b]

def isLeapYear (year : Nat) : Bool :=
  year % 4 = 0 && (year % 100 ≠ 0 || year % 400 = 0)

def daysOfMonth (year month : Nat) : Nat :=
  if month = 2 then (if isLeapYear year then 29 else 28)
  else if month = 4 ∨ month = 6 ∨ month = 9 ∨ month = 11 then 30
  else 31

def isDate : List Char → Bool
  | [a, b, c, d, '-', m₁, m₂, '-', d₁, d₂] =>
    match digits? [a, b, c, d], pair? m₁ m₂, pair? d₁ d₂ with
    | some year, some month, some day =>
      1 ≤ month && month ≤ 12 && 1 ≤ day && day ≤ daysOfMonth year month
    | _, _, _ => false
  | _ => false

def dropTrailingZeros (cs : List Char) : List Char := (cs.reverse.dropWhile (· = '0')).reverse

def secondFraction? : List Char → Option (List Char × List Char)
  | '.' :: rest =>
    let digits := rest.takeWhile isDigit
    if digits.isEmpty then none
    else
      let kept := dropTrailingZeros (digits.take 9)
      some (if kept.isEmpty then [] else '.' :: kept, rest.dropWhile isDigit)
  | rest => some ([], rest)

structure Bounds where
  hour : Nat
  offsetHour : Nat
  offsetMinute : Nat

def Bounds.literal : Bounds := ⟨23, 23, 59⟩

def Bounds.inString : Bounds := ⟨24, 99, 99⟩

/-- A time of day, `HH:MM:SS` with a fraction, and what follows it. A minute may have a leap second.
-/
def time? (bounds : Bounds) : List Char → Option (List Char × List Char)
  | h₁ :: h₂ :: ':' :: m₁ :: m₂ :: ':' :: s₁ :: s₂ :: rest => do
    let hour ← pair? h₁ h₂
    let minute ← pair? m₁ m₂
    let second ← pair? s₁ s₂
    if hour ≤ bounds.hour ∧ minute ≤ 59 ∧ second ≤ 60 then
      let (fraction, rest) ← secondFraction? rest
      some ([h₁, h₂, ':', m₁, m₂, ':', s₁, s₂] ++ fraction, rest)
    else none
  | _ => none

def maxOffset : Nat := 24 * 60

def twoDigits (n : Nat) : List Char := numeral (n / 10) ++ numeral (n % 10)

def offset? (bounds : Bounds) : List Char → Option (List Char)
  | [] => some []
  | ['Z'] | ['z'] => some ['Z']
  | [sign, h₁, h₂, ':', m₁, m₂] => do
    let hour ← pair? h₁ h₂
    let minute ← pair? m₁ m₂
    let total := 60 * hour + minute
    if (sign = '+' ∨ sign = '-') ∧ hour ≤ bounds.offsetHour ∧ minute ≤ bounds.offsetMinute ∧
        total ≤ maxOffset then
      some ((if total = 0 then '+' else sign) ::
        twoDigits (total / 60) ++ ':' :: twoDigits (total % 60))
    else none
  | _ => none

def dateTime? (bounds : Bounds) (cs : List Char) : Option String :=
  if isDate (cs.take 10) then
    match cs.drop 10 with
    | [] => some (String.ofList cs)
    | delimiter :: rest =>
      if delimiter = 'T' ∨ delimiter = 't' ∨ delimiter = ' ' then do
        let (time, rest) ← time? bounds rest
        let offset ← offset? bounds rest
        some (String.ofList (cs.take 10 ++ 'T' :: time ++ offset))
      else none
  else
    match time? bounds cs with
    | some (time, []) => some (String.ofList time)
    | _ => none

end TrafficControl.Toml
