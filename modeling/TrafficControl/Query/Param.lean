import TrafficControl.Decimal.Basic
import TrafficControl.Text.Blank
import TrafficControl.Text.Split

namespace TrafficControl.Query

def maxIndex : Nat := UInt64.size - 1

def index? (cs : List Char) : Option Nat := Decimal.bounded? maxIndex (Text.trimChars cs)

def argument? : List Char → Option (Nat × List Char)
  | '[' :: rest => do
    let (inner, rest) ← Text.cut? ']' rest
    let n ← index? inner
    some (n, rest)
  | cs =>
    match cs.takeWhile Decimal.isDigit with
    | [] => some (0, cs)
    | ds => (Decimal.bounded? maxIndex ds).map fun n => (n, cs.dropWhile Decimal.isDigit)

/-- The path behind the argument: nothing, an index, or whatever follows one point. -/
def pathAfter? : List Char → Option (List Char)
  | [] => some []
  | '[' :: rest => some ('[' :: rest)
  | '.' :: rest => some rest
  | _ => none

def splitParam? (query : List Char) : Option (Nat × List Char) := do
  let rest ← Text.afterWord? "param".toList (Text.trimChars query)
  let (n, rest) ← argument? rest
  let path ← pathAfter? rest
  some (n, path)

end TrafficControl.Query
