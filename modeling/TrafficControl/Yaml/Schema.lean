import TrafficControl.Decimal.Basic
import TrafficControl.Document.Basic
import TrafficControl.Text.Split
import TrafficControl.Yaml.Node

namespace TrafficControl.Yaml.Schema

open Decimal

def isNull (s : String) : Bool := s = "null" || s = "Null" || s = "NULL" || s = "~"

def boolean? (s : String) : Option Bool :=
  if s = "true" ∨ s = "True" ∨ s = "TRUE" then some true
  else if s = "false" ∨ s = "False" ∨ s = "FALSE" then some false
  else none

def digitOf? (base : Nat) (c : Char) : Option Nat :=
  let value? :=
    if isDigit c then some (digitValue c)
    else if 'a' ≤ c ∧ c ≤ 'f' then some (c.toNat - 'a'.toNat + 10)
    else if 'A' ≤ c ∧ c ≤ 'F' then some (c.toNat - 'A'.toNat + 10)
    else none
  value?.filter (· < base)

def natIn? (base : Nat) (cs : List Char) : Option Nat :=
  if cs.isEmpty then none
  else cs.foldlM (fun n c => (digitOf? base c).map fun d => base * n + d) 0

def based? : List Char → Option Nat
  | '0' :: 'x' :: rest => natIn? 16 rest
  | '0' :: 'o' :: rest => natIn? 8 rest
  | '0' :: 'b' :: rest => natIn? 2 rest
  | _ => none

def zeroPadded (cs : List Char) : Bool :=
  match cs with
  | '0' :: c :: rest => (c :: rest).all isDigit
  | _ => false

def natural? (cs : List Char) : Option Nat :=
  (based? cs).or (if zeroPadded cs then none else natIn? 10 cs)

def integer? : List Char → Option Int
  | '-' :: rest => (natural? rest).map fun n => -(n : Int)
  | '+' :: rest => (natural? rest).map fun n => (n : Int)
  | cs => (natural? cs).map fun n => (n : Int)

def isInfinity (cs : List Char) : Bool :=
  let s := String.ofList cs
  s = ".inf" || s = ".Inf" || s = ".INF"

def isNaN (cs : List Char) : Bool :=
  let s := String.ofList cs
  s = ".nan" || s = ".NaN" || s = ".NAN"

def float? (cs : List Char) : Option Double :=
  let unsigned := match cs with
    | '+' :: rest => rest
    | _ => cs
  let signedTwice := cs.head? = some '+' && (unsigned.head?.any fun c => c = '+' || c = '-')
  if signedTwice then none
  else if isInfinity unsigned then some (.infinity false)
  else if cs.head? = some '-' && isInfinity cs.tail then some (.infinity true)
  else if isNaN cs then some .nan
  else (double? unsigned).filter Double.isFinite

/-- Integers up to 128 bits are integers, and of these only the ones of 64 bits can be held. -/
inductive Number where
  | int (n : Int)
  | float (x : Double)
  | tooWide

def minWide : Int := -(1 <<< 127 : Nat)

def maxWide : Int := (1 <<< 128 : Nat) - 1

def ofInteger? (n : Int) : Option Number :=
  if Json.minInteger ≤ n ∧ n ≤ Json.maxInteger then some (.int n)
  else if minWide ≤ n ∧ n ≤ maxWide then some .tooWide
  else none

def number? (cs : List Char) : Option Number :=
  match (integer? cs).bind ofInteger? with
  | some n => some n
  | none =>
    let unsigned := match cs with
      | '-' :: rest | '+' :: rest => rest
      | _ => cs
    if zeroPadded unsigned then none else (float? cs).map .float

def plain? (s : String) : Option Document :=
  if s.isEmpty || isNull s then some .null
  else
    match boolean? s with
    | some b => some (.bool b)
    | none =>
      match number? s.toList with
      | some (.int n) => some (.int n)
      | some (.float x) => some (.float x)
      | some .tooWide => none
      | none => some (.str s)

def coreTag (name : String) : List UInt8 := Node.coreStart ++ name.toUTF8.toList

def tagged? (tag : List UInt8) (s : String) : Option Document :=
  if tag = coreTag "bool" then (boolean? s).map .bool
  else if tag = coreTag "int" then
    match (integer? s.toList).bind ofInteger? with
    | some (.int n) => some (.int n)
    | _ => none
  else if tag = coreTag "float" then (float? s.toList).map .float
  else if tag = coreTag "null" then (if isNull s then some .null else none)
  else some (.str s)

end TrafficControl.Yaml.Schema
