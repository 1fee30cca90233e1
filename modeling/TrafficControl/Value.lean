import TrafficControl.Json.Printer

namespace TrafficControl

inductive Value where
  | null
  | bool (b : Bool)
  | int (n : Int64)
  | uint (n : UInt64)
  | float (x : Double)
  | char (c : Char)
  | str (s : String)
  | bytes (bs : List UInt8)
  | seq (elems : List Value)
  | map (entries : List (String × Value))
  | record (name : String) (fields : List (String × Value))
  deriving Inhabited, Repr

namespace Value

def isNull : Value → Bool
  | .null => true
  | _ => false

def key? (key : String) : Value → Option Value
  | .map entries => Entries.get? key entries
  | .record _ fields => Entries.get? key fields
  | _ => none

def index? (index : Nat) : Value → Option Value
  | .seq elems => elems[index]?
  | .bytes bs => bs[index]?.map fun b => .int (Int64.ofNat b.toNat)
  | .str s => s.toList[index]?.map .char
  | _ => none

mutual

/-- The argument as a JSON tree. Of the fields that share a name the last one stays. -/
def toJson : Value → Json
  | .null => .null
  | .bool b => .bool b
  | .int n => .int n.toInt
  | .uint n => .int n.toNat
  | .float x => .ofDouble x
  | .char c => .str (String.singleton c)
  | .str s => .str s
  | .bytes bs => .array (bs.map fun b => .int b.toNat)
  | .seq elems => .array (elemsToJson elems)
  | .map entries => .object (entriesToJson entries)
  | .record _ fields => .object (Entries.ofList (entriesToJson fields))

def elemsToJson : List Value → List Json
  | [] => []
  | v :: rest => toJson v :: elemsToJson rest

def entriesToJson : List (String × Value) → List (String × Json)
  | [] => []
  | (key, v) :: rest => (key, toJson v) :: entriesToJson rest

end

mutual

/-- A JSON tree as an argument: those integers that 64 bits hold with a sign are signed, larger ones
unsigned. -/
def ofJson : Json → Value
  | .null => .null
  | .bool b => .bool b
  | .int n =>
    if n ≤ Int64.maxValue.toInt then .int (Int64.ofInt n) else .uint (UInt64.ofNat n.toNat)
  | .float x => .float x
  | .str s => .str s
  | .array elems => .seq (elemsOfJson elems)
  | .object members => .map (entriesOfJson members)

def elemsOfJson : List Json → List Value
  | [] => []
  | j :: rest => ofJson j :: elemsOfJson rest

def entriesOfJson : List (String × Json) → List (String × Value)
  | [] => []
  | (key, j) :: rest => (key, ofJson j) :: entriesOfJson rest

end

/-- The text a rule compares with: scalars as they are written plainly, all else as JSON text, and
nothing for null. -/
def display? : Value → Option String
  | .null => none
  | .bool b => some (if b then "true" else "false")
  | .int n => some (String.ofList (Decimal.intNumeral n.toInt))
  | .uint n => some (String.ofList (Decimal.numeral n.toNat))
  | .float x => some x.display
  | .char c => some (String.singleton c)
  | .str s => some s
  | v => some v.toJson.render

end Value

end TrafficControl
