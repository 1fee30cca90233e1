import TrafficControl.Double
import TrafficControl.Table

namespace TrafficControl

inductive Json where
  | null
  | bool (b : Bool)
  | int (n : Int)
  | float (x : Double)
  | str (s : String)
  | array (elems : List Json)
  | object (members : List (String × Json))
  deriving Inhabited, Repr

namespace Json

def minInteger : Int := Int64.minValue.toInt

def maxInteger : Int := UInt64.size - 1

inductive WellFormed : Json → Prop
  | null : WellFormed .null
  | bool (b : Bool) : WellFormed (.bool b)
  | int (n : Int) (low : minInteger ≤ n) (high : n ≤ maxInteger) : WellFormed (.int n)
  | float (x : Double) (finite : x.isFinite = true) : WellFormed (.float x)
  | str (s : String) : WellFormed (.str s)
  | array (elems : List Json) (each : ∀ e ∈ elems, WellFormed e) : WellFormed (.array elems)
  | object (members : List (String × Json)) (sorted : Entries.Sorted members)
      (each : ∀ m ∈ members, WellFormed m.2) : WellFormed (.object members)

def ofMembers (members : List (String × Json)) : Json := .object (Entries.ofList members)

def member? (key : String) : Json → Option Json
  | .object members => Entries.get? key members
  | _ => none

def element? (index : Nat) : Json → Option Json
  | .array elems => elems[index]?
  | _ => none

/-- An integer in the range of integers, the nearest float outside it. -/
def ofInt (n : Int) : Json :=
  if minInteger ≤ n ∧ n ≤ maxInteger then .int n else .float (.ofInt n)

def ofDouble (x : Double) : Json := if x.isFinite then .float x else .null

def ofOption : Option Json → Json
  | some j => j
  | none => .null

def ofOptionText (s? : Option String) : Json := ofOption (s?.map .str)

end Json

end TrafficControl
