import TrafficControl.Decimal.Shortest
import TrafficControl.Document.Basic
import TrafficControl.Text.Quoted

namespace TrafficControl

inductive Found where
  | null
  | bool (b : Bool)
  | int (n : Int)
  | float (x : Double)
  | str (s : String)
  | seq
  | map
  | tagged
  deriving DecidableEq, Repr

def Document.found : Document → Found
  | .null => .null
  | .bool b => .bool b
  | .int n => .int n
  | .float x => .float x
  | .str s => .str s
  | .seq _ => .seq
  | .map _ => .map
  | .tagged _ _ => .tagged

inductive Wanted where
  | string
  | boolean
  | word (bits : Nat)
  | sequence
  | map
  | unit
  | record (name : String)
  | fieldName
  | choice
  | taggedChoice
  | choiceName
  | ruleBody
  | textKey
  | json
  deriving DecidableEq, Repr

def Wanted.describe : Wanted → String
  | .string => "a string"
  | .boolean => "a boolean"
  | .word bits => "u" ++ String.ofList (Decimal.numeral bits)
  | .sequence => "a sequence"
  | .map => "a map"
  | .unit => "unit"
  | .record name => "struct " ++ name
  | .fieldName => "field identifier"
  | .choice => "string or map"
  | .taggedChoice => "a Value::Tagged enum"
  | .choiceName => "variant identifier"
  | .ruleBody => "internally tagged enum Rule"
  | .textKey => "a string key"
  | .json => "any valid JSON value"

inductive Extent where
  | fields (record : String) (count : Nat)
  | fewerInArray
  | fewerInSequence
  | exactly (count : Nat)
  deriving DecidableEq, Repr

inductive Mismatch where
  | kind (found : Found) (wanted : Wanted)
  | range (n : Int) (wanted : Wanted)
  | choiceIndex (n : Int) (count : Nat)
  | singleKey
  | unknownChoice (name : String) (choices : List String)
  | missingField (name : String)
  | duplicateField (name : String)
  | length (count : Nat) (wanted : Extent)
  | tagInside
  deriving DecidableEq, Repr

inductive Dialect where
  | json
  | yaml
  deriving DecidableEq, Repr

def Dialect.float (n : Dialect) (x : Double) : String :=
  match n with
  | .json => x.jsonForm
  | .yaml =>
    let digits := x.display
    if x.isFinite && !digits.toList.contains '.' then digits ++ ".0" else digits

def Found.describe (n : Dialect) : Found → String
  | .null => match n with
    | .json => "null"
    | .yaml => "unit value"
  | .bool b => if b then "boolean `true`" else "boolean `false`"
  | .int i => "integer `" ++ String.ofList (Decimal.intNumeral i) ++ "`"
  | .float x => "floating point `" ++ n.float x ++ "`"
  | .str s => "string " ++ Text.quoted s
  | .seq => "sequence"
  | .map => "map"
  | .tagged => "enum"

def Extent.describe : Extent → String
  | .fields record count =>
    "struct " ++ record ++ " with " ++ String.ofList (Decimal.numeral count) ++ " elements"
  | .fewerInArray => "fewer elements in array"
  | .fewerInSequence => "fewer elements in sequence"
  | .exactly count =>
    if count = 1 then "1 element in sequence"
    else String.ofList (Decimal.numeral count) ++ " elements in sequence"

def inTicks (s : String) : String := "`" ++ s ++ "`"

def expectedChoices (choices : List String) : String :=
  match choices with
  | [] => "there are no variants"
  | [a] => "expected " ++ inTicks a
  | [a, b] => "expected " ++ inTicks a ++ " or " ++ inTicks b
  | _ => "expected one of " ++ String.intercalate ", " (choices.map inTicks)

def Mismatch.message (n : Dialect) : Mismatch → String
  | .kind found wanted => "invalid type: " ++ found.describe n ++ ", expected " ++ wanted.describe
  | .range i wanted =>
    "invalid value: integer `" ++ String.ofList (Decimal.intNumeral i) ++ "`, expected " ++
      wanted.describe
  | .choiceIndex i count =>
    "invalid value: integer `" ++ String.ofList (Decimal.intNumeral i) ++
      "`, expected variant index 0 <= i < " ++ String.ofList (Decimal.numeral count)
  | .singleKey => "invalid value: map, expected map with a single key"
  | .unknownChoice name choices =>
    "unknown variant " ++ inTicks name ++ ", " ++ expectedChoices choices
  | .missingField name => "missing field " ++ inTicks name
  | .duplicateField name => "duplicate field " ++ inTicks name
  | .length count wanted =>
    "invalid length " ++ String.ofList (Decimal.numeral count) ++ ", expected " ++ wanted.describe
  | .tagInside => "untagged and internally tagged enums do not support enum input"

end TrafficControl
