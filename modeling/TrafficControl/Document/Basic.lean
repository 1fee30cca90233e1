import TrafficControl.Json.Basic

namespace TrafficControl

inductive Document where
  | null
  | bool (b : Bool)
  | int (n : Int)
  | float (x : Double)
  | str (s : String)
  | seq (elems : List Document)
  | map (entries : List (Document × Document))
  | tagged (tag : String) (content : Document)
  deriving Inhabited, Repr

namespace Document

mutual

def ofJson : Json → Document
  | .null => .null
  | .bool b => .bool b
  | .int n => .int n
  | .float x => .float x
  | .str s => .str s
  | .array elems => .seq (elemsOfJson elems)
  | .object members => .map (entriesOfJson members)

def elemsOfJson : List Json → List Document
  | [] => []
  | j :: rest => ofJson j :: elemsOfJson rest

def entriesOfJson : List (String × Json) → List (Document × Document)
  | [] => []
  | (key, j) :: rest => (.str key, ofJson j) :: entriesOfJson rest

end

/-- The name in a tag: a mark before it does not count unless it is all of the tag. -/
def tagName (tag : String) : String :=
  match tag.toList with
  | '!' :: c :: rest => String.ofList (c :: rest)
  | _ => tag

def untagged : Document → Document
  | .tagged _ content => content.untagged
  | d => d

mutual

def hasTag : Document → Bool
  | .tagged _ _ => true
  | .seq elems => elemsHaveTag elems
  | .map entries => entriesHaveTag entries
  | _ => false

def elemsHaveTag : List Document → Bool
  | [] => false
  | d :: rest => d.hasTag || elemsHaveTag rest

def entriesHaveTag : List (Document × Document) → Bool
  | [] => false
  | (key, value) :: rest => key.hasTag || value.hasTag || entriesHaveTag rest

end

end Document

end TrafficControl
