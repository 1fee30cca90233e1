import TrafficControl.Json.Basic

namespace TrafficControl.Json

inductive Kind where
  | null | bool | number | str | array | object
  deriving DecidableEq, Repr

def kind : Json → Kind
  | .null => .null
  | .bool _ => .bool
  | .int _ => .number
  | .float _ => .number
  | .str _ => .str
  | .array _ => .array
  | .object _ => .object

def double? : Json → Option Double
  | .int n => some (.ofInt n)
  | .float x => some x
  | _ => none

mutual

def same : Json → Json → Bool
  | .null, .null => true
  | .bool a, .bool b => a == b
  | .int a, .int b => a == b
  | .float x, .float y => x.equals y
  | .str a, .str b => a == b
  | .array as, .array bs => sameElems as bs
  | .object as, .object bs => sameMembers as bs
  | _, _ => false

def sameElems : List Json → List Json → Bool
  | [], [] => true
  | a :: as, b :: bs => same a b && sameElems as bs
  | _, _ => false

def sameMembers : List (String × Json) → List (String × Json) → Bool
  | [], [] => true
  | (k, a) :: as, (l, b) :: bs => k == l && same a b && sameMembers as bs
  | _, _ => false

end

def equals (a b : Json) : Bool :=
  match a.double?, b.double? with
  | some x, some y => x.equals y
  | _, _ => a.same b

/-- Only two numbers or two texts are ordered. -/
def less (a b : Json) : Bool :=
  match a, b with
  | .str a, .str b => a < b
  | a, b =>
    match a.double?, b.double? with
    | some x, some y => x.less y
    | _, _ => false

def children : Json → List Json
  | .array elems => elems
  | .object members => members.map Prod.snd
  | _ => []

mutual

def descendants : Json → List Json
  | .array elems => .array elems :: elemDescendants elems
  | .object members => .object members :: memberDescendants members
  | j => [j]

def elemDescendants : List Json → List Json
  | [] => []
  | e :: rest => descendants e ++ elemDescendants rest

def memberDescendants : List (String × Json) → List Json
  | [] => []
  | (_, v) :: rest => descendants v ++ memberDescendants rest

end

end TrafficControl.Json
