import TrafficControl.Json.Basic

namespace TrafficControl.Query.JsonPath

inductive Comparison where
  | eq | ne | lt | le | gt | ge
  deriving DecidableEq, Repr

/-- A step to at most one child, by the name of a member or the index of an element. -/
inductive Hop where
  | name (key : String)
  | index (i : Int)
  deriving DecidableEq, Repr

mutual

inductive Selector where
  | name (key : String)
  | wildcard
  | index (i : Int)
  | slice (first last step : Option Int)
  | filter (test : Test)

inductive Segment where
  | child (selectors : List Selector)
  | descendant (selectors : List Selector)

inductive Test where
  | or (a b : Test)
  | and (a b : Test)
  | not (a : Test)
  | selects (fromRoot : Bool) (segments : List Segment)
  | compares (op : Comparison) (a b : Operand)
  | agrees (whole : Bool) (text pattern : Operand)

inductive Operand where
  | literal (j : Json)
  | path (fromRoot : Bool) (hops : List Hop)
  | length (a : Operand)
  | count (nodes : Nodes)
  | value (nodes : Nodes)

inductive Nodes where
  | single (fromRoot : Bool) (hops : List Hop)
  | many (fromRoot : Bool) (segments : List Segment)

end

def Segment.hop? : Segment → Option Hop
  | .child [.name key] => some (.name key)
  | .child [.index i] => some (.index i)
  | _ => none

def hops? (segments : List Segment) : Option (List Hop) := segments.mapM Segment.hop?

def Nodes.ofSegments (fromRoot : Bool) (segments : List Segment) : Nodes :=
  match hops? segments with
  | some hops => .single fromRoot hops
  | none => .many fromRoot segments

end TrafficControl.Query.JsonPath
