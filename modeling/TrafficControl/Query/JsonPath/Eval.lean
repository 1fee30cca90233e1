import TrafficControl.Json.Compare
import TrafficControl.Query.JsonPath.Basic
import TrafficControl.Text.Pattern

namespace TrafficControl.Query.JsonPath

def elementFrom? (i : Int) (node : Json) : Option Json :=
  match node with
  | .array elems =>
    let i := if i < 0 then elems.length + i else i
    if i < 0 then none else elems[i.toNat]?
  | _ => none

/-- A bound of a slice as a position, counted from the end when negative. The least 64-bit integer
has no magnitude there and stands for the first position. -/
def position (len : Nat) (bound : Int) : Int :=
  if bound = Int64.minValue.toInt then 0 else if bound < 0 then len + bound else bound

/-- Positions from `i` on while `more` holds. They move in 64-bit words, so a step past the greatest
word comes out among the negative ones, which are no positions. -/
def positionsFrom (step : Int) (more : Int → Bool) : Nat → Int → List Int
  | 0, _ => []
  | fuel + 1, i =>
    if more i then i :: positionsFrom step more fuel (Int64.ofInt (i + step)).toInt else []

def slicePositions (first last step : Option Int) (len : Nat) : List Int :=
  let step := step.getD 1
  let n : Int := len
  if step = 0 then []
  else if 0 < step then
    let lower := min (max (position len (first.getD 0)) 0) n
    let upper := min (max (position len (last.getD n)) 0) n
    positionsFrom step (· < upper) (len + 2) lower
  else
    let upper := min (max (position len (first.getD (n - 1))) (-1)) (n - 1)
    let lower := min (max (position len (last.getD (-n - 1))) (-1)) (n - 1)
    positionsFrom step (lower < ·) (len + 2) upper

def slice (first last step : Option Int) : Json → List Json
  | .array elems =>
    (slicePositions first last step elems.length).filterMap fun i =>
      if i < 0 then none else elems[i.toNat]?
  | _ => []

def sameKind : Option Json → Option Json → Bool
  | some a, some b => a.kind = b.kind
  | _, _ => false

/-- Absent values equal each other and nothing else. Values of one kind that have no order are
neither less nor, where they differ, equal, and what is neither is greater. -/
def Comparison.holds (op : Comparison) (a b : Option Json) : Bool :=
  let equal := match a, b with
    | none, none => true
    | some a, some b => a.equals b
    | _, _ => false
  let below := match a, b with
    | some a, some b => a.less b
    | _, _ => false
  match op with
  | .eq => equal
  | .ne => !equal
  | .lt => below
  | .le => sameKind a b && (below || equal)
  | .gt => sameKind a b && !below && !equal
  | .ge => sameKind a b && !below

def Hop.follow? : Hop → Json → Option Json
  | .name key, node => node.member? key
  | .index i, node => if i < 0 then none else node.element? i.toNat

def hopAll? (hops : List Hop) (node : Json) : Option Json :=
  hops.foldlM (fun node hop => hop.follow? node) node

def lengthOf : Option Json → Option Json
  | some (.str s) => some (.int s.toList.length)
  | some (.array elems) => some (.int elems.length)
  | some (.object members) => some (.int members.length)
  | _ => none

def theOnly? : List Json → Option Json
  | [j] => some j
  | _ => none

mutual

def Selector.select (root : Json) : Selector → Json → List Json
  | .name key, node => (node.member? key).toList
  | .wildcard, node => node.children
  | .index i, node => (elementFrom? i node).toList
  | .slice first last step, node => slice first last step node
  | .filter test, node => node.children.filter fun child => test.holds root child

def selectAll (root : Json) : List Selector → Json → List Json
  | [], _ => []
  | s :: rest, node => s.select root node ++ selectAll root rest node

def Segment.follow (root : Json) : Segment → Json → List Json
  | .child selectors, node => selectAll root selectors node
  | .descendant selectors, node => node.descendants.flatMap fun n => selectAll root selectors n

def follow (root : Json) : List Segment → List Json → List Json
  | [], nodes => nodes
  | s :: rest, nodes => follow root rest (nodes.flatMap fun n => s.follow root n)

def Test.holds (root : Json) : Test → Json → Bool
  | .or a b, node => a.holds root node || b.holds root node
  | .and a b, node => a.holds root node && b.holds root node
  | .not a, node => !a.holds root node
  | .selects fromRoot segments, node =>
    !(follow root segments [if fromRoot then root else node]).isEmpty
  | .compares op a b, node => op.holds (a.eval root node) (b.eval root node)
  | .agrees whole text pattern, node =>
    match text.eval root node, pattern.eval root node with
    | some (.str s), some (.str p) =>
      if whole then Text.matchesWhole p s else Text.searches p s
    | _, _ => false

def Operand.eval (root : Json) : Operand → Json → Option Json
  | .literal j, _ => some j
  | .path fromRoot hops, node => hopAll? hops (if fromRoot then root else node)
  | .length a, node => lengthOf (a.eval root node)
  | .count nodes, node => some (.int (nodes.eval root node).length)
  | .value nodes, node => theOnly? (nodes.eval root node)

def Nodes.eval (root : Json) : Nodes → Json → List Json
  | .single fromRoot hops, node => (hopAll? hops (if fromRoot then root else node)).toList
  | .many fromRoot segments, node => follow root segments [if fromRoot then root else node]

end

def query (segments : List Segment) (root : Json) : List Json := follow root segments [root]

end TrafficControl.Query.JsonPath
