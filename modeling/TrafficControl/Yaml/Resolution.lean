import TrafficControl.Text.Utf8
import TrafficControl.Yaml.Anchor
import TrafficControl.Yaml.Schema

namespace TrafficControl

namespace Document

def sameFloat (x y : Double) : Bool :=
  x = y || (x.isNaN && y.isNaN) || (x.isFinite && y.isFinite && x.mantissa = 0 && y.mantissa = 0)

mutual

/-- Whether two keys of a map are the same. The order of entries does not matter. -/
def same : Document → Document → Bool
  | .null, .null => true
  | .bool a, .bool b => a = b
  | .int a, .int b => a = b
  | .float x, .float y => sameFloat x y
  | .str s, .str t => s = t
  | .seq as, .seq bs => sameElems as bs
  | .map as, .map bs => as.length = bs.length && coveredBy as bs
  | .tagged t a, .tagged u b => tagName t = tagName u && same a b
  | _, _ => false

def sameElems : List Document → List Document → Bool
  | [], [] => true
  | a :: as, b :: bs => same a b && sameElems as bs
  | _, _ => false

def coveredBy : List (Document × Document) → List (Document × Document) → Bool
  | [], _ => true
  | (key, value) :: as, bs => (bs.any fun b => same key b.1 && same value b.2) && coveredBy as bs

end

end Document

namespace Yaml

def localTag? (tag : List UInt8) : Option String :=
  if tag.head? = bareTag.head? then
    (Text.Utf8.decode tag).toOption.map fun cs => Document.tagName (String.ofList cs)
  else none

def plainOrText? (plain : Bool) (s : String) : Option Document :=
  if plain then Schema.plain? s else some (.str s)

def scalar? (props : Properties κ) (plain : Bool) (s : String) : Option Document :=
  match props.tag with
  | none => plainOrText? plain s
  | some tag =>
    if tag.head? = bareTag.head? then
      let content? := plainOrText? plain s
      match localTag? tag with
      | some name => content?.map (.tagged name)
      | none => content?
    else Schema.tagged? tag s

def withTag (props : Properties κ) (d : Document) : Document :=
  match props.tag.bind localTag? with
  | some name => .tagged name d
  | none => d

def maxDepth : Nat := 128

def aliasesPerMark : Nat := 100

mutual

def marks : Node κ → Nat
  | .alias _ | .scalar _ _ _ => 1
  | .sequence _ elems => marksOfElems elems + 2
  | .mapping _ entries => marksOfEntries entries + 2

def marksOfElems : List (Node κ) → Nat
  | [] => 0
  | e :: rest => marks e + marksOfElems rest

def marksOfEntries : List (Node κ × Node κ) → Nat
  | [] => 0
  | (key, value) :: rest => marks key + marks value + marksOfEntries rest

end

structure Sharing where
  anchored : List Node.Numbered
  limit : Nat

/-- The state counts the aliases that were followed so far. -/
abbrev Following := StateT Nat Option

namespace Sharing

def follow (s : Sharing) : Node.Numbered → Following Node.Numbered
  | .alias n => fun followed =>
    if s.limit ≤ followed then none
    else (Node.target? s.anchored n).map fun node => (node, followed + 1)
  | node => pure node

def entries (read : Node.Numbered → Following Document) : List (Node.Numbered × Node.Numbered) →
    List Document → Following (List (Document × Document))
  | [], _ => pure []
  | (key, value) :: rest, keys => do
    let key ← read key
    if keys.any key.same then failure
    else
      let value ← read value
      return (key, value) :: (← entries read rest (key :: keys))

def document (s : Sharing) : Nat → Node.Numbered → Following Document
  | depth, node => do
    match ← s.follow node, depth with
    | .scalar props plain text, _ => scalar? props plain text
    | .sequence props elems, depth + 1 =>
      return withTag props (.seq (← elems.mapM (document s depth)))
    | .mapping props es, depth + 1 =>
      return withTag props (.map (← entries (document s depth) es []))
    | _, _ => failure

end Sharing

def document? (node : Node.Written) : Option Document := do
  let (node, _) ← node.number? []
  let s : Sharing := ⟨node.anchored, marks node * aliasesPerMark⟩
  let (d, _) ← s.document maxDepth node 0
  some d

end Yaml

end TrafficControl
