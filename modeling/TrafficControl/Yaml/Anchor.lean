import TrafficControl.Yaml.Node

namespace TrafficControl.Yaml

abbrev Names := List (String × Nat)

def Names.declare (names : Names) (anchor : Option String) : Option Nat × Names :=
  match anchor with
  | some name => (some names.length, (name, names.length) :: names.filter (·.1 ≠ name))
  | none => (none, names)

def Names.number? (names : Names) (name : String) : Option Nat :=
  (names.find? (·.1 = name)).map Prod.snd

namespace Node

abbrev Numbered := Node Nat

mutual

/-- Numbers the anchors in the order of the text; an alias needs an anchor before it. -/
def number? : Written → Names → Option (Numbered × Names)
  | .alias name, names => (names.number? name).map fun n => (.alias n, names)
  | .scalar props plain text, names =>
    let (anchor, names) := names.declare props.anchor
    some (.scalar ⟨anchor, props.tag⟩ plain text, names)
  | .sequence props elems, names =>
    let (anchor, names) := names.declare props.anchor
    (numberElems? elems names).map fun (es, names) => (.sequence ⟨anchor, props.tag⟩ es, names)
  | .mapping props entries, names =>
    let (anchor, names) := names.declare props.anchor
    (numberEntries? entries names).map fun (es, names) => (.mapping ⟨anchor, props.tag⟩ es, names)

def numberElems? : List Written → Names → Option (List Numbered × Names)
  | [], names => some ([], names)
  | e :: rest, names => do
    let (e, names) ← number? e names
    let (rest, names) ← numberElems? rest names
    some (e :: rest, names)

def numberEntries? : List (Written × Written) → Names →
    Option (List (Numbered × Numbered) × Names)
  | [], names => some ([], names)
  | (key, value) :: rest, names => do
    let (key, names) ← number? key names
    let (value, names) ← number? value names
    let (rest, names) ← numberEntries? rest names
    some ((key, value) :: rest, names)

end

def anchor? : Node κ → Option κ
  | .alias _ => none
  | .scalar props _ _ | .sequence props _ | .mapping props _ => props.anchor

mutual

def all : Node κ → List (Node κ)
  | .alias anchor => [.alias anchor]
  | .scalar props plain text => [.scalar props plain text]
  | .sequence props elems => .sequence props elems :: allOfElems elems
  | .mapping props entries => .mapping props entries :: allOfEntries entries

def allOfElems : List (Node κ) → List (Node κ)
  | [] => []
  | e :: rest => e.all ++ allOfElems rest

def allOfEntries : List (Node κ × Node κ) → List (Node κ)
  | [] => []
  | (key, value) :: rest => key.all ++ value.all ++ allOfEntries rest

end

/-- The nodes with anchors, the last one first. -/
def anchored (node : Numbered) : List Numbered :=
  (node.all.filter fun n => n.anchor?.isSome).reverse

def target? (anchored : List Numbered) (n : Nat) : Option Numbered :=
  anchored.find? fun node => node.anchor? = some n

end Node

end TrafficControl.Yaml
