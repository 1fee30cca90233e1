import TrafficControl.Yaml.Token.Mark

namespace TrafficControl.Yaml

structure Properties (κ : Type) where
  anchor : Option κ
  tag : Option (List UInt8)
  deriving DecidableEq, Repr

inductive Node (κ : Type) where
  | alias (anchor : κ)
  | scalar (props : Properties κ) (plain : Bool) (text : String)
  | sequence (props : Properties κ) (elems : List (Node κ))
  | mapping (props : Properties κ) (entries : List (Node κ × Node κ))
  deriving Repr

namespace Node

def missing : Node κ := .scalar ⟨none, none⟩ true ""

abbrev Written := Node String

abbrev Handles := List (String × List UInt8)

def coreStart : List UInt8 := "tag:yaml.org,2002:".toUTF8.toList

def standardHandles : Handles := [("!", bareTag), ("!!", coreStart)]

def resolveTag? (handles : Handles) (handle : String) (suffix : List UInt8) : Option (List UInt8) :=
  if handle.isEmpty then some suffix
  else (handles.find? fun h => h.1 = handle).map fun h => h.2 ++ suffix

def properties? (handles : Handles) : List Token → Option (Properties String × List Token)
  | .anchor name :: .tag handle suffix :: rest
  | .tag handle suffix :: .anchor name :: rest =>
    (resolveTag? handles handle suffix).map fun tag => (⟨some name, some tag⟩, rest)
  | .anchor name :: rest => some (⟨some name, none⟩, rest)
  | .tag handle suffix :: rest =>
    (resolveTag? handles handle suffix).map fun tag => (⟨none, some tag⟩, rest)
  | rest => some (⟨none, none⟩, rest)

/-- Which kinds of collections may start a node: block collections, and sequences whose entries are
not indented. -/
structure Allowed where
  block : Bool
  unindented : Bool

def startsNothing : Token → Bool
  | .key | .value | .blockEnd => true
  | _ => false

def blockMissing (ts : List Token) : Bool := ts.head?.any startsNothing

mutual

def read? (handles : Handles) : Nat → Allowed → List Token → Option (Written × List Token)
  | 0, _, _ => none
  | _ + 1, _, .alias name :: rest => some (.alias name, rest)
  | fuel + 1, allowed, ts => do
    let (props, rest) ← properties? handles ts
    match rest with
    | .scalar plain text :: rest => some (.scalar props plain text, rest)
    | .flowSequence :: rest =>
      (flowElems? handles fuel true rest).map fun (es, rest) => (.sequence props es, rest)
    | .flowMapping :: rest =>
      (flowEntries? handles fuel true rest).map fun (es, rest) => (.mapping props es, rest)
    | rest =>
      match allowed, rest with
      | ⟨_, true⟩, .entry :: _ =>
        (unindentedElems? handles fuel rest).map fun (es, rest) => (.sequence props es, rest)
      | ⟨true, _⟩, .blockSequence :: rest =>
        (blockElems? handles fuel rest).map fun (es, rest) => (.sequence props es, rest)
      | ⟨true, _⟩, .blockMapping :: rest =>
        (blockEntries? handles fuel rest).map fun (es, rest) => (.mapping props es, rest)
      | _, rest =>
        if props.anchor.isSome || props.tag.isSome then some (.scalar props true "", rest) else none

def blockElems? (handles : Handles) : Nat → List Token → Option (List Written × List Token)
  | 0, _ => none
  | fuel + 1, ts =>
    match ts with
    | .blockEnd :: rest => some ([], rest)
    | .entry :: rest => do
      let (e, rest) ← match rest with
        | .entry :: _ | .blockEnd :: _ => some (missing, rest)
        | _ => read? handles fuel ⟨true, false⟩ rest
      let (es, rest) ← blockElems? handles fuel rest
      some (e :: es, rest)
    | _ => none

def unindentedElems? (handles : Handles) : Nat → List Token → Option (List Written × List Token)
  | 0, _ => none
  | fuel + 1, ts =>
    match ts with
    | .entry :: rest => do
      let (e, rest) ←
        if blockMissing rest || rest.head? = some .entry then some (missing, rest)
        else read? handles fuel ⟨true, false⟩ rest
      let (es, rest) ← unindentedElems? handles fuel rest
      some (e :: es, rest)
    | rest => some ([], rest)

def blockEntries? (handles : Handles) :
    Nat → List Token → Option (List (Written × Written) × List Token)
  | 0, _ => none
  | fuel + 1, ts =>
    match ts with
    | .blockEnd :: rest => some ([], rest)
    | .key :: rest => do
      let (k, rest) ←
        if blockMissing rest then some (missing, rest)
        else read? handles fuel ⟨true, true⟩ rest
      let (v, rest) ← match rest with
        | .value :: rest =>
          if blockMissing rest then some (missing, rest)
          else read? handles fuel ⟨true, true⟩ rest
        | rest => some (missing, rest)
      let (es, rest) ← blockEntries? handles fuel rest
      some ((k, v) :: es, rest)
    | _ => none

/-- The elements of a sequence in brackets; `first` until a comma has to come. A key among them
makes a mapping of one entry. -/
def flowElems? (handles : Handles) : Nat → Bool → List Token → Option (List Written × List Token)
  | 0, _, _ => none
  | fuel + 1, first, ts =>
    match first, ts with
    | _, .flowSequenceEnd :: rest => some ([], rest)
    | false, .comma :: .flowSequenceEnd :: rest => some ([], rest)
    | false, .comma :: rest => flowElem? handles fuel rest
    | true, rest => flowElem? handles fuel rest
    | false, _ => none

def flowElem? (handles : Handles) : Nat → List Token → Option (List Written × List Token)
  | 0, _ => none
  | fuel + 1, ts => do
    let (e, rest) ← match ts with
      | .key :: rest => pairElem? handles fuel rest
      | ts => read? handles fuel ⟨false, false⟩ ts
    let (es, rest) ← flowElems? handles fuel false rest
    some (e :: es, rest)

/-- A mapping of one entry between brackets. A missing key takes the token behind it along. -/
def pairElem? (handles : Handles) : Nat → List Token → Option (Written × List Token)
  | 0, _ => none
  | fuel + 1, ts => do
    let (k, rest) ← match ts with
      | .value :: rest | .comma :: rest | .flowSequenceEnd :: rest => some (missing, rest)
      | ts => read? handles fuel ⟨false, false⟩ ts
    let (v, rest) ← match rest with
      | .value :: .comma :: rest => some (missing, .comma :: rest)
      | .value :: .flowSequenceEnd :: rest => some (missing, .flowSequenceEnd :: rest)
      | .value :: rest => read? handles fuel ⟨false, false⟩ rest
      | rest => some (missing, rest)
    some (.mapping ⟨none, none⟩ [(k, v)], rest)

def flowEntries? (handles : Handles) :
    Nat → Bool → List Token → Option (List (Written × Written) × List Token)
  | 0, _, _ => none
  | fuel + 1, first, ts =>
    match first, ts with
    | _, .flowMappingEnd :: rest => some ([], rest)
    | false, .comma :: .flowMappingEnd :: rest => some ([], rest)
    | false, .comma :: rest => flowEntry? handles fuel rest
    | true, rest => flowEntry? handles fuel rest
    | false, _ => none

def flowEntry? (handles : Handles) :
    Nat → List Token → Option (List (Written × Written) × List Token)
  | 0, _ => none
  | fuel + 1, ts => do
    let (e, rest) ← match ts with
      | .key :: rest => do
        let (k, rest) ← match rest with
          | .value :: _ | .comma :: _ | .flowMappingEnd :: _ => some (missing, rest)
          | rest => read? handles fuel ⟨false, false⟩ rest
        let (v, rest) ← match rest with
          | .value :: .comma :: rest => some (missing, .comma :: rest)
          | .value :: .flowMappingEnd :: rest => some (missing, .flowMappingEnd :: rest)
          | .value :: rest => read? handles fuel ⟨false, false⟩ rest
          | rest => some (missing, rest)
        some ((k, v), rest)
      | ts => (read? handles fuel ⟨false, false⟩ ts).map fun (k, rest) => ((k, missing), rest)
    let (es, rest) ← flowEntries? handles fuel false rest
    some (e :: es, rest)

end

/-- The handles that the directives of a document give, and the tokens behind the directives. There
is at most one version, and each handle is given once. -/
def directives? : List Token → Bool → Handles → Option (Handles × List Token)
  | .version major minor :: rest, versioned, handles =>
    if versioned || major ≠ 1 || (minor ≠ 1 && minor ≠ 2) then none
    else directives? rest true handles
  | .tagHandle handle start :: rest, versioned, handles =>
    if handles.any fun h => h.1 = handle then none
    else directives? rest versioned ((handle, start) :: handles)
  | rest, _, handles => some (handles ++ standardHandles, rest)

def isDirective : Token → Bool
  | .version _ _ | .tagHandle _ _ => true
  | _ => false

def endsContent : Token → Bool
  | .documentStart | .documentEnd => true
  | t => isDirective t

def content? (handles : Handles) (ts : List Token) : Option (Written × List Token) :=
  match ts with
  | [] => some (missing, [])
  | t :: _ =>
    if endsContent t then some (missing, ts)
    else read? handles (4 * ts.length + 4) ⟨true, false⟩ ts

def ofTokens? (ts : List Token) : Option Written := do
  let (node, rest) ← match ts with
    | [] => some (missing, [])
    | .documentStart :: rest => content? standardHandles rest
    | t :: _ =>
      if isDirective t then do
        let (handles, rest) ← directives? ts false []
        match rest with
        | .documentStart :: rest => content? handles rest
        | _ => none
      else read? standardHandles (4 * ts.length + 4) ⟨true, false⟩ ts
  if rest.all (· = .documentEnd) then some node else none

end Node

end TrafficControl.Yaml
