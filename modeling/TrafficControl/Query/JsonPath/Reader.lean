import TrafficControl.Json.Reader
import TrafficControl.Query.JsonPath.Basic
import TrafficControl.Query.Param

namespace TrafficControl.Query.JsonPath

open Json (skipSpace)

def isNameStart (c : Char) : Bool := c.isAlpha || c = '_' || 0x80 ≤ c.toNat

def isNameChar (c : Char) : Bool := isNameStart c || Decimal.isDigit c

def shorthand? : List Char → Option (String × List Char)
  | c :: rest =>
    if isNameStart c then
      some (String.ofList (c :: rest.takeWhile isNameChar), rest.dropWhile isNameChar)
    else none
  | [] => none

/-- The character of a `\u` escape. The digit `D` that starts the halves of a pair, and the code
points before them, is upper case. -/
def unicodeEscape? (cs : List Char) : Option (Char × List Char) :=
  let pair := match cs with
    | _ :: _ :: _ :: _ :: '\\' :: 'u' :: rest => rest.head? != some 'd'
    | _ => true
  if cs.head? = some 'd' || !pair then none else Json.unicodeEscape? cs

def quotedBody? (stop : Char) : Nat → List Char → Option (List Char × List Char)
  | 0, _ => none
  | _ + 1, [] => none
  | fuel + 1, c :: rest =>
    if c = stop then some ([], rest)
    else if c = '\\' then
      match rest with
      | 'u' :: rest => do
        let (c, rest) ← unicodeEscape? rest
        let (cs, rest) ← quotedBody? stop fuel rest
        some (c :: cs, rest)
      | e :: rest => do
        let c ← if e = stop then some e else if e = '"' then none else Json.shortEscape? e
        let (cs, rest) ← quotedBody? stop fuel rest
        some (c :: cs, rest)
      | [] => none
    else if c.toNat < 0x20 then none
    else do
      let (cs, rest) ← quotedBody? stop fuel rest
      some (c :: cs, rest)

def quoted? : List Char → Option (String × List Char)
  | c :: rest =>
    if c = '"' || c = Char.ofNat 0x27 then
      (quotedBody? c (rest.length + 1) rest).map fun (cs, rest) => (String.ofList cs, rest)
    else none
  | [] => none

def integer? (cs : List Char) : Option (Int × List Char) := do
  let (negative, body) := match cs with
    | '-' :: rest => (true, rest)
    | _ => (false, cs)
  let (ds, rest) ← Json.Numeral.whole? body
  let n := Decimal.ofDigits ds
  let i : Int := if negative then -n else n
  if negative && n = 0 || i < Int64.minValue.toInt || Int64.maxValue.toInt < i then none
  else some (i, rest)

def optionalInteger? (cs : List Char) : Option (Option Int × List Char) :=
  match cs with
  | c :: _ =>
    if c = '-' || Decimal.isDigit c then (integer? cs).map fun (n, rest) => (some n, rest)
    else some (none, cs)
  | [] => some (none, cs)

def indexOrSlice? (cs : List Char) : Option (Selector × List Char) := do
  let (first, rest) ← optionalInteger? cs
  match skipSpace rest with
  | ':' :: after =>
    let (last, behind) ← optionalInteger? (skipSpace after)
    match skipSpace behind with
    | ':' :: after =>
      let (step, behind) ←
        match ← optionalInteger? (skipSpace after) with
        | (some step, behind) => some (some step, behind)
        | (none, _) => some (none, after)
      some (.slice first last step, behind)
    | _ =>
      match last with
      | some _ => some (.slice first last none, behind)
      | none => some (.slice first none none, after)
  | _ => first.map fun i => (.index i, rest)

def literal? (cs : List Char) : Option (Json × List Char) :=
  match cs with
  | c :: _ =>
    if c = '"' || c = Char.ofNat 0x27 then (quoted? cs).map fun (s, rest) => (.str s, rest)
    else if c = '-' || Decimal.isDigit c then Json.number? cs
    else
      match Json.word? "true" (.bool true) cs with
      | some r => some r
      | none =>
        match Json.word? "false" (.bool false) cs with
        | some r => some r
        | none => Json.word? "null" .null cs
  | [] => none

def origin? : List Char → Option (Bool × List Char)
  | '$' :: rest => some (true, rest)
  | '@' :: rest => some (false, rest)
  | _ => none

def comparison? : List Char → Option (Comparison × List Char)
  | '=' :: '=' :: rest => some (.eq, rest)
  | '!' :: '=' :: rest => some (.ne, rest)
  | '<' :: '=' :: rest => some (.le, rest)
  | '>' :: '=' :: rest => some (.ge, rest)
  | '<' :: rest => some (.lt, rest)
  | '>' :: rest => some (.gt, rest)
  | _ => none

inductive Function where
  | length | count | value | matchWhole | search
  deriving DecidableEq

def function? (cs : List Char) : Option (Function × List Char) := do
  let isNamePart := fun (c : Char) => c.isLower || c = '_' || Decimal.isDigit c
  let name := String.ofList (cs.takeWhile isNamePart)
  let f ←
    if name = "length" then some .length
    else if name = "count" then some .count
    else if name = "value" then some .value
    else if name = "match" then some .matchWhole
    else if name = "search" then some .search
    else none
  match cs.dropWhile isNamePart with
  | '(' :: rest => some (f, skipSpace rest)
  | _ => none

def closing? (cs : List Char) : Option (List Char) :=
  match skipSpace cs with
  | ')' :: rest => some rest
  | _ => none

mutual

/-- The segments up to the first text that starts none. No space stands before two points. -/
def segments? : Nat → List Char → Option (List Segment × List Char)
  | 0, _ => none
  | fuel + 1, cs =>
    match cs with
    | '.' :: '.' :: rest => do
      let (selectors, rest) ← stepSelectors? fuel rest
      let (others, rest) ← segments? fuel rest
      some (.descendant selectors :: others, rest)
    | _ =>
      match skipSpace cs with
      | '.' :: rest => do
        let (selector, rest) ← stepSelector? rest
        let (others, rest) ← segments? fuel rest
        some (.child [selector] :: others, rest)
      | '[' :: rest => do
        let (selectors, rest) ← selectors? fuel rest
        let (others, rest) ← segments? fuel rest
        some (.child selectors :: others, rest)
      | _ => some ([], cs)

def stepSelectors? : Nat → List Char → Option (List Selector × List Char)
  | 0, _ => none
  | fuel + 1, cs =>
    match cs with
    | '[' :: rest => selectors? fuel rest
    | _ => (stepSelector? cs).map fun (s, rest) => ([s], rest)

def stepSelector? : List Char → Option (Selector × List Char)
  | '*' :: rest => some (.wildcard, rest)
  | cs => (shorthand? cs).map fun (key, rest) => (.name key, rest)

def selectors? : Nat → List Char → Option (List Selector × List Char)
  | 0, _ => none
  | fuel + 1, cs => do
    let (s, rest) ← selector? fuel (skipSpace cs)
    match skipSpace rest with
    | ',' :: rest =>
      let (others, rest) ← selectors? fuel rest
      some (s :: others, rest)
    | ']' :: rest => some ([s], rest)
    | _ => none

def selector? : Nat → List Char → Option (Selector × List Char)
  | 0, _ => none
  | fuel + 1, cs =>
    match cs with
    | '*' :: rest => some (.wildcard, rest)
    | '?' :: rest => (test? fuel (skipSpace rest)).map fun (t, rest) => (.filter t, rest)
    | _ =>
      match quoted? cs with
      | some (key, rest) => some (.name key, rest)
      | none => indexOrSlice? cs

def test? : Nat → List Char → Option (Test × List Char)
  | 0, _ => none
  | fuel + 1, cs => do
    let (a, rest) ← conjunction? fuel cs
    match skipSpace rest with
    | '|' :: '|' :: rest =>
      let (b, rest) ← test? fuel (skipSpace rest)
      some (.or a b, rest)
    | _ => some (a, rest)

def conjunction? : Nat → List Char → Option (Test × List Char)
  | 0, _ => none
  | fuel + 1, cs => do
    let (a, rest) ← condition? fuel cs
    match skipSpace rest with
    | '&' :: '&' :: rest =>
      let (b, rest) ← conjunction? fuel (skipSpace rest)
      some (.and a b, rest)
    | _ => some (a, rest)

def condition? : Nat → List Char → Option (Test × List Char)
  | 0, _ => none
  | fuel + 1, cs =>
    match cs with
    | '!' :: rest => (simple? fuel (skipSpace rest)).map fun (t, rest) => (.not t, rest)
    | '(' :: _ => simple? fuel cs
    | _ =>
      match origin? cs with
      | some (fromRoot, rest) => do
        let (segments, rest) ← segments? fuel rest
        match comparison? (skipSpace rest) with
        | some (op, rest) =>
          let hops ← hops? segments
          let (b, rest) ← operand? fuel (skipSpace rest)
          some (.compares op (.path fromRoot hops) b, rest)
        | none => some (.selects fromRoot segments, rest)
      | none =>
        match agrees? fuel cs with
        | some r => some r
        | none => compares? fuel cs

def simple? : Nat → List Char → Option (Test × List Char)
  | 0, _ => none
  | fuel + 1, cs =>
    match cs with
    | '(' :: rest => do
      let (t, rest) ← test? fuel (skipSpace rest)
      let rest ← closing? rest
      some (t, rest)
    | _ =>
      match origin? cs with
      | some (fromRoot, rest) =>
        (segments? fuel rest).map fun (segments, rest) => (.selects fromRoot segments, rest)
      | none => agrees? fuel cs

def agrees? : Nat → List Char → Option (Test × List Char)
  | 0, _ => none
  | fuel + 1, cs => do
    let (f, rest) ← function? cs
    let whole ← if f = .matchWhole then some true else if f = .search then some false else none
    let (text, rest) ← operand? fuel rest
    match skipSpace rest with
    | ',' :: rest =>
      let (pattern, rest) ← operand? fuel (skipSpace rest)
      let rest ← closing? rest
      some (.agrees whole text pattern, rest)
    | _ => none

def compares? : Nat → List Char → Option (Test × List Char)
  | 0, _ => none
  | fuel + 1, cs => do
    let (a, rest) ← operand? fuel cs
    let (op, rest) ← comparison? (skipSpace rest)
    let (b, rest) ← operand? fuel (skipSpace rest)
    some (.compares op a b, rest)

def operand? : Nat → List Char → Option (Operand × List Char)
  | 0, _ => none
  | fuel + 1, cs =>
    match literal? cs with
    | some (j, rest) => some (.literal j, rest)
    | none =>
      match origin? cs with
      | some (fromRoot, rest) => do
        let (segments, rest) ← segments? fuel rest
        let hops ← hops? segments
        some (.path fromRoot hops, rest)
      | none => call? fuel cs

def call? : Nat → List Char → Option (Operand × List Char)
  | 0, _ => none
  | fuel + 1, cs => do
    let (f, rest) ← function? cs
    match f with
    | .length =>
      let (a, rest) ← operand? fuel rest
      let rest ← closing? rest
      some (.length a, rest)
    | .count =>
      let (fromRoot, rest) ← origin? rest
      let (segments, rest) ← segments? fuel rest
      let rest ← closing? rest
      some (.count (.ofSegments fromRoot segments), rest)
    | .value =>
      let (fromRoot, rest) ← origin? rest
      let (segments, rest) ← segments? fuel rest
      let rest ← closing? rest
      some (.value (.ofSegments fromRoot segments), rest)
    | _ => none

end

def ofText? : List Char → Option (List Segment)
  | '$' :: rest => do
    let (segments, rest) ← segments? (10 * rest.length + 10) rest
    if rest.isEmpty then some segments else none
  | _ => none

end TrafficControl.Query.JsonPath
