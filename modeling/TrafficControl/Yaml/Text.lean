import TrafficControl.Yaml.Fold

namespace TrafficControl.Yaml

def isFlowIndicator (c : Char) : Bool :=
  c = ',' || c = '[' || c = ']' || c = '\x7b' || c = '\x7d'

/-- The characters of one word of a plain scalar. In a flow collection a colon must not stand
directly before an indicator. -/
def plainWord? (flow : Bool) : Nat → Cursor → Option (List Char × Cursor)
  | 0, cur => some ([], cur)
  | fuel + 1, cur =>
    match cur.rest with
    | [] => some ([], cur)
    | c :: _ =>
      if isBlank c || isBreak c then some ([], cur)
      else if flow && c = ':' && (cur.at? 1).any fun d => isFlowIndicator d || d = '?' then none
      else if c = ':' && cur.spaceOrEndAt 1 then some ([], cur)
      else if flow && isFlowIndicator c then some ([], cur)
      else (plainWord? flow fuel cur.next).map fun (cs, cur) => (c :: cs, cur)

abbrev Scanned := List Char × Bool × Cursor

def plainWords? (flow : Bool) (indent : Int) : Nat → List Char → Gap → Cursor → Option Scanned
  | 0, text, gap, cur => some (text, gap.broken, cur)
  | fuel + 1, text, gap, cur =>
    if cur.atDocumentMarker || cur.is '#' then some (text, gap.broken, cur)
    else do
      let (word, cur) ← plainWord? flow cur.fuel cur
      let (text, gap) := if word.isEmpty then (text, gap) else (text ++ gap.fold ++ word, Gap.empty)
      if cur.atBlank || cur.atBreak then
        let (gap, cur) ← gap.read? indent cur.fuel cur
        if !flow && (cur.column : Int) < indent then some (text, gap.broken, cur)
        else plainWords? flow indent fuel text gap cur
      else some (text, gap.broken, cur)

def plain? (flow : Bool) (indent : Int) (cur : Cursor) : Option Scanned :=
  plainWords? flow indent cur.fuel [] .empty cur

def shortEscape? (c : Char) : Option Char :=
  if c = '0' then some (Char.ofNat 0)
  else if c = 'a' then some (Char.ofNat 0x07)
  else if c = 'b' then some (Char.ofNat 0x08)
  else if c = 't' ∨ c = '\t' then some '\t'
  else if c = 'n' then some '\n'
  else if c = 'v' then some (Char.ofNat 0x0B)
  else if c = 'f' then some (Char.ofNat 0x0C)
  else if c = 'r' then some '\r'
  else if c = 'e' then some (Char.ofNat 0x1B)
  else if c = ' ' ∨ c = '"' ∨ c = '/' ∨ c = '\\' then some c
  else if c = 'N' then some (Char.ofNat 0x85)
  else if c = '_' then some (Char.ofNat 0xA0)
  else if c = 'L' then some (Char.ofNat 0x2028)
  else if c = 'P' then some (Char.ofNat 0x2029)
  else none

def hexDigit? (c : Char) : Option Nat :=
  if '0' ≤ c ∧ c ≤ '9' then some (c.toNat - '0'.toNat)
  else if 'a' ≤ c ∧ c ≤ 'f' then some (c.toNat - 'a'.toNat + 10)
  else if 'A' ≤ c ∧ c ≤ 'F' then some (c.toNat - 'A'.toNat + 10)
  else none

def hexValue? (cs : List Char) : Option Nat :=
  cs.foldlM (fun n c => (hexDigit? c).map fun d => 16 * n + d) 0

def codeLength? (c : Char) : Option Nat :=
  if c = 'x' then some 2 else if c = 'u' then some 4 else if c = 'U' then some 8 else none

def escape? (cur : Cursor) : Option (Char × Cursor) := do
  let c ← cur.at? 1
  match codeLength? c with
  | none => (shortEscape? c).map fun c => (c, cur.skip 2)
  | some length =>
    let digits := (cur.rest.drop 2).take length
    let n ← hexValue? digits
    if digits.length = length ∧ (n < 0xD800 ∨ (0xDFFF < n ∧ n ≤ 0x10FFFF)) then
      some (Char.ofNat n, cur.skip (2 + length))
    else none

def quotedWord? (quote : Char) : Nat → Cursor → Option (List Char × Gap × Cursor)
  | 0, cur => some ([], .empty, cur)
  | fuel + 1, cur =>
    match cur.rest with
    | [] => some ([], .empty, cur)
    | c :: _ =>
      let onward (c : Char) (cur : Cursor) :=
        (quotedWord? quote fuel cur).map fun (cs, gap, cur) => (c :: cs, gap, cur)
      if isBlank c || isBreak c then some ([], .empty, cur)
      else if quote = '\'' && c = '\'' && cur.isAt 1 '\'' then onward '\'' (cur.skip 2)
      else if c = quote then some ([], .empty, cur)
      else if quote = '"' && c = '\\' then
        if (cur.at? 1).any isBreak then some ([], .escapedBreak, cur.next.takeBreak.2)
        else (escape? cur).bind fun (c, cur) => onward c cur
      else onward c cur.next

def quotedWords? (quote : Char) : Nat → List Char → Cursor → Option (List Char × Cursor)
  | 0, _, _ => none
  | fuel + 1, text, cur =>
    if cur.atDocumentMarker || cur.atEnd then none
    else do
      let (word, gap, cur) ← quotedWord? quote cur.fuel cur
      if cur.is quote then some (text ++ word, cur.next)
      else
        let (gap, cur) ← gap.read? 0 cur.fuel cur
        quotedWords? quote fuel (text ++ word ++ gap.fold) cur

def quoted? (quote : Char) (cur : Cursor) : Option (List Char × Cursor) :=
  quotedWords? quote cur.fuel [] cur.next

inductive Chomping where
  | strip
  | clip
  | keep
  deriving DecidableEq, Repr

def chomping? (c : Char) : Option Chomping :=
  if c = '+' then some .keep else if c = '-' then some .strip else none

def increment? (cur : Cursor) : Option (Nat × Cursor) :=
  match cur.rest with
  | c :: _ =>
    if '0' ≤ c ∧ c ≤ '9' then
      if c = '0' then none else some (c.toNat - '0'.toNat, cur.next)
    else some (0, cur)
  | [] => some (0, cur)

def takeChomping (cur : Cursor) : Option Chomping × Cursor :=
  match cur.rest.head?.bind chomping? with
  | some chomping => (some chomping, cur.next)
  | none => (none, cur)

def blockHeader? (cur : Cursor) : Option (Chomping × Nat × Cursor) := do
  let (before, cur) := takeChomping cur
  let (increment, cur) ← increment? cur
  let (after, cur) := if before.isSome || increment = 0 then (none, cur) else takeChomping cur
  some ((before.or after).getD .clip, increment, cur)

def endOfLine? (cur : Cursor) : Option Cursor :=
  let cur := cur.dropWhile isBlank
  let cur := if cur.is '#' then cur.dropWhile (!isBreak ·) else cur
  if cur.breakOrEndAt 0 then some cur.takeBreak.2 else none

/-- Skips indentation and empty lines: their line breaks, and the widest indentation among them.
`indent` is zero while it is not known. A tab in the indentation is refused. -/
def blockBreaks? (indent : Nat) : Nat → List Char → Nat → Cursor → Option (List Char × Nat × Cursor)
  | 0, breaks, widest, cur => some (breaks, widest, cur)
  | fuel + 1, breaks, widest, cur =>
    let spaces := (cur.rest.takeWhile (· = ' ')).length
    let cur := cur.skip (if indent = 0 then spaces else min spaces (indent - cur.column))
    let widest := max widest cur.column
    if (indent = 0 ∨ cur.column < indent) && cur.is '\t' then none
    else if cur.atBreak then
      let (kept, cur) := cur.takeBreak
      blockBreaks? indent fuel (breaks ++ kept) widest cur
    else some (breaks, widest, cur)

structure BlockLines where
  text : List Char
  lastBreak : List Char
  emptyBreaks : List Char
  blank : Bool

/-- The text of the next line behind what is there. Folded lines are joined where neither starts
with a blank. -/
def BlockLines.push (b : BlockLines) (literal : Bool) (line : List Char) : List Char :=
  let folds := !literal && b.lastBreak = ['\n'] && !b.blank && !line.head?.any isBlank
  let between :=
    if folds then (if b.emptyBreaks.isEmpty then [' '] else []) else b.lastBreak
  b.text ++ between ++ b.emptyBreaks ++ line

def blockLines? (literal : Bool) (indent : Nat) :
    Nat → BlockLines → Cursor → Option (BlockLines × Cursor)
  | 0, b, cur => some (b, cur)
  | fuel + 1, b, cur =>
    if cur.column = indent ∧ !cur.atEnd then do
      let (line, cur) := cur.takeWhile (!isBreak ·)
      let (lastBreak, cur) := cur.takeBreak
      let (emptyBreaks, _, cur) ← blockBreaks? indent cur.fuel [] 0 cur
      blockLines? literal indent fuel
        ⟨b.push literal line, lastBreak, emptyBreaks, line.head?.any isBlank⟩ cur
    else some (b, cur)

def block? (indent : Int) (cur : Cursor) : Option (List Char × Cursor) := do
  let literal := cur.is '|'
  let (chomping, increment, cur) ← blockHeader? cur.next
  let cur ← endOfLine? cur
  let given := if increment = 0 then 0 else (max indent 0).toNat + increment
  let (breaks, widest, cur) ← blockBreaks? given cur.fuel [] 0 cur
  let inner := if given = 0 then max (max widest (indent + 1).toNat) 1 else given
  let (b, cur) ← blockLines? literal inner cur.fuel ⟨[], [], breaks, false⟩ cur
  let kept := match chomping with
    | .strip => []
    | .clip => b.lastBreak
    | .keep => b.lastBreak ++ b.emptyBreaks
  some (b.text ++ kept, cur)

end TrafficControl.Yaml
