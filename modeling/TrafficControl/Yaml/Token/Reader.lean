import TrafficControl.Yaml.Token.Mark

namespace TrafficControl.Yaml

/-- A place where a key may have started. One at the indentation of its mapping has to be a key. -/
structure PossibleKey where
  required : Bool
  before : Nat
  index : Nat
  line : Nat
  column : Nat

def maxKeyLength : Nat := 1024

structure Lexer where
  cursor : Cursor
  tokens : List Token
  indents : List Nat
  keyAllowed : Bool
  key : Option PossibleKey
  outerKeys : List (Option PossibleKey)

namespace Lexer

def ofText (cs : List Char) : Lexer := ⟨.ofText cs, [], [], true, none, []⟩

def inFlow (l : Lexer) : Bool := !l.outerKeys.isEmpty

def indent (l : Lexer) : Int :=
  match l.indents with
  | n :: _ => n
  | [] => -1

def push (l : Lexer) (t : Token) : Lexer := { l with tokens := t :: l.tokens }

def insert (l : Lexer) (before : Nat) (ts : List Token) : Lexer :=
  let after := l.tokens.length - before
  { l with tokens := l.tokens.take after ++ ts.reverse ++ l.tokens.drop after }

def dropKey? (l : Lexer) : Option Lexer :=
  match l.key with
  | some k => if k.required then none else some { l with key := none }
  | none => some l

def saveKey? (l : Lexer) : Option Lexer :=
  if l.keyAllowed then do
    let l ← l.dropKey?
    let cur := l.cursor
    some { l with
      key := some ⟨!l.inFlow && l.indent == cur.column, l.tokens.length, cur.index, cur.line,
        cur.column⟩ }
  else some l

def isStale (l : Lexer) (k : PossibleKey) : Bool :=
  k.line < l.cursor.line || k.index + maxKeyLength < l.cursor.index

def dropStaleKeys? (l : Lexer) : Option Lexer := do
  let l ← match l.key with
    | some k => if l.isStale k then l.dropKey? else some l
    | none => some l
  let stale (k? : Option PossibleKey) := k?.any l.isStale
  if l.outerKeys.any fun k? => stale k? && k?.any PossibleKey.required then none
  else some { l with outerKeys := l.outerKeys.map fun k? => if stale k? then none else k? }

def rollIndent (l : Lexer) (column before : Nat) (t : Token) : Lexer :=
  if !l.inFlow && l.indent < column then
    { l.insert before [t] with indents := column :: l.indents }
  else l

def unrollIndent (l : Lexer) (column : Int) : Lexer :=
  if l.inFlow then l
  else
    let closed := l.indents.takeWhile fun n : Nat => column < n
    { l with
      tokens := List.replicate closed.length Token.blockEnd ++ l.tokens
      indents := l.indents.drop closed.length }

/-- Skips white space and comments up to the next token. A byte order mark may start a line. On a
new line of a block a key may start. -/
def skipSpace : Nat → Lexer → Lexer
  | 0, l => l
  | fuel + 1, l =>
    let tabs := l.inFlow || !l.keyAllowed
    let cur := if l.cursor.column = 0 && l.cursor.is byteOrderMark then l.cursor.next else l.cursor
    let cur := cur.dropWhile fun c => c = ' ' || (tabs && c = '\t')
    let cur := if cur.is '#' then cur.dropWhile (!isBreak ·) else cur
    if cur.atBreak then
      skipSpace fuel
        { l with cursor := cur.takeBreak.2, keyAllowed := l.keyAllowed || !l.inFlow }
    else { l with cursor := cur }

def single (l : Lexer) (t : Token) : Lexer := { l.push t with cursor := l.cursor.next }

def documentMarker? (l : Lexer) (t : Token) : Option Lexer := do
  let l ← (l.unrollIndent (-1)).dropKey?
  some { l.push t with keyAllowed := false, cursor := l.cursor.skip 3 }

def directiveLine? (l : Lexer) : Option Lexer := do
  let l ← (l.unrollIndent (-1)).dropKey?
  let (t, cursor) ← directive? l.cursor
  some { l.push t with keyAllowed := false, cursor }

def flowStart? (l : Lexer) (t : Token) : Option Lexer := do
  let l ← l.saveKey?
  some { l.single t with keyAllowed := true, key := none, outerKeys := l.key :: l.outerKeys }

def flowEnd? (l : Lexer) (t : Token) : Option Lexer := do
  let l ← l.dropKey?
  let l := { l.single t with keyAllowed := false }
  match l.outerKeys with
  | key :: outerKeys => some { l with key, outerKeys }
  | [] => some l

def comma? (l : Lexer) : Option Lexer := do
  let l ← l.dropKey?
  some { l.single .comma with keyAllowed := true }

def blockEntry? (l : Lexer) : Option Lexer := do
  if !l.inFlow && !l.keyAllowed then none
  else
    let l := l.rollIndent l.cursor.column l.tokens.length .blockSequence
    let l ← l.dropKey?
    some { l.single .entry with keyAllowed := true }

def explicitKey? (l : Lexer) : Option Lexer := do
  if !l.inFlow && !l.keyAllowed then none
  else
    let l := l.rollIndent l.cursor.column l.tokens.length .blockMapping
    let l ← l.dropKey?
    some { l.single .key with keyAllowed := !l.inFlow }

def colon? (l : Lexer) : Option Lexer :=
  match l.key with
  | some k =>
    let l := (l.insert k.before [.key]).rollIndent k.column k.before .blockMapping
    some { l.single .value with key := none, keyAllowed := false }
  | none =>
    if !l.inFlow && !l.keyAllowed then none
    else
      let l := l.rollIndent l.cursor.column l.tokens.length .blockMapping
      some { l.single .value with keyAllowed := !l.inFlow }

def property? (l : Lexer) (read? : Cursor → Option (Token × Cursor)) : Option Lexer := do
  let l ← l.saveKey?
  let (t, cursor) ← read? l.cursor
  some { l.push t with keyAllowed := false, cursor }

def block? (l : Lexer) : Option Lexer := do
  let l ← l.dropKey?
  let (text, cursor) ← Yaml.block? l.indent l.cursor
  some { l.push (.scalar false (String.ofList text)) with keyAllowed := true, cursor }

def quoted? (l : Lexer) (quote : Char) : Option Lexer := do
  let l ← l.saveKey?
  let (text, cursor) ← Yaml.quoted? quote l.cursor
  some { l.push (.scalar false (String.ofList text)) with keyAllowed := false, cursor }

def plain? (l : Lexer) : Option Lexer := do
  let l ← l.saveKey?
  let (text, newLine, cursor) ← Yaml.plain? l.inFlow (l.indent + 1) l.cursor
  some { l.push (.scalar true (String.ofList text)) with keyAllowed := newLine, cursor }

def isIndicator (c : Char) : Bool := "-?:,[]\x7b\x7d#&*!|>'\"%@\x60".toList.contains c

def startsPlain (l : Lexer) (c : Char) : Bool :=
  !isIndicator c ||
    (c = '-' && !(l.cursor.at? 1).any isBlank) ||
    (!l.inFlow && (c = '?' || c = ':') && !l.cursor.spaceOrEndAt 1)

def token? (l : Lexer) (c : Char) : Option Lexer :=
  let cur := l.cursor
  if cur.column = 0 && c = '%' then l.directiveLine?
  else if cur.atMarker '-' then l.documentMarker? .documentStart
  else if cur.atMarker '.' then l.documentMarker? .documentEnd
  else if c = '[' then l.flowStart? .flowSequence
  else if c = '\x7b' then l.flowStart? .flowMapping
  else if c = ']' then l.flowEnd? .flowSequenceEnd
  else if c = '\x7d' then l.flowEnd? .flowMappingEnd
  else if c = ',' then l.comma?
  else if c = '-' && cur.spaceOrEndAt 1 then l.blockEntry?
  else if c = '?' && (l.inFlow || cur.spaceOrEndAt 1) then l.explicitKey?
  else if c = ':' && (l.inFlow || cur.spaceOrEndAt 1) then l.colon?
  else if c = '*' then l.property? fun cur => (name? cur).map fun (n, cur) => (.alias n, cur)
  else if c = '&' then l.property? fun cur => (name? cur).map fun (n, cur) => (.anchor n, cur)
  else if c = '!' then l.property? (tag? l.inFlow)
  else if !l.inFlow && (c = '|' || c = '>') then l.block?
  else if c = '\'' || c = '"' then l.quoted? c
  else if !isBlank c && l.startsPlain c then l.plain?
  else none

def run? : Nat → Lexer → Option (List Token)
  | 0, _ => none
  | fuel + 1, l => do
    let l := l.skipSpace l.cursor.fuel
    let l ← l.dropStaleKeys?
    match l.cursor.rest with
    | [] =>
      let l ← (l.unrollIndent (-1)).dropKey?
      some l.tokens.reverse
    | c :: _ =>
      let l ← (l.unrollIndent l.cursor.column).token? c
      run? fuel l

end Lexer

def tokens? (cs : List Char) : Option (List Token) :=
  if cs.all isAllowed then (Lexer.ofText cs).run? (cs.length + 1) else none

end TrafficControl.Yaml
