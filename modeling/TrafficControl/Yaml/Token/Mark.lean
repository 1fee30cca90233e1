import TrafficControl.Yaml.Text
import TrafficControl.Yaml.Token

namespace TrafficControl.Yaml

def isNameChar (c : Char) : Bool := c.isAlphanum || c = '_' || c = '-'

def endsName (c : Char) : Bool :=
  c = '?' || c = ':' || c = ',' || c = ']' || c = '\x7d' || c = '%' || c = '@' || c = '\x60'

def name? (cur : Cursor) : Option (String × Cursor) :=
  let (name, cur) := cur.next.takeWhile isNameChar
  if name.isEmpty || !(cur.spaceOrEndAt 0 || cur.rest.head?.any endsName) then none
  else some (String.ofList name, cur)

def isUriChar (c : Char) : Bool :=
  isNameChar c || ";/?:@&=+$.!~*'()%".toList.contains c

def isVerbatimChar (c : Char) : Bool := isUriChar c || c = ',' || c = '[' || c = ']'

def bytesBehind? (lead : Nat) : Option Nat :=
  if lead < 0x80 then some 0
  else if lead < 0xC0 then none
  else if lead < 0xE0 then some 1
  else if lead < 0xF0 then some 2
  else if lead < 0xF8 then some 3
  else none

def escapedByte? : List Char → Option (Nat × List Char)
  | '%' :: a :: b :: rest => (hexValue? [a, b]).map fun n => (n, rest)
  | _ => none

def bytesBehind : Nat → List Char → Option (List UInt8 × List Char)
  | 0, cs => some ([], cs)
  | n + 1, cs => do
    let (byte, rest) ← escapedByte? cs
    if 0x80 ≤ byte ∧ byte < 0xC0 then
      let (bytes, rest) ← bytesBehind n rest
      some (UInt8.ofNat byte :: bytes, rest)
    else none

def unescape? : Nat → List Char → Option (List UInt8)
  | 0, _ => some []
  | fuel + 1, cs =>
    match cs with
    | [] => some []
    | '%' :: _ => do
      let (lead, rest) ← escapedByte? cs
      let n ← bytesBehind? lead
      let (bytes, rest) ← bytesBehind n rest
      let others ← unescape? fuel rest
      some (UInt8.ofNat lead :: bytes ++ others)
    | c :: rest => (unescape? fuel rest).map (UInt8.ofNat c.toNat :: ·)

def anyAddress? (p : Char → Bool) (cur : Cursor) : Option (List UInt8 × Cursor) := do
  let (raw, cur) := cur.takeWhile p
  let bytes ← unescape? (raw.length + 1) raw
  some (bytes.takeWhile (· != 0), cur)

def address? (p : Char → Bool) (cur : Cursor) : Option (List UInt8 × Cursor) :=
  if cur.rest.head?.any p then anyAddress? p cur else none

def handle (cur : Cursor) : String × Cursor :=
  let (name, after) := cur.next.takeWhile isNameChar
  if after.is '!' then (String.ofList ('!' :: name ++ ['!']), after.next)
  else ("!", cur.next)

def bareTag : List UInt8 := "!".toUTF8.toList

/-- A tag as handle and suffix. In angle brackets it has no handle, and `!` alone is its own
suffix. -/
def tag? (flow : Bool) (cur : Cursor) : Option (Token × Cursor) := do
  let (token, cur) ←
    if cur.isAt 1 '<' then do
      let (suffix, cur) ← address? isVerbatimChar (cur.skip 2)
      if cur.is '>' then some (Token.tag "" suffix, cur.next) else none
    else do
      let (handle, cur) := handle cur
      if handle = "!" then
        let (suffix, cur) ← anyAddress? isUriChar cur
        some (if suffix.isEmpty then Token.tag "" bareTag else Token.tag handle suffix, cur)
      else
        let (suffix, cur) ← address? isUriChar cur
        some (Token.tag handle suffix, cur)
  if cur.spaceOrEndAt 0 || (flow && cur.is ',') then some (token, cur) else none

def number? (cur : Cursor) : Option (Nat × Cursor) :=
  let (digits, cur) := cur.takeWhile fun c => '0' ≤ c && c ≤ '9'
  if digits.isEmpty || 9 < digits.length then none
  else some (digits.foldl (fun n c => 10 * n + (c.toNat - '0'.toNat)) 0, cur)

def version? (cur : Cursor) : Option (Token × Cursor) := do
  let (major, cur) ← number? (cur.dropWhile isBlank)
  if cur.is '.' then
    let (minor, cur) ← number? cur.next
    some (.version major minor, cur)
  else none

def tagHandle? (cur : Cursor) : Option (Token × Cursor) := do
  let cur := cur.dropWhile isBlank
  if cur.is '!' then
    let (handle, cur) := handle cur
    if cur.atBlank then
      let (start, cur) ← address? isVerbatimChar (cur.dropWhile isBlank)
      if cur.spaceOrEndAt 0 then some (.tagHandle handle start, cur) else none
    else none
  else none

def directive? (cur : Cursor) : Option (Token × Cursor) := do
  let (name, cur) := cur.next.takeWhile isNameChar
  if !cur.spaceOrEndAt 0 then none
  else
    let (token, cur) ←
      if name = "YAML".toList then version? cur
      else if name = "TAG".toList then tagHandle? cur
      else none
    let cur ← endOfLine? cur
    some (token, cur)

end TrafficControl.Yaml
