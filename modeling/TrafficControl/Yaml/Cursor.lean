namespace TrafficControl.Yaml

def isBreak (c : Char) : Bool :=
  c = '\n' || c = '\r' || c.toNat = 0x85 || c.toNat = 0x2028 || c.toNat = 0x2029

def isBlank (c : Char) : Bool := c = ' ' || c = '\t'

def byteOrderMark : Char := Char.ofNat 0xFEFF

def isAllowed (c : Char) : Bool :=
  let n := c.toNat
  n = 0x09 || n = 0x0A || n = 0x0D || (0x20 ≤ n && n ≤ 0x7E) || n = 0x85 ||
    (0xA0 ≤ n && n ≤ 0xFFFD) || 0x10000 ≤ n

structure Cursor where
  rest : List Char
  index : Nat
  line : Nat
  column : Nat
  deriving Repr

namespace Cursor

def ofText (cs : List Char) : Cursor := ⟨cs, 0, 0, 0⟩

def at? (cur : Cursor) (n : Nat) : Option Char := cur.rest[n]?

def is (cur : Cursor) (c : Char) : Bool := cur.rest.head? = some c

def isAt (cur : Cursor) (n : Nat) (c : Char) : Bool := cur.at? n = some c

def breakOrEndAt (cur : Cursor) (n : Nat) : Bool := (cur.at? n).all isBreak

def spaceOrEndAt (cur : Cursor) (n : Nat) : Bool := (cur.at? n).all fun c => isBlank c || isBreak c

def atEnd (cur : Cursor) : Bool := cur.rest.isEmpty

def atBlank (cur : Cursor) : Bool := cur.rest.head?.any isBlank

def atBreak (cur : Cursor) : Bool := cur.rest.head?.any isBreak

def skip (cur : Cursor) (n : Nat) : Cursor :=
  { cur with rest := cur.rest.drop n, index := cur.index + n, column := cur.column + n }

def next (cur : Cursor) : Cursor := cur.skip 1

/-- Behind a line break, and how the break is kept: as a line feed, apart from the two Unicode
separators, which stay. Nothing happens where there is none. -/
def takeBreak (cur : Cursor) : List Char × Cursor :=
  match cur.rest with
  | '\r' :: '\n' :: rest => (['\n'], ⟨rest, cur.index + 2, cur.line + 1, 0⟩)
  | c :: rest =>
    if isBreak c then
      (if c.toNat = 0x2028 || c.toNat = 0x2029 then [c] else ['\n'],
        ⟨rest, cur.index + 1, cur.line + 1, 0⟩)
    else ([], cur)
  | [] => ([], cur)

def takeWhile (cur : Cursor) (p : Char → Bool) : List Char × Cursor :=
  let taken := cur.rest.takeWhile p
  (taken, cur.skip taken.length)

def dropWhile (cur : Cursor) (p : Char → Bool) : Cursor := (cur.takeWhile p).2

def fuel (cur : Cursor) : Nat := cur.rest.length + 1

def atMarker (cur : Cursor) (mark : Char) : Bool :=
  cur.column = 0 && cur.isAt 0 mark && cur.isAt 1 mark && cur.isAt 2 mark && cur.spaceOrEndAt 3

def atDocumentMarker (cur : Cursor) : Bool := cur.atMarker '-' || cur.atMarker '.'

end Cursor

end TrafficControl.Yaml
