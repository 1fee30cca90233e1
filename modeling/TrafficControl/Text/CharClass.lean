import TrafficControl.Text.Blank
import TrafficControl.Text.Word

namespace TrafficControl.Text

abbrev CharClass := Char → Bool

namespace CharClass

def none : CharClass := fun _ => false

def only (c : Char) : CharClass := fun x => x == c

def range (low high : Char) : CharClass := fun x => low ≤ x && x ≤ high

def union (a b : CharClass) : CharClass := fun x => a x || b x

def both (a b : CharClass) : CharClass := fun x => a x && b x

def without (a b : CharClass) : CharClass := fun x => a x && !b x

def either (a b : CharClass) : CharClass := fun x => a x != b x

def inverse (a : CharClass) : CharClass := fun x => !a x

def negatedIf (negated : Bool) (a : CharClass) : CharClass := if negated then a.inverse else a

def isPunctuation (c : Char) : Bool := 0x20 < c.toNat && c.toNat < 0x7F && !c.isAlphanum

def isHexDigit (c : Char) : Bool := c.isDigit || range 'a' 'f' c || range 'A' 'F' c

def ofName? (name : String) : Option CharClass :=
  if name = "alnum" then some Char.isAlphanum
  else if name = "alpha" then some Char.isAlpha
  else if name = "ascii" then some fun c => c.toNat < 0x80
  else if name = "blank" then some fun c => c = ' ' || c = '\t'
  else if name = "cntrl" then some fun c => c.toNat < 0x20 || c.toNat = 0x7F
  else if name = "digit" then some Char.isDigit
  else if name = "graph" then some fun c => 0x20 < c.toNat && c.toNat < 0x7F
  else if name = "lower" then some Char.isLower
  else if name = "print" then some fun c => 0x20 ≤ c.toNat && c.toNat < 0x7F
  else if name = "punct" then some isPunctuation
  else if name = "space" then some fun c => c = ' ' || (0x09 ≤ c.toNat && c.toNat ≤ 0x0D)
  else if name = "upper" then some Char.isUpper
  else if name = "word" then some fun c => c.isAlphanum || c = '_'
  else if name = "xdigit" then some isHexDigit
  else Option.none

def ofLetter? (c : Char) : Option CharClass :=
  if c = 'd' then some isDigitChar
  else if c = 'D' then some (inverse isDigitChar)
  else if c = 's' then some isBlankChar
  else if c = 'S' then some (inverse isBlankChar)
  else if c = 'w' then some isWordChar
  else if c = 'W' then some (inverse isWordChar)
  else Option.none

def escape? (c : Char) : Option Char :=
  if c = 'n' then some '\n'
  else if c = 't' then some '\t'
  else if c = 'r' then some '\r'
  else if c = 'a' then some (Char.ofNat 7)
  else if c = 'f' then some (Char.ofNat 12)
  else if c = 'v' then some (Char.ofNat 11)
  else if c.toNat < 0x80 && !c.isAlphanum && c != '<' && c != '>' then some c
  else Option.none

def member? : List Char → Option ((Char ⊕ CharClass) × List Char)
  | '\\' :: c :: rest =>
    match ofLetter? c with
    | some a => some (.inr a, rest)
    | Option.none => (escape? c).map fun c => (.inl c, rest)
  | '\\' :: [] => Option.none
  | c :: rest => some (.inl c, rest)
  | [] => Option.none

def item? (cs : List Char) : Option (CharClass × List Char) := do
  let (low, rest) ← member? cs
  let single := match low with
    | .inl c => only c
    | .inr a => a
  match rest with
  | '-' :: ']' :: _ => some (single, rest)
  | '-' :: '-' :: _ => some (single, rest)
  | '-' :: after =>
    match low, ← member? after with
    | .inl low, (.inl high, rest) => if high < low then Option.none else some (range low high, rest)
    | _, _ => Option.none
  | _ => some (single, rest)

def named? : List Char → Option (CharClass × List Char)
  | ':' :: rest =>
    let (negated, rest) := match rest with
      | '^' :: rest => (true, rest)
      | _ => (false, rest)
    match rest.dropWhile (· != ':') with
    | ':' :: ']' :: after =>
      let name := String.ofList (rest.takeWhile (· != ':'))
      (ofName? name).map fun a => (a.negatedIf negated, after)
    | _ => Option.none
  | _ => Option.none

/-- The hyphens at the start of a class stand for themselves, and so does a closing bracket in the
first place. -/
def opening (cs : List Char) : CharClass × List Char :=
  match cs with
  | '-' :: rest => (only '-', rest.dropWhile (· = '-'))
  | ']' :: rest => (only ']', rest)
  | _ => (none, cs)

mutual

def read? : Nat → List Char → Option (CharClass × List Char)
  | 0, _ => Option.none
  | fuel + 1, cs =>
    let (negated, cs) := match cs with
      | '^' :: rest => (true, rest)
      | _ => (false, cs)
    let (first, cs) := opening cs
    (items? fuel id first cs).map fun (a, rest) => (a.negatedIf negated, rest)

/-- The members up to the closing bracket. Those since the last operator are in `a`, and `whole`
joins them with what stands before it. -/
def items? : Nat → (CharClass → CharClass) → CharClass → List Char → Option (CharClass × List Char)
  | 0, _, _, _ => Option.none
  | fuel + 1, whole, a, cs =>
    match cs with
    | ']' :: rest => some (whole a, rest)
    | '&' :: '&' :: rest => items? fuel (both (whole a)) none rest
    | '-' :: '-' :: rest => items? fuel (without (whole a)) none rest
    | '~' :: '~' :: rest => items? fuel (either (whole a)) none rest
    | '[' :: rest => do
      let (b, rest) ← match named? rest with
        | some r => some r
        | Option.none => read? fuel rest
      items? fuel whole (a.union b) rest
    | _ => do
      let (b, rest) ← item? cs
      items? fuel whole (a.union b) rest

end

end CharClass

end TrafficControl.Text
