import TrafficControl.Toml.Strings
import TrafficControl.Toml.Table

namespace TrafficControl.Toml

def isWordChar (c : Char) : Bool :=
  c.isAlphanum || c = '_' || c = '+' || c = '-' || c = '.' || c = ':'

/-- A word. A blank may stand for the letter between a date and a time. -/
def word (cs : List Char) : List Char × List Char :=
  let first := cs.takeWhile isWordChar
  let rest := cs.dropWhile isWordChar
  match rest with
  | ' ' :: c :: rest' =>
    if isDate first && Decimal.isDigit c then
      (first ++ ' ' :: (c :: rest').takeWhile isWordChar, (c :: rest').dropWhile isWordChar)
    else (first, rest)
  | _ => (first, rest)

def afterComment : List Char → List Char
  | '#' :: rest => rest.dropWhile isTextChar
  | cs => cs

def skipLines : Nat → List Char → List Char
  | 0, cs => cs
  | fuel + 1, cs =>
    match cs.dropWhile isSpaceOrBreak with
    | '#' :: rest => skipLines fuel (rest.dropWhile isTextChar)
    | rest => rest

def skip (cs : List Char) : List Char := skipLines (fuelFor cs) cs

mutual

/-- The value at the start of the text; `depth` counts the collections around it. -/
def value? : Nat → Nat → List Char → Option (Item × List Char)
  | 0, _, _ => none
  | fuel + 1, depth, cs =>
    match cs with
    | '"' :: _ | '\'' :: _ =>
      (string? cs).map fun (s, rest) => (.scalar (.str (String.ofList s)), rest)
    | '[' :: rest =>
      if maxDepth ≤ depth + 1 then none
      else (elements? fuel (depth + 1) (skip rest)).map fun (es, rest) => (.array es, rest)
    | '\x7b' :: rest =>
      if maxDepth ≤ depth + 1 then none
      else
        match rest.dropWhile isSpace with
        | '\x7d' :: rest => some (.table .inline [], rest)
        | rest =>
          (members? fuel (depth + 1) [] rest).map fun (items, rest) => (.table .inline items, rest)
    | cs =>
      let (word, rest) := word cs
      (scalar? word).map fun v => (.scalar v, rest)

def elements? : Nat → Nat → List Char → Option (List Item × List Char)
  | 0, _, _ => none
  | fuel + 1, depth, cs =>
    match cs with
    | ']' :: rest => some ([], rest)
    | cs => do
      let (v, rest) ← value? fuel depth cs
      match skip rest with
      | ',' :: rest =>
        let (vs, rest) ← elements? fuel depth (skip rest)
        some (v :: vs, rest)
      | ']' :: rest => some ([v], rest)
      | _ => none

def members? : Nat → Nat → Items → List Char → Option (Items × List Char)
  | 0, _, _, _ => none
  | fuel + 1, depth, items, cs => do
    let ((path, key), rest) ← key? cs
    match rest with
    | '=' :: rest =>
      let (v, rest) ← value? fuel depth (rest.dropWhile isSpace)
      let items ← assign? key v path items
      match rest.dropWhile isSpace with
      | ',' :: rest => members? fuel depth items rest
      | '\x7d' :: rest => some (items, rest)
      | _ => none
    | _ => none

end

structure State where
  items : Items
  header : List String

def expression? (s : State) (cs : List Char) : Option (State × List Char) :=
  match cs with
  | '[' :: '[' :: rest => do
    let ((path, key), rest) ← key? rest
    match rest with
    | ']' :: ']' :: rest =>
      let items ← updateAt? (openRow? key) path s.items
      some (⟨items, path ++ [key]⟩, rest)
    | _ => none
  | '[' :: rest => do
    let ((path, key), rest) ← key? rest
    match rest with
    | ']' :: rest =>
      let items ← updateAt? (openTable? key) path s.items
      some (⟨items, path ++ [key]⟩, rest)
    | _ => none
  | cs => do
    let ((path, key), rest) ← key? cs
    match rest with
    | '=' :: rest =>
      let (v, rest) ← value? (fuelFor rest) 0 (rest.dropWhile isSpace)
      let items ← updateAt? (assign? key v path) s.header s.items
      some (⟨items, s.header⟩, rest)
    | _ => none

def lines? : Nat → State → List Char → Option State
  | 0, _, _ => none
  | fuel + 1, s, cs => do
    let cs := cs.dropWhile isSpace
    let starts := match cs with
      | c :: _ => c ≠ '\n' && c ≠ '#'
      | [] => false
    let (s, rest) ← if starts then expression? s cs else some (s, cs)
    match afterComment (rest.dropWhile isSpace) with
    | [] => some s
    | '\n' :: rest => lines? fuel s rest
    | _ => none

def plainBreaks : List Char → List Char
  | '\r' :: '\n' :: rest => '\n' :: plainBreaks rest
  | c :: rest => c :: plainBreaks rest
  | [] => []

def withoutByteOrderMark : List Char → List Char
  | c :: rest => if c.toNat = 0xFEFF then rest else c :: rest
  | [] => []

def parse? (text : String) : Option Json :=
  let cs := plainBreaks (withoutByteOrderMark text.toList)
  (lines? (fuelFor cs) ⟨[], []⟩ cs).bind fun s => tableToJson? s.items

end TrafficControl.Toml
