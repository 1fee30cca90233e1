import TrafficControl.Decimal.Basic
import TrafficControl.Text.CharClass

namespace TrafficControl.Text

inductive Pattern where
  | empty
  | start
  | stop
  | one (test : Char → Bool)
  | seq (a b : Pattern)
  | alt (a b : Pattern)
  | star (a : Pattern)

namespace Pattern

/-- Adds what `step` reaches from the frontier until nothing new appears. -/
def reach (step : Nat → List Nat) : Nat → List Nat → List Nat → List Nat
  | 0, _, seen => seen
  | fuel + 1, frontier, seen =>
    match ((frontier.flatMap step).eraseDups).filter fun i => !seen.contains i with
    | [] => seen
    | next => reach step fuel next (seen ++ next)

def ends (text : Array Char) : Pattern → Nat → List Nat
  | .empty, i => [i]
  | .start, i => if i = 0 then [i] else []
  | .stop, i => if i = text.size then [i] else []
  | .one test, i =>
    match text[i]? with
    | some c => if test c then [i + 1] else []
    | none => []
  | .seq a b, i => ((ends text a i).flatMap (ends text b)).eraseDups
  | .alt a b, i => (ends text a i ++ ends text b i).eraseDups
  | .star a, i => reach (ends text a) (text.size + 1) [i] [i]

def found (p : Pattern) (s : String) : Bool :=
  let text := s.toList.toArray
  (List.range (text.size + 1)).any fun i => !(p.ends text i).isEmpty

def point : Pattern := .one fun c => c != '\n'

def plus (a : Pattern) : Pattern := .seq a (.star a)

def optional (a : Pattern) : Pattern := .alt a .empty

def times (a : Pattern) : Nat → Pattern
  | 0 => .empty
  | n + 1 => .seq a (times a n)

def upTo (a : Pattern) : Nat → Pattern
  | 0 => .empty
  | n + 1 => optional (.seq a (upTo a n))

def maxTimes : Nat := 1000

def count? (cs : List Char) : Option Nat :=
  (Decimal.digits? (trimChars cs)).bind fun n => if n ≤ maxTimes then some n else none

def counted? (p : Pattern) (cs : List Char) : Option (Pattern × List Char) := do
  let inner := cs.takeWhile (· != '\x7d')
  let low ← count? (inner.takeWhile (· != ','))
  match cs.dropWhile (· != '\x7d'), inner.dropWhile (· != ',') with
  | _ :: rest, [] => some (times p low, rest)
  | _ :: rest, [_] => some (.seq (times p low) (.star p), rest)
  | _ :: rest, _ :: high =>
    let high ← count? high
    if high < low then none else some (.seq (times p low) (upTo p (high - low)), rest)
  | [], _ => none

/-- A question mark behind a repetition asks for the shortest match first and changes nothing in
whether there is one. -/
def withoutMark : List Char → List Char
  | '?' :: rest => rest
  | rest => rest

def repeated? : Nat → Pattern → List Char → Option (Pattern × List Char)
  | 0, _, _ => none
  | fuel + 1, p, cs =>
    match cs with
    | '*' :: rest => repeated? fuel (.star p) (withoutMark rest)
    | '+' :: rest => repeated? fuel (plus p) (withoutMark rest)
    | '?' :: rest => repeated? fuel (optional p) (withoutMark rest)
    | '\x7b' :: rest => do
      let (p, rest) ← counted? p rest
      repeated? fuel p (withoutMark rest)
    | _ => some (p, cs)

mutual

def alternatives? : Nat → List Char → Option (Pattern × List Char)
  | 0, _ => none
  | fuel + 1, cs => do
    let (p, rest) ← sequence? fuel cs
    match rest with
    | '|' :: rest => do
      let (q, rest) ← alternatives? fuel rest
      some (.alt p q, rest)
    | _ => some (p, rest)

def sequence? : Nat → List Char → Option (Pattern × List Char)
  | 0, _ => none
  | fuel + 1, cs =>
    match cs with
    | [] => some (.empty, [])
    | c :: _ =>
      if c = '|' || c = ')' then some (.empty, cs)
      else do
        let (p, rest) ← atom? fuel cs
        let (p, rest) ← repeated? (rest.length + 1) p rest
        let (q, rest) ← sequence? fuel rest
        some (.seq p q, rest)

def atom? : Nat → List Char → Option (Pattern × List Char)
  | 0, _ => none
  | _ + 1, [] => none
  | fuel + 1, c :: rest =>
    if c = '(' then do
      let inner := match rest with
        | '?' :: ':' :: inner => inner
        | _ => rest
      let (p, rest) ← alternatives? fuel inner
      match rest with
      | ')' :: rest => some (p, rest)
      | _ => none
    else if c = '[' then
      (CharClass.read? (2 * rest.length + 2) rest).map fun (a, rest) => (.one a, rest)
    else if c = '.' then some (point, rest)
    else if c = '^' then some (.start, rest)
    else if c = '$' then some (.stop, rest)
    else if c = '*' || c = '+' || c = '?' || c = '\x7b' then none
    else if c = '\\' then
      (CharClass.member? (c :: rest)).map fun (m, rest) =>
        match m with
        | .inl e => (.one (CharClass.only e), rest)
        | .inr a => (.one a, rest)
    else some (.one (· == c), rest)

end

def ofText? (s : String) : Option Pattern := do
  let cs := s.toList
  let (p, rest) ← alternatives? (4 * cs.length + 4) cs
  if rest.isEmpty then some p else none

end Pattern

def searches (pattern text : String) : Bool :=
  match Pattern.ofText? pattern with
  | some p => p.found text
  | none => false

def matchesWhole (pattern text : String) : Bool := searches ("^(" ++ pattern ++ ")$") text

end TrafficControl.Text
