import TrafficControl.Decimal.Shortest
import TrafficControl.Json.Basic

namespace TrafficControl.Json

def escapedChar (c : Char) : List Char :=
  if c = '"' then ['\\', '"']
  else if c = '\\' then ['\\', '\\']
  else if c.toNat = 8 then ['\\', 'b']
  else if c.toNat = 9 then ['\\', 't']
  else if c.toNat = 10 then ['\\', 'n']
  else if c.toNat = 12 then ['\\', 'f']
  else if c.toNat = 13 then ['\\', 'r']
  else if c.toNat < 0x20 then
    ['\\', 'u', '0', '0'] ++ (if c.toNat < 0x10 then ['0'] else []) ++ Nat.toDigits 16 c.toNat
  else [c]

def renderString (s : String) : String :=
  String.ofList ('"' :: (s.toList.flatMap escapedChar ++ ['"']))

mutual

def render : Json → String
  | .null => "null"
  | .bool b => if b then "true" else "false"
  | .int n => String.ofList (Decimal.intNumeral n)
  | .float x => if x.isFinite then x.jsonForm else "null"
  | .str s => renderString s
  | .array elems => "[" ++ renderElems elems ++ "]"
  | .object members => "\x7b" ++ renderMembers members ++ "\x7d"

def renderElems : List Json → String
  | [] => ""
  | [e] => render e
  | e :: rest => render e ++ "," ++ renderElems rest

def renderMembers : List (String × Json) → String
  | [] => ""
  | [(key, value)] => renderString key ++ ":" ++ render value
  | (key, value) :: rest => renderString key ++ ":" ++ render value ++ "," ++ renderMembers rest

end

end TrafficControl.Json
