import TrafficControl.Query.JsonPath.Eval
import TrafficControl.Query.JsonPath.Reader
import TrafficControl.Query.Walk

namespace TrafficControl.Query

def absolute : List Char → List Char
  | [] => ['$']
  | '$' :: rest => '$' :: rest
  | '[' :: rest => '$' :: '[' :: rest
  | path => '$' :: '.' :: path

def lengthSuffix : List Char := ".length()".toList

def withoutLength (path : List Char) : List Char × Bool :=
  if lengthSuffix.isSuffixOf path then (path.take (path.length - lengthSuffix.length), true)
  else (path, false)

theorem withoutLength_append (path : List Char) :
    withoutLength (path ++ lengthSuffix) = (path, true) := by
  simp [withoutLength]

theorem withoutLength_of_not_suffix {path : List Char} (different : ¬ lengthSuffix <:+ path) :
    withoutLength path = (path, false) := by
  simp [withoutLength, different]

/-- The size of a single array or object, else the number of nodes; nothing for no node. -/
def countNodes? : List Json → Option Nat
  | [] => none
  | [.array elems] => some elems.length
  | [.object members] => some members.length
  | nodes => some nodes.length

/-- One node as a text or as JSON, several as a JSON array; nothing for no node and for null. -/
def showNodes? : List Json → Option String
  | [] => none
  | [.null] => none
  | [.str s] => some s
  | [j] => some j.render
  | nodes => some (Json.array nodes).render

def readJsonPath? (query : String) (arguments : List Value) : Option String := do
  let (n, path) ← splitParam? query.toList
  let (path, counted) := withoutLength (Text.trimChars path)
  let segments ← JsonPath.ofText? (absolute path)
  let argument ← arguments[n]?
  let nodes := JsonPath.query segments argument.toJson
  if counted then (countNodes? nodes).map fun n => String.ofList (Decimal.numeral n)
  else showNodes? nodes

inductive Resolver where
  | object
  | jsonPath
  deriving DecidableEq, Repr

namespace Resolver

def name : Resolver → String
  | .object => "object"
  | .jsonPath => "json_path"

def ofName (name : String) : Resolver :=
  if name = "json_path" || name = "JsonPath" then .jsonPath else .object

def read? : Resolver → String → List Value → Option String
  | .object => readPlain?
  | .jsonPath => readJsonPath?

end Resolver

end TrafficControl.Query
