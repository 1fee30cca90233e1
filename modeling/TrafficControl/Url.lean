import TrafficControl.Decimal.Basic
import TrafficControl.Failure
import TrafficControl.Table
import TrafficControl.Text.Lower
import TrafficControl.Text.Percent
import TrafficControl.Text.Quoted
import TrafficControl.Text.Split
import TrafficControl.Text.Utf8

namespace TrafficControl

def Text.Utf8.Fault.message : Text.Utf8.Fault → String
  | .invalid length start =>
    "invalid utf-8 sequence of " ++ String.ofList (Decimal.numeral length) ++
      " bytes from index " ++
      String.ofList (Decimal.numeral start)
  | .incomplete start =>
    "incomplete utf-8 byte sequence from index " ++ String.ofList (Decimal.numeral start)

structure Url where
  scheme : String
  address : String
  params : Table String
  deriving DecidableEq

namespace Url

def unescape (cs : List Char) : Except Failure String :=
  match Text.Utf8.decode (Text.Percent.decode (Text.Utf8.encode cs)) with
  | .ok cs => .ok (String.ofList cs)
  | .error fault => .error (.config fault.message)

def param (item : List Char) : Except Failure (String × String) := do
  let (key, value) := (Text.cut? '=' item).getD (item, [])
  return (← unescape key, ← unescape value)

/-- The parameters of a query. Empty items are passed over, and a later parameter replaces an
earlier one of its key. -/
def parseQuery (query : List Char) : Except Failure (Table String) :=
  (((Text.splitOn '&' query).filter (!·.isEmpty)).mapM param).map Table.ofList

def separator : List Char := "://".toList

def dropTrailing (c : Char) (cs : List Char) : List Char := (cs.reverse.dropWhile (· = c)).reverse

def malformed (url : String) : Failure := .config ("config url err : " ++ Text.quoted url)

def parse (url : String) : Except Failure Url :=
  match Text.cutWord? separator url.toList with
  | none => .error (malformed url)
  | some (scheme, rest) =>
    let (address, query) := (Text.cut? '?' rest).getD (rest, [])
    if scheme.isEmpty || address.isEmpty then .error (malformed url)
    else do
      let params ← parseQuery query
      return ⟨Text.lower (String.ofList scheme), String.ofList (dropTrailing '/' address), params⟩

end Url

end TrafficControl
