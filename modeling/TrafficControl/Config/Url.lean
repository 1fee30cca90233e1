import TrafficControl.Config.Form
import TrafficControl.Url

namespace TrafficControl.Config

def urlScheme : String := "governance"

def invalidParam (key value : String) : Failure :=
  .config ("invalid " ++ key ++ " : " ++ Text.quoted value)

def boolean? (s : String) : Option Bool :=
  if s = "true" then some true else if s = "false" then some false else none

def millis? (s : String) : Option UInt64 :=
  (Decimal.bounded? (UInt64.size - 1) s.toList).map UInt64.ofNat

def paramJson? (key value : String) : Option Json :=
  if key = "include_circuit_broken" then (boolean? value).map .bool
  else if key = "watch_retry_initial_ms" ∨ key = "watch_retry_max_ms" then
    (millis? value).map fun n => .int n.toNat
  else some (.str value)

def paramMember (param : String × String) : Except Failure (String × Json) :=
  match paramJson? param.1 param.2 with
  | some j => .ok (param.1, j)
  | none => .error (invalidParam param.1 param.2)

/-- The configuration with the values of the parameters; one called `address` replaces the address
before the parameters. -/
def ofParams (address : String) (params : Table String) : Except Failure Config := do
  let given ← params.entries.mapM paramMember
  match read .json (.ofJson (.ofMembers (("address", .str address) :: given))) with
  | .ok config => .ok config
  | .error cause => .error (.config (cause.message .json))

def ofUrl (url : String) : Except Failure Config := do
  let parsed ← Url.parse url
  if parsed.scheme ≠ urlScheme then
    .error (.config ("unsupported scheme " ++ Text.quoted parsed.scheme ++ " in " ++ url))
  else
    let config ← ofParams parsed.address parsed.params
    config.validate

end TrafficControl.Config
