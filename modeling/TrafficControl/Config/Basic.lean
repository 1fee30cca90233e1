import TrafficControl.Decimal.Basic
import TrafficControl.Failure
import TrafficControl.Retry
import TrafficControl.Service.Basic
import TrafficControl.Text.Blank

namespace TrafficControl

structure Config where
  address : String
  ns : String
  token : Option String
  group : Option String
  username : Option String
  password : Option String
  queryParser : String
  includeCircuitBroken : Bool
  watchRetryInitialMs : UInt64
  watchRetryMaxMs : UInt64
  deriving DecidableEq, Repr

instance : Inhabited Config :=
  ⟨⟨"", defaultNamespace, none, none, none, none, "object", false, 100, 5000⟩⟩

namespace Config

def ofAddress (address : String) : Config := { (default : Config) with address }

def millis (n : UInt64) : String := String.ofList (Decimal.numeral n.toNat) ++ "ms"

/-- A client needs an address, and retries that neither run without a pause nor start above their
bound. -/
def validate (c : Config) : Except Failure Config :=
  if Text.isBlank c.address then .error (.config "address is empty")
  else if c.watchRetryInitialMs = 0 ∨ c.watchRetryMaxMs < c.watchRetryInitialMs then
    .error (.config ("invalid watch retry " ++ millis c.watchRetryInitialMs ++ ".." ++
      millis c.watchRetryMaxMs))
  else .ok c

def retryPolicy (c : Config) : RetryPolicy :=
  .ofMillis c.watchRetryInitialMs.toNat c.watchRetryMaxMs.toNat

def keyPart? (name : String) (value? : Option String) : Option String :=
  value?.map fun value => name ++ "=" ++ value

/-- Clients with the same key share one connection. -/
def clientKey (c : Config) : String :=
  c.address ++ "|" ++ String.intercalate "&"
    ([keyPart? "group" c.group, keyPart? "namespace" (some c.ns), keyPart? "token" c.token,
      keyPart? "username" c.username].filterMap id)

end Config

end TrafficControl
