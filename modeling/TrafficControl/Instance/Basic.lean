import TrafficControl.Decimal.Basic
import TrafficControl.Table
import TrafficControl.Text.Quoted
import TrafficControl.Text.Split

namespace TrafficControl

inductive CircuitState where
  | close
  | halfOpen
  | opened
  | destroy
  deriving DecidableEq, Repr

namespace CircuitState

def choices : List (String × CircuitState) :=
  [("CLOSE", .close), ("HALF_OPEN", .halfOpen), ("OPEN", .opened), ("DESTROY", .destroy)]

def name : CircuitState → String
  | .close => "CLOSE"
  | .halfOpen => "HALF_OPEN"
  | .opened => "OPEN"
  | .destroy => "DESTROY"

def ofName? (s : String) : Option CircuitState := (choices.find? fun c => c.1 = s).map Prod.snd

def unknownMessage (s : String) : String := "unknown circuit breaker status " ++ Text.quoted s

end CircuitState

structure Instance where
  id : String
  host : String
  port : UInt16
  protocol : String
  version : String
  weight : UInt32
  healthy : Bool
  isolated : Bool
  metadata : Table String
  circuitStates : Table CircuitState
  deriving DecidableEq

instance : Inhabited Instance := ⟨"", "", 0, "", "", 100, true, false, .empty, .empty⟩

abbrev Instances := List Instance

namespace Instance

def ofAddress (id host : String) (port : UInt16) : Instance :=
  { (default : Instance) with id, host, port }

def address (i : Instance) : String :=
  i.host ++ ":" ++ String.ofList (Decimal.numeral i.port.toNat)

def withCircuitState (i : Instance) (method : String) (state : CircuitState) : Instance :=
  { i with circuitStates := i.circuitStates.insert method state }

def circuitState? (i : Instance) : Option CircuitState := i.circuitStates.get? ""

def methodState? (i : Instance) (method : String) : Option CircuitState :=
  i.circuitStates.get? method

def circuitKey : String := "_internal_circuit_breaker"

/-- A token `method:STATE`; any other token says nothing. -/
def circuitToken? (token : List Char) : Option (String × CircuitState) :=
  match Text.splitOn ':' token with
  | [method, state] =>
    (CircuitState.ofName? (String.ofList state)).map fun s => (String.ofList method, s)
  | _ => none

/-- The states that a text of tokens carries; a later token overrides an earlier one. -/
def circuitStatesOf (text : String) : Table CircuitState :=
  .ofList ((Text.splitOn ',' text.toList).filterMap circuitToken?)

def loadCircuitStates (i : Instance) : Instance :=
  match i.metadata.get? circuitKey with
  | some text => { i with circuitStates := i.circuitStates.overwrite (circuitStatesOf text) }
  | none => i

end Instance

end TrafficControl
