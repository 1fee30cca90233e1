import TrafficControl.Client.Basic
import TrafficControl.Client.Registry

namespace TrafficControl.Simulation.Sharing

/-- A step builds at most two clients: one itself, and one in a load that its factory starts. -/
structure Serial where
  step : Nat
  isInner : Bool
  deriving DecidableEq, Repr

inductive Command where
  | load (config : Config) (parts : ClientParts) (failure? : Option Failure) (isNested : Bool)
  | get (config : Config)
  | remove (config : Config)
  | destroyAll
  | key (config : Config)

structure FactoryNote where
  size : Nat
  isKnown : Bool
  inner? : Option Nat
  deriving DecidableEq, Repr

inductive Reply where
  | nothing
  | flag (b : Bool)
  | client (number? : Option Nat)
  | loaded (client : Except Failure Nat) (note? : Option FactoryNote)
  | text (s : String)

structure State where
  registry : Registry Serial
  held : List Serial

namespace State

def initial : State := ⟨.empty, []⟩

def hold (s : State) (client : Serial) : State :=
  if client ∈ s.held then s else { s with held := s.held ++ [client] }

def numberOf (s : State) (client : Serial) : Nat := s.held.idxOf client

def destroyed (s : State) : List Bool := s.held.map fun c => decide (c ∈ s.registry.destroyed)

end State

def build (config : Config) (parts : ClientParts) (serial : Serial) : Except Failure Serial :=
  (Client.build config parts).map fun _ => serial

def allParts : ClientParts where
  hasDiscovery := true
  rules? := some fun _ _ => .ok none
  quota? := some fun _ => .ok ⟨false, ""⟩
  route? := some fun _ => .ok .whole
  flow? := some fun _ => .pass

def innerLoad (config : Config) (step : Nat) (r : Registry Serial) :
    Except Failure Serial × Registry Serial :=
  r.loadOrStore config fun r => (build config allParts ⟨step, true⟩, r)

def prepare (config : Config) (isNested : Bool) (step : Nat) (r : Registry Serial) :
    Option Serial × Registry Serial :=
  if isNested then
    let (inner, r) := innerLoad config step r
    (inner.toOption, r)
  else (none, r)

def factory (config : Config) (parts : ClientParts) (failure? : Option Failure) (isNested : Bool)
    (step : Nat) : Factory Serial := fun r =>
  let (_, r) := prepare config isNested step r
  match failure? with
  | some failure => (.error failure, r)
  | none => (build config parts ⟨step, false⟩, r)

def load (s : State) (step : Nat) (config : Config) (parts : ClientParts)
    (failure? : Option Failure) (isNested : Bool) : Reply × State :=
  let (result, registry) :=
    s.registry.loadOrStore config (factory config parts failure? isNested step)
  let (inner?, prepared) := prepare config isNested step s.registry
  let isCalled := (s.registry.get? config).isNone
  let s := { s with registry }
  let s := if isCalled then inner?.elim s s.hold else s
  let note? : Option FactoryNote :=
    if isCalled then
      some ⟨prepared.size, (prepared.get? config).isSome, inner?.map s.numberOf⟩
    else none
  match result with
  | .ok client =>
    let s := s.hold client
    (.loaded (.ok (s.numberOf client)) note?, s)
  | .error failure => (.loaded (.error failure) note?, s)

def carryOut (s : State) (step : Nat) : Command → Reply × State
  | .load config parts failure? isNested => load s step config parts failure? isNested
  | .get config =>
    match s.registry.get? config with
    | some client =>
      let s := s.hold client
      (.client (some (s.numberOf client)), s)
    | none => (.client none, s)
  | .remove config =>
    let (found, registry) := s.registry.remove config
    (.flag found, { s with registry })
  | .destroyAll => (.nothing, { s with registry := s.registry.destroyAll })
  | .key config => (.text config.clientKey, s)

structure Account where
  reply : Reply
  size : Nat
  destroyed : List Bool

def runFrom (s : State) (step : Nat) : List Command → List Account
  | [] => []
  | command :: rest =>
    let (reply, s) := carryOut s step command
    ⟨reply, s.registry.size, s.destroyed⟩ :: runFrom s (step + 1) rest

def run (commands : List Command) : List Account := runFrom .initial 0 commands

end TrafficControl.Simulation.Sharing
