import TrafficControl.Naming.Basic
import TrafficControl.Naming.Discovery

namespace TrafficControl.Simulation.Naming

inductive CallKind where
  | fetch
  | subscribe
  | unsubscribe
  deriving DecidableEq, Repr

def CallKind.name : CallKind → String
  | .fetch => "fetch"
  | .subscribe => "subscribe"
  | .unsubscribe => "unsubscribe"

inductive Command where
  | list (instances : List NamedInstance)
  | refuse (calls : List CallKind)
  | fetch (service : ServiceKey) (includeBroken : Bool)
  | register (service : ServiceKey) (listener : String)
  | unregister (service : ServiceKey)
  | fire (entry : Nat)

inductive Reply where
  | nothing
  | fetched (result : Except Failure Instances)
  | finished (result : Except Failure Unit)

inductive Event where
  | called (call : NamingCall)
  | changed (listener : String) (service : ServiceKey)

structure State where
  discovery : NamingDiscovery String
  listed : List NamedInstance
  refused : List CallKind
  accepted : List (NamingEntry String)

namespace State

def initial : State := ⟨.empty, [], [], []⟩

def answer (s : State) (kind : CallKind) : Except Failure Unit :=
  if kind ∈ s.refused then .error (.other ("get result failed: " ++ kind.name ++ " refused"))
  else .ok ()

end State

def carryOut (s : State) : Command → Reply × List Event × State
  | .list instances => (.nothing, [], { s with listed := instances })
  | .refuse calls => (.nothing, [], { s with refused := calls })
  | .fetch service includeBroken =>
    (.fetched ((s.answer .fetch).map fun _ => instancesOf s.listed includeBroken),
      [.called (.fetch service.service)], s)
  | .register service listener =>
    let turn := s.discovery.register service listener (s.answer .subscribe)
    let entry := s.discovery.nextEntry service listener
    let accepted := if turn.result.isOk then s.accepted ++ [entry] else s.accepted
    (.finished turn.result, turn.calls.map .called, { s with discovery := turn.after, accepted })
  | .unregister service =>
    let turn := s.discovery.unregister service (s.answer .unsubscribe)
    (.finished turn.result, turn.calls.map .called, { s with discovery := turn.after })
  | .fire n =>
    let events := ((s.accepted[n]?).map fun e => Event.changed e.listener e.service).toList
    (.nothing, events, s)

structure Account where
  reply : Reply
  events : List Event

def runFrom (s : State) : List Command → List Account
  | [] => []
  | command :: rest =>
    let (reply, events, s) := carryOut s command
    ⟨reply, events⟩ :: runFrom s rest

def run (commands : List Command) : List Account := runFrom .initial commands

end TrafficControl.Simulation.Naming
