import TrafficControl.Failure
import TrafficControl.Service.Basic

namespace TrafficControl

structure NamingEntry (α : Type u) where
  number : Nat
  service : ServiceKey
  listener : α
  deriving DecidableEq, Repr

inductive NamingCall where
  | fetch (name : String)
  | subscribe (name : String)
  | unsubscribe (name : String) (entry : Nat)
  deriving DecidableEq, Repr

structure NamingDiscovery (α : Type u) where
  entries : List (NamingEntry α)
  accepted : Nat

structure NamingTurn (α : Type u) where
  result : Except Failure Unit
  calls : List NamingCall
  after : NamingDiscovery α

namespace NamingDiscovery

variable {α : Type u}

def empty : NamingDiscovery α := ⟨[], 0⟩

def entry? (d : NamingDiscovery α) (service : ServiceKey) : Option (NamingEntry α) :=
  d.entries.find? fun e => e.service = service

def forget (d : NamingDiscovery α) (service : ServiceKey) : NamingDiscovery α :=
  { d with entries := d.entries.filter fun e => e.service ≠ service }

def nextEntry (d : NamingDiscovery α) (service : ServiceKey) (listener : α) : NamingEntry α :=
  ⟨d.accepted, service, listener⟩

def accept (d : NamingDiscovery α) (entry : NamingEntry α) : NamingDiscovery α :=
  ⟨(d.forget entry.service).entries ++ [entry], d.accepted + 1⟩

def register (d : NamingDiscovery α) (service : ServiceKey) (listener : α)
    (answer : Except Failure Unit) : NamingTurn α where
  result := answer
  calls := [.subscribe service.service]
  after :=
    match answer with
    | .ok () => d.accept (d.nextEntry service listener)
    | .error _ => d

/-- Cancels a watch, given the naming service's answer. The entry is gone whatever it says. Without
an entry nobody is asked. -/
def unregister (d : NamingDiscovery α) (service : ServiceKey) (answer : Except Failure Unit) :
    NamingTurn α :=
  match d.entry? service with
  | some entry => ⟨answer, [.unsubscribe service.service entry.number], d.forget service⟩
  | none => ⟨.ok (), [], d⟩

end NamingDiscovery

end TrafficControl
