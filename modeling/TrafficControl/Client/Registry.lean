import TrafficControl.Config.Basic
import TrafficControl.Failure
import TrafficControl.Table

namespace TrafficControl

structure Registry (γ : Type u) where
  stored : Table γ
  destroyed : List γ

abbrev Factory (γ : Type u) := Registry γ → Except Failure γ × Registry γ

namespace Registry

variable {γ : Type u}

def empty : Registry γ := ⟨.empty, []⟩

def get? (r : Registry γ) (config : Config) : Option γ := r.stored.get? config.clientKey

def size (r : Registry γ) : Nat := r.stored.size

/-- The client of the configuration, made if there is none. If the factory stored one itself, that
one stays, and the one it made is dropped. A factory that fails stores nothing. -/
def loadOrStore (r : Registry γ) (config : Config) (factory : Factory γ) :
    Except Failure γ × Registry γ :=
  match r.get? config with
  | some client => (.ok client, r)
  | none =>
    match factory r with
    | (.error f, r) => (.error f, r)
    | (.ok client, r) =>
      match r.get? config with
      | some stored => (.ok stored, r)
      | none => (.ok client, { r with stored := r.stored.insert config.clientKey client })

def remove (r : Registry γ) (config : Config) : Bool × Registry γ :=
  match r.get? config with
  | some client => (true, ⟨r.stored.erase config.clientKey, r.destroyed ++ [client]⟩)
  | none => (false, r)

def destroyAll (r : Registry γ) : Registry γ :=
  ⟨.empty, r.destroyed ++ r.stored.entries.map Prod.snd⟩

end Registry

end TrafficControl
