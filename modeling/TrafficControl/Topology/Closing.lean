import TrafficControl.Topology.Listening

namespace TrafficControl

namespace Topology

/-- Removes services up to the first whose watch has to be cancelled, and gives the rest. -/
def closeNext (t : Topology) : List ServiceKey → Topology × Option (ServiceKey × List ServiceKey)
  | [] => (t, none)
  | service :: left =>
    match t.current? service with
    | some (n, _) =>
      match t.remove n with
      | (true, t) => (t, some (service, left))
      | (false, t) => closeNext t left
    | none => closeNext t left

def endClosing (t : Topology) (number : Nat) : Topology :=
  if t.destruction = .closing number then { t with destruction := .done } else t

def continueClosing (t : Topology) (number : Nat) (left : List ServiceKey) : Turn Unit :=
  match t.closeNext left with
  | (t, some (service, left)) =>
    ⟨(), { t with closings := t.closings ++ [⟨number, left⟩] },
      [.cancelling (.closer number) service]⟩
  | (t, none) => (t.endClosing number).quietly ()

def closeIn (t : Topology) (order : List ServiceKey) : Turn Nat :=
  let number := t.nextClosing
  let begun := { t with nextClosing := number + 1 }.continueClosing number order
  ⟨number, begun.after, begun.happenings⟩

def close (t : Topology) : Turn Nat := t.closeIn t.services

def closeReturned (t : Topology) (number : Nat) : Turn Unit :=
  match t.closings.find? fun c => c.number = number with
  | some c =>
    let t := { t with closings := t.closings.filter fun c => c.number ≠ number }
    t.continueClosing number c.left
  | none => t.quietly ()

def isClosing (t : Topology) (number : Nat) : Bool := t.closings.any fun c => c.number = number

def destroy (t : Topology) : Topology :=
  if t.isShutdown then t else { t.shutdown with destruction := .draining }

/-- The lanes have drained: a destruction that waited for them closes the services in the given
order. -/
def drainedIn (t : Topology) (order : List ServiceKey) : Turn Unit :=
  if t.destruction = .draining ∧ t.dispatcher.isDrained then
    let closed := { t with destruction := .closing t.nextClosing }.closeIn order
    ⟨(), closed.after, closed.happenings⟩
  else t.quietly ()

def drained (t : Topology) : Turn Unit := t.drainedIn t.services

end Topology

end TrafficControl
