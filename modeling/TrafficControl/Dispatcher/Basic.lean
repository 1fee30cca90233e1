import TrafficControl.Dispatcher.Lane

namespace TrafficControl

inductive LaneName where
  | registration
  | fetch
  deriving DecidableEq, Repr

namespace LaneName

def display : LaneName → String
  | .registration => "governance-watch"
  | .fetch => "governance-fetch"

end LaneName

structure Delayed (τ : Type u) where
  ticket : Nat
  lane : LaneName
  task : τ
  deriving DecidableEq, Repr

structure Dispatcher (τ : Type u) where
  registration : Lane τ
  fetch : Lane τ
  delayed : List (Delayed τ)
  nextTicket : Nat
  isShutdown : Bool
  deriving DecidableEq, Repr

namespace Dispatcher

variable {τ : Type u}

def empty : Dispatcher τ := ⟨.empty, .empty, [], 0, false⟩

def lane (d : Dispatcher τ) : LaneName → Lane τ
  | .registration => d.registration
  | .fetch => d.fetch

def withLane (d : Dispatcher τ) (l : Lane τ) : LaneName → Dispatcher τ
  | .registration => { d with registration := l }
  | .fetch => { d with fetch := l }

def submit? (d : Dispatcher τ) (name : LaneName) (task : τ) : Option (Dispatcher τ) :=
  if d.isShutdown then none else some (d.withLane ((d.lane name).push task) name)

/-- Holds the task back, off the lane, and gives the ticket that lets it go on. -/
def submitDelayed? (d : Dispatcher τ) (name : LaneName) (task : τ) : Option (Nat × Dispatcher τ) :=
  if d.isShutdown then none
  else
    some (d.nextTicket,
      { d with
        delayed := d.delayed ++ [⟨d.nextTicket, name, task⟩]
        nextTicket := d.nextTicket + 1 })

def forget (d : Dispatcher τ) (ticket : Nat) : Dispatcher τ :=
  { d with delayed := d.delayed.filter fun w => w.ticket ≠ ticket }

/-- The delay of a ticket is over: its task is submitted, or dropped after a shutdown. -/
def expire (d : Dispatcher τ) (ticket : Nat) : Dispatcher τ :=
  match d.delayed.find? fun w => w.ticket = ticket with
  | some w => ((d.forget ticket).submit? w.lane w.task).getD (d.forget ticket)
  | none => d

def start? (d : Dispatcher τ) (name : LaneName) : Option (τ × Dispatcher τ) :=
  (d.lane name).start?.map fun (task, l) => (task, d.withLane l name)

def continueAs (d : Dispatcher τ) (name : LaneName) (task : τ) : Dispatcher τ :=
  d.withLane ((d.lane name).continueAs task) name

def finish (d : Dispatcher τ) (name : LaneName) : Dispatcher τ :=
  d.withLane (d.lane name).finish name

def shutdown (d : Dispatcher τ) : Dispatcher τ := { d with isShutdown := true }

def isDrained (d : Dispatcher τ) : Bool := d.registration.isIdle && d.fetch.isIdle

def startable (d : Dispatcher τ) : List LaneName :=
  [LaneName.registration, .fetch].filter fun name => (d.lane name).start?.isSome

end Dispatcher

end TrafficControl
