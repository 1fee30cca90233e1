namespace TrafficControl.Simulation

structure Agenda (ε : Type u) where
  now : Nat
  ready : List ε
  /-- In the order in which they are due; of those due together, the one set first comes first. -/
  timers : List (Nat × ε)

namespace Agenda

variable {ε : Type u}

def empty : Agenda ε := ⟨0, [], []⟩

def push (a : Agenda ε) (e : ε) : Agenda ε := { a with ready := a.ready ++ [e] }

def pushFront (a : Agenda ε) (e : ε) : Agenda ε := { a with ready := e :: a.ready }

def insertTimer (due : Nat) (e : ε) : List (Nat × ε) → List (Nat × ε)
  | [] => [(due, e)]
  | t :: rest => if t.1 ≤ due then t :: insertTimer due e rest else (due, e) :: t :: rest

def after (a : Agenda ε) (delay : Nat) (e : ε) : Agenda ε :=
  if delay = 0 then a.pushFront e
  else { a with timers := insertTimer (a.now + delay) e a.timers }

def nextDue? (a : Agenda ε) : Option Nat := a.timers.head?.map Prod.fst

/-- Moves the clock to the first time that something is due at, and makes that ready, urgent errands
first. -/
def advance? (a : Agenda ε) (urgent : ε → Bool) : Option (Agenda ε) :=
  a.nextDue?.map fun due =>
    let fired := (a.timers.takeWhile fun t => t.1 ≤ due).map Prod.snd
    { now := due
      ready := a.ready ++ fired.filter urgent ++ fired.filter fun e => !urgent e
      timers := a.timers.dropWhile fun t => t.1 ≤ due }

end Agenda

structure World (σ : Type u) (ε : Type v) where
  state : σ
  agenda : Agenda ε

structure Dynamics (σ : Type u) (ε : Type v) where
  perform : ε → World σ ε → World σ ε
  urgent : σ → ε → Bool

namespace Dynamics

variable {σ : Type u} {ε : Type v}

/-- Runs errands, and moves the clock whenever none is ready, until `done` holds with none ready.
Gives up where the fuel ends or nothing is left that could happen. -/
def runUntil (d : Dynamics σ ε) (done : World σ ε → Bool) : Nat → World σ ε → World σ ε
  | 0, w => w
  | fuel + 1, w =>
    match w.agenda.ready with
    | e :: rest =>
      d.runUntil done fuel (d.perform e { w with agenda := { w.agenda with ready := rest } })
    | [] =>
      if done w then w
      else
        match w.agenda.advance? (d.urgent w.state) with
        | some agenda => d.runUntil done fuel { w with agenda }
        | none => w

def fuel : Nat := 100000000

def await (d : Dynamics σ ε) (done : World σ ε → Bool) (w : World σ ε) : World σ ε :=
  d.runUntil done fuel w

def settle (d : Dynamics σ ε) (w : World σ ε) : World σ ε := d.await (fun _ => true) w

def pass (d : Dynamics σ ε) (ms : Nat) (w : World σ ε) : World σ ε :=
  let target := w.agenda.now + ms
  let w := d.await (fun w => w.agenda.nextDue?.all fun due => target < due) w
  { w with agenda := { w.agenda with now := target } }

end Dynamics

end TrafficControl.Simulation
