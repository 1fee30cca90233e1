import TrafficControl.Dispatcher.Basic
import TrafficControl.Simulation.Agenda

namespace TrafficControl.Simulation.Tasks

structure Act (ι : Type) where
  id : ι
  sleepMs : Nat
  breaksOff : Bool

inductive ScriptedTask (ι : Type) where
  | single (act : Act ι)
  | followed (act : Act ι) (lane : LaneName) (next : ScriptedTask ι)

namespace ScriptedTask

variable {ι : Type}

def act : ScriptedTask ι → Act ι
  | .single act => act
  | .followed act _ _ => act

def next? : ScriptedTask ι → Option (LaneName × ScriptedTask ι)
  | .single _ => none
  | .followed _ lane next => some (lane, next)

end ScriptedTask

inductive Mark where
  | started
  | accepted
  | refused
  | brokenOff
  | ended
  deriving DecidableEq, Repr

structure Entry (ι : Type) where
  lane : LaneName
  mark : Mark
  id : ι
  time : Nat

structure State (ι : Type) where
  dispatcher : Dispatcher (ScriptedTask ι)
  held : Bool
  entries : List (Entry ι)

inductive Errand where
  | work (lane : LaneName)
  | wake (lane : LaneName)
  | arm (ticket delay : Nat)
  | expire (ticket : Nat)
  | shutdown
  deriving DecidableEq, Repr

variable {ι : Type}

abbrev Running (ι : Type) := World (State ι) Errand

namespace Running

def start : Running ι := ⟨⟨.empty, true, []⟩, .empty⟩

def note (w : Running ι) (lane : LaneName) (mark : Mark) (id : ι) : Running ι :=
  let entries := w.state.entries ++ [⟨lane, mark, id, w.agenda.now⟩]
  { w with state := { w.state with entries } }

def withDispatcher (w : Running ι) (d : Dispatcher (ScriptedTask ι)) : Running ι :=
  { w with state := { w.state with dispatcher := d } }

def wakeLanes (w : Running ι) : Running ι :=
  w.state.dispatcher.startable.foldl
    (fun w lane =>
      if Errand.work lane ∈ w.agenda.ready then w
      else { w with agenda := w.agenda.push (.work lane) }) w

def submit (w : Running ι) (lane : LaneName) (task : ScriptedTask ι) : Bool × Running ι :=
  match w.state.dispatcher.submit? lane task with
  | some d => (true, (w.withDispatcher d).wakeLanes)
  | none => (false, w)

/-- The dispatcher is out of reach once the script has dropped it, but for a shutdown that is still
to come or has not drained it yet. -/
def isAlive (w : Running ι) : Bool :=
  w.state.held || decide (Errand.shutdown ∈ w.agenda.ready) ||
    (w.state.dispatcher.isShutdown && !w.state.dispatcher.isDrained)

/-- The next task of a lane goes on right behind the one before. -/
def finish (w : Running ι) (lane : LaneName) : Running ι :=
  let w := w.withDispatcher (w.state.dispatcher.finish lane)
  { w with agenda := w.agenda.pushFront (.work lane) }

def conclude (w : Running ι) (lane : LaneName) (task : ScriptedTask ι) : Running ι :=
  let act := task.act
  if act.breaksOff then (w.note lane .brokenOff act.id).finish lane
  else
    let w :=
      match task.next? with
      | some (target, next) =>
        if w.isAlive then
          let (accepted, w) := w.submit target next
          w.note lane (if accepted then .accepted else .refused) act.id
        else w
      | none => w
    (w.note lane .ended act.id).finish lane

def perform (e : Errand) (w : Running ι) : Running ι :=
  match e with
  | .work lane =>
    match w.state.dispatcher.start? lane with
    | some (task, d) =>
      let w := (w.withDispatcher d).note lane .started task.act.id
      { w with agenda := w.agenda.after task.act.sleepMs (.wake lane) }
    | none => w
  | .wake lane =>
    match (w.state.dispatcher.lane lane).running with
    | some task => w.conclude lane task
    | none => w
  | .arm ticket delay => { w with agenda := w.agenda.after delay (.expire ticket) }
  | .expire ticket =>
    if w.isAlive then (w.withDispatcher (w.state.dispatcher.expire ticket)).wakeLanes else w
  | .shutdown => w.withDispatcher w.state.dispatcher.shutdown

def dynamics : Dynamics (State ι) Errand := ⟨perform, fun _ _ => false⟩

end Running

inductive Command (ι : Type) where
  | submit (lane : LaneName) (task : ScriptedTask ι)
  | submitDelayed (lane : LaneName) (delay : Nat) (task : ScriptedTask ι)
  | wait (ms : Nat)
  | shutdown
  | shutdownInBackground
  | isShutdown
  | drop

inductive Reply where
  | nothing
  | flag (b : Bool)
  | gone
  deriving DecidableEq, Repr

namespace Command

open Running

def needsHandle : Command ι → Bool
  | .wait _ => false
  | _ => true

def carryOut (c : Command ι) (w : Running ι) : Reply × Running ι :=
  if c.needsHandle && !w.state.held then (.gone, w)
  else
    match c with
    | .submit lane task =>
      let (accepted, w) := w.submit lane task
      (.flag accepted, w)
    | .submitDelayed lane delay task =>
      match w.state.dispatcher.submitDelayed? lane task with
      | some (ticket, d) =>
        let w := w.withDispatcher d
        (.nothing, { w with agenda := w.agenda.push (.arm ticket delay) })
      | none => (.nothing, w)
    | .wait ms => (.nothing, dynamics.pass ms w)
    | .shutdown =>
      if w.state.dispatcher.isShutdown then (.nothing, w)
      else
        let w := w.withDispatcher w.state.dispatcher.shutdown
        (.nothing, dynamics.await (fun w => w.state.dispatcher.isDrained) w)
    | .shutdownInBackground => (.nothing, { w with agenda := w.agenda.push .shutdown })
    | .isShutdown => (.flag w.state.dispatcher.isShutdown, w)
    | .drop => (.nothing, { w with state := { w.state with held := false } })

end Command

structure Step (ι : Type) where
  command : Command ι
  settles : Bool

structure Account (ι : Type) where
  reply : Reply
  time : Nat
  entries : List (Entry ι)

def runFrom (w : Running ι) : List (Step ι) → List (Account ι)
  | [] => []
  | step :: rest =>
    let (reply, w) := step.command.carryOut w
    let w := if step.settles then Running.dynamics.settle w else w
    ⟨reply, w.agenda.now, w.state.entries⟩ ::
      runFrom { w with state := { w.state with entries := [] } } rest

def run (steps : List (Step ι)) : List (Account ι) := runFrom .start steps

end TrafficControl.Simulation.Tasks
