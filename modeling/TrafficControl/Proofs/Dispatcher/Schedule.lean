import TrafficControl.Dispatcher.Basic

namespace TrafficControl

inductive DispatchEvent (τ : Type u) where
  | submit (lane : LaneName) (task : τ)
  | submitDelayed (lane : LaneName) (task : τ)
  | expire (ticket : Nat)
  | start (lane : LaneName)
  | finish (lane : LaneName) (brokeOff : Bool)
  | shutdown
  | drained

@[simp]
def DispatchEvent.isShutdown : DispatchEvent τ → Bool
  | .shutdown => true
  | _ => false

inductive DispatchMark (τ : Type u) where
  | accepted (lane : LaneName) (task : τ)
  | started (lane : LaneName) (task : τ)
  | ended (lane : LaneName) (task : τ) (brokeOff : Bool)
  | tornDown
  | passed

namespace DispatchMark

variable {τ : Type u}

@[simp]
def accepted? (lane : LaneName) : DispatchMark τ → Option τ
  | .accepted l task => if l = lane then some task else none
  | _ => none

@[simp]
def started? (lane : LaneName) : DispatchMark τ → Option τ
  | .started l task => if l = lane then some task else none
  | _ => none

@[simp]
def ended? (lane : LaneName) : DispatchMark τ → Option τ
  | .ended l task _ => if l = lane then some task else none
  | _ => none

end DispatchMark

structure Dispatching (τ : Type u) where
  dispatcher : Dispatcher τ
  isAwaited : Bool

namespace Dispatching

variable {τ : Type u}

def start : Dispatching τ := ⟨.empty, false⟩

def arriving? (s : Dispatching τ) : DispatchEvent τ → Option (LaneName × τ)
  | .submit lane task => some (lane, task)
  | .expire ticket =>
    (s.dispatcher.delayed.find? fun w => w.ticket = ticket).map fun w => (w.lane, w.task)
  | _ => none

def turn (s : Dispatching τ) : DispatchEvent τ → Dispatching τ × List (DispatchMark τ)
  | .submit lane task =>
    match s.dispatcher.submit? lane task with
    | some d => ({ s with dispatcher := d }, [.accepted lane task])
    | none => (s, [])
  | .submitDelayed lane task =>
    match s.dispatcher.submitDelayed? lane task with
    | some (_, d) => ({ s with dispatcher := d }, [])
    | none => (s, [])
  | .expire ticket =>
    ({ s with dispatcher := s.dispatcher.expire ticket },
      match s.arriving? (.expire ticket) with
      | some (lane, task) =>
        if ((s.dispatcher.forget ticket).submit? lane task).isSome then [.accepted lane task] else []
      | none => [])
  | .start lane =>
    match s.dispatcher.start? lane with
    | some (task, d) => ({ s with dispatcher := d }, [.started lane task])
    | none => (s, [])
  | .finish lane brokeOff =>
    match (s.dispatcher.lane lane).running with
    | some task =>
      ({ s with dispatcher := s.dispatcher.finish lane }, [.ended lane task brokeOff])
    | none => (s, [])
  | .shutdown =>
    if s.dispatcher.isShutdown then (s, [.passed])
    else ({ dispatcher := s.dispatcher.shutdown, isAwaited := true }, [])
  | .drained =>
    if s.isAwaited && s.dispatcher.isDrained then ({ s with isAwaited := false }, [.tornDown])
    else (s, [])

end Dispatching

abbrev Schedule (τ : Type u) := Nat → DispatchEvent τ

namespace Schedule

variable {τ : Type u}

def state (σ : Schedule τ) : Nat → Dispatching τ
  | 0 => .start
  | n + 1 => ((σ.state n).turn (σ n)).1

def history (σ : Schedule τ) : Nat → List (DispatchMark τ)
  | 0 => []
  | n + 1 => σ.history n ++ ((σ.state n).turn (σ n)).2

def lane (σ : Schedule τ) (lane : LaneName) (n : Nat) : Lane τ := (σ.state n).dispatcher.lane lane

def accepted (σ : Schedule τ) (lane : LaneName) (n : Nat) : List τ :=
  (σ.history n).filterMap (DispatchMark.accepted? lane)

def started (σ : Schedule τ) (lane : LaneName) (n : Nat) : List τ :=
  (σ.history n).filterMap (DispatchMark.started? lane)

def ended (σ : Schedule τ) (lane : LaneName) (n : Nat) : List τ :=
  (σ.history n).filterMap (DispatchMark.ended? lane)

def isOpen (σ : Schedule τ) (n : Nat) : Bool := (List.range n).all fun m => !(σ m).isShutdown

/-- What the submissions to a lane, and the delays that ended, brought before the first shutdown. -/
def intake (σ : Schedule τ) (lane : LaneName) : Nat → List τ
  | 0 => []
  | n + 1 =>
    σ.intake lane n ++
      if σ.isOpen n then
        (((σ.state n).arriving? (σ n)).filter fun a => a.1 = lane).toList.map Prod.snd
      else []

/-- The lane gets its turn when it can take up a task, and every task on it comes to an end. -/
structure Fair (σ : Schedule τ) (lane : LaneName) : Prop where
  starts : ∀ n, ((σ.lane lane n).start?).isSome = true → ∃ m, n ≤ m ∧ σ m = .start lane
  ends : ∀ n, (σ.lane lane n).running.isSome = true → ∃ m, n ≤ m ∧ ∃ b, σ m = .finish lane b

end Schedule

namespace Dispatcher

variable {τ : Type u} {d : Dispatcher τ}

theorem lane_withLane (l : Lane τ) (name other : LaneName) :
    (d.withLane l name).lane other = if name = other then l else d.lane other := by
  cases name <;> cases other <;> rfl

theorem isShutdown_withLane (l : Lane τ) (name : LaneName) :
    (d.withLane l name).isShutdown = d.isShutdown := by
  cases name <;> rfl

theorem lane_forget (ticket : Nat) (name : LaneName) :
    (d.forget ticket).lane name = d.lane name := by
  cases name <;> rfl

theorem isDrained_iff : d.isDrained = true ↔
    ∀ name, (d.lane name).running = none ∧ (d.lane name).queue = [] := by
  unfold isDrained
  rw [Bool.and_eq_true, Lane.isIdle_iff, Lane.isIdle_iff]
  constructor
  · rintro ⟨registration, fetch⟩ name
    cases name
    · exact registration
    · exact fetch
  · intro each
    exact ⟨each .registration, each .fetch⟩

theorem submit?_eq (name : LaneName) (task : τ) :
    d.submit? name task =
      if d.isShutdown then none else some (d.withLane ((d.lane name).push task) name) := rfl

theorem start?_eq_some {name : LaneName} {task : τ} {after : Dispatcher τ}
    (taken : d.start? name = some (task, after)) :
    (d.lane name).running = none ∧
      ∃ rest, (d.lane name).queue = task :: rest ∧ after = d.withLane ⟨some task, rest⟩ name := by
  obtain ⟨⟨head, l⟩, started, same⟩ := Option.map_eq_some_iff.mp taken
  cases same
  obtain ⟨free, rest, queue, rfl⟩ := Lane.start?_eq_some_iff.mp started
  exact ⟨free, rest, queue, rfl⟩

theorem expire_eq (ticket : Nat) :
    d.expire ticket =
      match d.delayed.find? fun w => w.ticket = ticket with
      | some w =>
        if d.isShutdown then d.forget ticket
        else (d.forget ticket).withLane ((d.lane w.lane).push w.task) w.lane
      | none => d := by
  unfold expire
  cases found : d.delayed.find? fun w => w.ticket = ticket with
  | none => rfl
  | some w =>
    simp only [submit?_eq, lane_forget]
    show Option.getD (if d.isShutdown then none else _) _ = _
    split <;> rfl

end Dispatcher

end TrafficControl
