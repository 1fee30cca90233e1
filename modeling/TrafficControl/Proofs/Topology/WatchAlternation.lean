import TrafficControl.Proofs.Topology.Watching

namespace TrafficControl

open WatchLedger

theorem WatchLedger.Move.lossy {L M : WatchLedger} {marks : List (ServiceKey × WatchMark)}
    (move : Move L false marks M) : Move L true marks M := by
  cases move with
  | cancelReturned running => exact .cancelReturned running
  | _ => constructor <;> assumption

theorem WatchLedger.Moves.lossy {L M : WatchLedger} {lossy : Bool}
    {marks : List (ServiceKey × WatchMark)} (moves : Moves lossy L marks M) : Moves true L marks M := by
  cases lossy with
  | true => exact moves
  | false =>
    induction moves with
    | nil _ => exact .nil _
    | more move _ ih => exact .more move.lossy ih

namespace Topology

variable {t : Topology} {events : List Event}

def runMarks (t : Topology) : List Event → List (ServiceKey × WatchMark)
  | [] => []
  | e :: rest => t.marks e ++ (t.turn e).after.runMarks rest

theorem Numbered.moves (numbered : t.Numbered) (e : Event) :
    Moves (t.isShutdown || e.strands) t.ledger (t.marks e) (t.turn e).after.ledger :=
  (numbered.step e).moves numbered

theorem Numbered.run_moves (numbered : t.Numbered) :
    Moves true t.ledger (t.runMarks events) (t.run events).ledger := by
  induction events generalizing t with
  | nil => exact .nil _
  | cons e rest ih => exact (numbered.moves e).lossy.append (ih (numbered.turn e))

theorem Numbered.stays_live (numbered : t.Numbered) (live : t.isShutdown = false) {e : Event}
    (usual : e.isRoutine = true) : (t.turn e).after.isShutdown = false := by
  rcases (numbered.step e).isShutdown with same | ⟨_, unusual⟩
  · exact same.trans live
  · rw [usual] at unusual
    cases unusual

theorem Numbered.routine_moves (numbered : t.Numbered) (live : t.isShutdown = false)
    (routine : ∀ e ∈ events, e.isRoutine = true) :
    Moves false t.ledger (t.runMarks events) (t.run events).ledger := by
  induction events generalizing t with
  | nil => exact .nil _
  | cons e rest ih =>
    have first := numbered.moves e
    have usual := routine e List.mem_cons_self
    rw [live, Event.strands_of_isRoutine usual] at first
    have still := numbered.stays_live live usual
    exact first.append (ih (numbered.turn e) still fun e member => routine e (List.mem_cons_of_mem _ member))

theorem Numbered.runMarks_routine (numbered : t.Numbered) (live : t.isShutdown = false)
    (routine : ∀ e ∈ events, e.isRoutine = true) :
    t.runMarks events = watchMarks (t.happenings events) := by
  induction events generalizing t with
  | nil => rfl
  | cons e rest ih =>
    have usual := routine e List.mem_cons_self
    have still := numbered.stays_live live usual
    have kept : t.abandons? e = none := by
      cases e <;> simp [abandons?, live]
    rw [runMarks, marks, kept,
      ih (numbered.turn e) still fun e member => routine e (List.mem_cons_of_mem _ member)]
    simp [happenings, moments, Moment.happenings]

def watchHistory (t : Topology) (events : List Event) (service : ServiceKey) : List WatchMark :=
  marksOf service (watchMarks (t.happenings events))

theorem abandoned_not_mem_watchHistory (service : ServiceKey) :
    .abandoned ∉ t.watchHistory events service := by
  intro member
  simp only [watchHistory, marksOf, watchMarks, List.mem_filterMap] at member
  obtain ⟨⟨key, mark⟩, ⟨happening, _, told⟩, abandoned⟩ := member
  cases happening <;> simp only [Happening.mark?, reduceCtorEq, Option.some.injEq] at told
  all_goals
    cases told
    split at abandoned <;> cases abandoned

theorem ledger_empty (retry : RetryPolicy) (includeBroken : Bool) :
    (empty retry includeBroken).ledger = ⟨[], none, [], [], []⟩ := rfl

theorem underway_of_quiet (idle : t.dispatcher.registration.isIdle = true)
    (delayed : t.dispatcher.delayed = []) (openings : t.openings = []) : t.ledger.underway = [] := by
  obtain ⟨running, queue⟩ := Lane.isIdle_iff.mp idle
  simp [underway, ledger, running, queue, delayed, openings]

/-- While a topology is in use, the watch of a service is registered and cancelled in turn. As long
as it counts as registered, its registration for the current subscription is the last that befell
it; and when all work on watches is done, every service that has a subscription has its watch. -/
theorem watches_alternate (retry : RetryPolicy) (includeBroken : Bool) (service : ServiceKey)
    {events : List Event} (routine : ∀ e ∈ events, e.isRoutine = true) :
    let t := (empty retry includeBroken).run events
    let history := (empty retry includeBroken).watchHistory events service
    (∀ (i : Nat) (bound : i < history.length),
      if i % 2 = 0 then history[i].isRegistered = true else history[i] = .cancelled) ∧
    (∀ n s, t.current? service = some (n, s) → t.isRegistered service = true →
      history.getLast? = some (.registered n)) ∧
    (t.dispatcher.registration.isIdle = true → t.dispatcher.delayed = [] → t.openings = [] →
      ((∃ n, history.getLast? = some (.registered n)) ↔ (t.current? service).isSome = true)) := by
  intro t history
  have numbered := Numbered.empty retry includeBroken
  have moves := numbered.routine_moves rfl routine
  rw [numbered.runMarks_routine rfl routine, ledger_empty] at moves
  have replayed : WatchMark.replay false history = some (t.ledger.isOutstanding service) :=
    moves.replay consistent_empty service
  refine ⟨?_, ?_, ?_⟩
  · intro i bound
    simpa using WatchMark.alternates_of_replay replayed (abandoned_not_mem_watchHistory service) i bound
  · intro n s found registered
    rw [← isRegistered_ledger] at registered
    rcases moves.latest consistent_empty (holds found) registered with ⟨impossible, _⟩ | last
    · simp [holder?] at impossible
    · exact last
  · intro idle delayed openings
    have complete := moves.complete consistent_empty complete_empty
    have queue : t.ledger.queue = [] := (Lane.isIdle_iff.mp idle).2
    rw [WatchMark.getLast?_of_replay replayed, isOutstanding, queue]
    simp only [List.not_mem_nil, decide_false, Bool.or_false]
    constructor
    · intro registered
      cases found : t.current? service with
      | some pair => rfl
      | none =>
        rw [isRegistered_of_absent (by simp [holder?_ledger, found])] at registered
        cases registered
    · intro present
      obtain ⟨⟨n, s⟩, found⟩ := Option.isSome_iff_exists.mp present
      cases registered : t.ledger.isRegistered service with
      | true => rfl
      | false =>
        have underway := complete service n (holds found) registered
        rw [underway_of_quiet idle delayed openings] at underway
        cases underway

def relistening (service : ServiceKey) : List Event :=
  [.subscribe service, .firstFetchReturned 0 (some []), .start .registration, .registerReturned true,
    .unsubscribe service 0, .subscribe service, .firstFetchReturned 1 none, .start .registration,
    .cancelReturned, .start .registration, .registerReturned true]

theorem watches_alternate_relistening :
    let service : ServiceKey := ⟨"default", "pay"⟩
    let start := empty ⟨1, 1⟩ false
    (∀ e ∈ relistening service, e.isRoutine = true) ∧
      start.watchHistory (relistening service) service = [.registered 0, .cancelled, .registered 1] ∧
      (start.run (relistening service)).isRegistered service = true ∧
      (start.watchHistory (relistening service) service).getLast? = some (.registered 1) := by
  have routine : ∀ e ∈ relistening ⟨"default", "pay"⟩, e.isRoutine = true := by decide
  obtain ⟨_, last, _⟩ := watches_alternate ⟨1, 1⟩ false ⟨"default", "pay"⟩ routine
  refine ⟨routine, by decide, by decide, ?_⟩
  exact last 1 ⟨⟨"default", "pay"⟩, true, [1], none, true, true⟩ rfl (by decide)

end Topology

end TrafficControl
