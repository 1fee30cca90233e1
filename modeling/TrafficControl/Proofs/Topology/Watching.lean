import TrafficControl.Proofs.Topology.Numbered
import TrafficControl.Proofs.Topology.WatchLedger.Balance

namespace TrafficControl

open WatchLedger

def Subscription.standing (s : Subscription) : Standing := ⟨s.service, s.isCurrent, s.registered⟩

def Happening.mark? : Happening → Option (ServiceKey × WatchMark)
  | .registered n service => some (service, .registered n)
  | .cancelling _ service => some (service, .cancelled)
  | _ => none

def watchMarks (happenings : List Happening) : List (ServiceKey × WatchMark) :=
  happenings.filterMap Happening.mark?

@[simp]
theorem watchMarks_nil : watchMarks [] = [] := rfl

@[simp]
theorem watchMarks_append (first second : List Happening) :
    watchMarks (first ++ second) = watchMarks first ++ watchMarks second := by
  simp [watchMarks]

theorem watchMarks_delivered (listeners : List Nat) (service : ServiceKey) (instances : Instances) :
    watchMarks (listeners.map fun l => .delivered l service instances) = [] := by
  simp [watchMarks, List.filterMap_map, Function.comp_def, Happening.mark?]

theorem split_of_mem {key : α → Nat} {list : List α} {a : α} (distinct : (list.map key).Nodup)
    (member : a ∈ list) :
    ∃ before after, list = before ++ a :: after ∧
      (list.filter fun b => key b ≠ key a) = before ++ after := by
  obtain ⟨before, after, rfl⟩ := List.append_of_mem member
  refine ⟨before, after, rfl, ?_⟩
  simp only [List.map_append, List.map_cons, List.nodup_append, List.nodup_cons, List.mem_map,
    not_exists, not_and, List.mem_cons, forall_exists_index, and_imp, forall_apply_eq_imp_iff₂,
    ne_eq, forall_eq_or_imp] at distinct
  obtain ⟨_, ⟨after_ne, _⟩, before_ne⟩ := distinct
  rw [List.filter_append, List.filter_cons]
  have first : (before.filter fun b => key b ≠ key a) = before :=
    List.filter_eq_self.mpr fun b member => by simpa using (before_ne b member).1
  have second : (after.filter fun b => key b ≠ key a) = after :=
    List.filter_eq_self.mpr fun b member => by simpa using after_ne b member
  rw [first, second]
  simp

namespace Event

def strands : Event → Bool
  | .firstFetchBrokeOff _ => true
  | _ => false

theorem strands_of_isRoutine {e : Event} (usual : e.isRoutine = true) : e.strands = false := by
  cases e with
  | firstFetchBrokeOff _ => cases usual
  | _ => rfl

end Event

namespace Topology

def ledger (t : Topology) : WatchLedger where
  standings := t.subscriptions.map Subscription.standing
  running := t.dispatcher.registration.running
  queue := t.dispatcher.registration.queue
  waiting := t.dispatcher.delayed.map Delayed.task
  opening := t.openings.map Opening.subscription

variable {t : Topology} {n : Nat} {s : Subscription} {service : ServiceKey}

theorem ledger_standing (known : t.subscriptions[n]? = some s) :
    t.ledger.standings[n]? = some s.standing := by
  simp [ledger, known]

theorem holder?_ledger : t.ledger.holder? service = (t.current? service).map Prod.fst := by
  have searched : t.ledger.holder? service =
      t.subscriptions.findIdx? fun s => s.isCurrent && decide (s.service = service) := by
    rw [holder?, ledger, List.findIdx?_map]
    rfl
  rw [searched, current?]
  cases index : t.subscriptions.findIdx? fun s => s.isCurrent && decide (s.service = service) with
  | none => rfl
  | some i =>
    obtain ⟨bound, _⟩ := List.findIdx?_eq_some_iff_getElem.mp index
    simp [bound]

theorem holds (found : t.current? service = some (n, s)) : t.ledger.holder? service = some n := by
  rw [holder?_ledger, found]
  rfl

theorem isRegistered_ledger : t.ledger.isRegistered service = t.isRegistered service := by
  unfold WatchLedger.isRegistered Topology.isRegistered
  cases found : t.current? service with
  | none => simp [holder?_ledger, found]
  | some pair =>
    obtain ⟨n, s⟩ := pair
    have known := ledger_standing (subscription_of_current? found).1
    simp [holds found, known, Subscription.standing]

theorem isRegistered_of_current (found : t.current? service = some (n, s)) :
    t.ledger.isRegistered service = s.registered := by
  simp [isRegistered_ledger, Topology.isRegistered, found]

theorem current?_of_current (ledger : t.ledger.Consistent) (known : t.subscriptions[n]? = some s)
    (current : s.isCurrent = true) : t.current? s.service = some (n, s) := by
  have held := ledger.holds_of_current (ledger_standing known) current
  rw [holder?_ledger] at held
  obtain ⟨⟨m, r⟩, found, rfl⟩ := Option.map_eq_some_iff.mp held
  have also := (subscription_of_current? found).1
  rw [known] at also
  cases also
  exact found

theorem ledger_modify {f : Subscription → Subscription} (same : ∀ s, (f s).standing = s.standing) :
    (t.modify n f).ledger = t.ledger := by
  have standings : (t.subscriptions.modify n f).map Subscription.standing =
      t.subscriptions.map Subscription.standing := by
    apply List.ext_getElem?
    intro m
    simp only [List.getElem?_map, List.getElem?_modify]
    cases t.subscriptions[m]? with
    | none => rfl
    | some s =>
      by_cases at_n : n = m
      · simp [at_n, same]
      · simp [at_n]
  simp [ledger, modify, standings]

theorem ledger_modify_map {f : Subscription → Subscription} {g : Standing → Standing}
    (same : ∀ s, (f s).standing = g s.standing) :
    (t.modify n f).ledger = { t.ledger with standings := t.ledger.standings.modify n g } := by
  have standings : (t.subscriptions.modify n f).map Subscription.standing =
      (t.subscriptions.map Subscription.standing).modify n g := by
    apply List.ext_getElem?
    intro m
    simp only [List.getElem?_map, List.getElem?_modify]
    cases t.subscriptions[m]? with
    | none => rfl
    | some s =>
      by_cases at_n : n = m
      · simp [at_n, same]
      · simp [at_n]
  simp [ledger, modify, standings]

theorem ledger_remove : (t.remove n).2.ledger = t.ledger.drop n :=
  ledger_modify_map fun _ => rfl

theorem ledger_markRegistered : (t.markRegistered n).ledger = t.ledger.register n :=
  ledger_modify_map fun _ => rfl

theorem ledger_dismiss (listener : Nat) : (t.dismiss n listener).ledger = t.ledger :=
  ledger_modify fun _ => rfl

theorem ledger_keep (instances : Instances) : (t.keep n instances).ledger = t.ledger :=
  ledger_modify fun _ => rfl

theorem ledger_clearPending : (t.clearPending n).ledger = t.ledger := ledger_modify fun _ => rfl

theorem ledger_scheduleFetch : (t.scheduleFetch n).ledger = t.ledger := by
  rcases scheduleFetch_cases (t := t) n with same | queued
  · rw [same]
  · rw [queued]
    exact ledger_modify fun _ => rfl

theorem ledger_submitJob (job : Job) :
    (t.submitJob job).ledger = { t.ledger with queue := t.ledger.queue ++ t.accepted job } := by
  rw [submitJob_eq]
  rfl

theorem ledger_finish : (t.finish .registration).ledger = { t.ledger with running := none } := rfl

theorem ledger_finish_fetch : (t.finish .fetch).ledger = t.ledger := rfl

theorem ledger_skip {rest : List Job} (free : t.dispatcher.registration.running = none) :
    (t.occupy .registration none rest).ledger = { t.ledger with queue := rest } := by
  have free : t.ledger.running = none := free
  simp only [← free]
  rfl

theorem ledger_postpone (attempt : UInt32) :
    (t.postpone n attempt).ledger =
      { t.ledger with running := none, waiting := t.ledger.waiting ++ [.watch n attempt] } := by
  simp [ledger, postpone, Lane.finish]

theorem Numbered.ledger_settle (numbered : t.Numbered) {o : Opening} (waiting : o ∈ t.openings) :
    ∃ before after, t.ledger.opening = before ++ o.subscription :: after ∧
      (t.settle o.listener).ledger = { t.ledger with opening := before ++ after } := by
  obtain ⟨before, after, split, rest⟩ := split_of_mem numbered.openers waiting
  refine ⟨before.map Opening.subscription, after.map Opening.subscription, ?_, ?_⟩
  · simp [ledger, split]
  · simp only [ledger, Topology.settle, rest, List.map_append]

theorem Numbered.ledger_forget (numbered : t.Numbered) {w : Delayed Job} {attempt : UInt32}
    (waiting : w ∈ t.dispatcher.delayed) (task : w.task = .watch n attempt) :
    ∃ before after, t.ledger.waiting = before ++ .watch n attempt :: after ∧
      (t.forget w.ticket).ledger = { t.ledger with waiting := before ++ after } := by
  obtain ⟨before, after, split, rest⟩ := split_of_mem numbered.tickets waiting
  refine ⟨before.map Delayed.task, after.map Delayed.task, ?_, ?_⟩
  · simp [ledger, split, task]
  · simp only [ledger, Topology.forget, Dispatcher.forget, rest, List.map_append]

theorem Numbered.settled_moves (numbered : t.Numbered) {u : Topology} {o : Opening} {lossy : Bool}
    (waiting : o ∈ t.openings) (same : u.ledger = (t.settle o.listener).ledger)
    (status : u.isShutdown = t.isShutdown) (lost : t.isShutdown = true → lossy = true) :
    Moves lossy t.ledger [] (u.submitJob (.watch o.subscription 0)).ledger := by
  obtain ⟨before, after, waits, settled⟩ := numbered.ledger_settle waiting
  rw [ledger_submitJob, same, settled, accepted, status]
  cases shut : t.isShutdown with
  | true =>
    rw [lost shut]
    simpa using Moves.one (.settledLost waits)
  | false => exact .one (.settled waits)

theorem Numbered.resumed_moves (numbered : t.Numbered) {w : Delayed Job} {attempt : UInt32}
    {lossy : Bool} (waiting : w ∈ t.dispatcher.delayed) (task : w.task = .watch n attempt)
    (lost : t.isShutdown = true → lossy = true) :
    Moves lossy t.ledger [] ((t.forget w.ticket).submitJob (.watch n attempt)).ledger := by
  obtain ⟨before, after, waits, forgotten⟩ := numbered.ledger_forget waiting task
  rw [ledger_submitJob, forgotten, accepted, show (t.forget w.ticket).isShutdown = t.isShutdown from rfl]
  cases shut : t.isShutdown with
  | true =>
    rw [lost shut]
    simpa using Moves.one (.resumedLost waits)
  | false => exact .one (.resumed waits)

theorem closeNext_moves {lossy : Bool} (order : List ServiceKey) :
    Moves lossy t.ledger ((t.closeNext order).2.map fun (service, _) => (service, .cancelled)).toList
      (t.closeNext order).1.ledger := by
  induction order generalizing t with
  | nil => exact .nil _
  | cons service left ih =>
    cases found : t.current? service with
    | none =>
      simp only [closeNext, found]
      exact ih
    | some pair =>
      obtain ⟨n, s⟩ := pair
      obtain ⟨known, _, _⟩ := subscription_of_current? found
      have flag : (t.remove n).1 = s.registered := by simp [remove, known]
      have dropped := ledger_remove (t := t) (n := n)
      simp only [closeNext, found]
      split
      · next u removed =>
        rw [removed] at flag dropped
        have registered := (isRegistered_of_current found).trans flag.symm
        rw [dropped]
        exact .one (.cancelledAtOnce (holds found) registered)
      · next u removed =>
        rw [removed] at flag dropped
        have unregistered := (isRegistered_of_current found).trans flag.symm
        have first : Move t.ledger lossy [] u.ledger := by
          rw [dropped]
          exact .dropped (holds found) unregistered
        exact .more first ih

theorem continueClosing_moves {lossy : Bool} (number : Nat) (order : List ServiceKey) :
    Moves lossy t.ledger (watchMarks (t.continueClosing number order).happenings)
      (t.continueClosing number order).after.ledger := by
  have closed : Moves lossy t.ledger _ (t.closeNext order).1.ledger := closeNext_moves order
  rcases continueClosing_cases (t := t) number order with ⟨service, left, next, waits⟩ | ⟨next, ends⟩
  · rw [next] at closed
    rw [waits]
    exact closed
  · rw [next] at closed
    rw [ends]
    simp only [quietly, endClosing]
    split <;> exact closed

/-- The service whose watch nobody will cancel: its last listener leaves, but the lane that cancels
watches takes no task any more. -/
def abandons? (t : Topology) : Event → Option ServiceKey
  | .unsubscribe service listener =>
    if t.isShutdown && t.isRegistered service &&
        (t.current? service).any (fun (_, s) => s.listeners.contains listener &&
          (s.listeners.filter (· ≠ listener)).isEmpty) then some service
    else none
  | _ => none

def marks (t : Topology) (e : Event) : List (ServiceKey × WatchMark) :=
  watchMarks (t.turn e).happenings ++ ((t.abandons? e).map fun service => (service, .abandoned)).toList

theorem isRegistered_eq (found : t.current? service = some (n, s)) :
    t.isRegistered service = s.registered := by
  simp [Topology.isRegistered, found]

theorem abandons?_last {listener : Nat} (found : t.current? service = some (n, s))
    (member : listener ∈ s.listeners) (alone : s.listeners.filter (· ≠ listener) = []) :
    t.abandons? (.unsubscribe service listener) =
      if t.isShutdown && s.registered then some service else none := by
  have alone : (s.listeners.filter (· ≠ listener)).isEmpty = true := by simpa using alone
  simp only [abandons?, isRegistered_eq found, found, Option.any_some, alone, Bool.and_true,
    List.contains_eq_mem, decide_eq_true member]

theorem abandons?_of_others {listener : Nat} (found : t.current? service = some (n, s))
    (others : s.listeners.filter (· ≠ listener) ≠ []) :
    t.abandons? (.unsubscribe service listener) = none := by
  have others : (s.listeners.filter (· ≠ listener)).isEmpty = false := by simpa using others
  simp only [abandons?, found, Option.any_some, others, Bool.and_false]
  rfl

theorem abandons?_of_ignored {e : Event} (ignores : t.Ignores e) : t.abandons? e = none := by
  cases e with
  | unsubscribe service listener =>
    cases found : t.current? service with
    | none => simp [abandons?, found]
    | some pair =>
      obtain ⟨n, s⟩ := pair
      simp [abandons?, found, ignores n s found]
  | _ => rfl

theorem Moves.still {lossy : Bool} {u : Topology} {happenings : List Happening}
    (same : u.ledger = t.ledger) (nothing : watchMarks happenings = []) :
    Moves lossy t.ledger (watchMarks happenings ++ []) u.ledger := by
  rw [same, nothing]
  exact .nil _

theorem Moves.closing {lossy : Bool} {u : Topology} (same : u.ledger = t.ledger) (number : Nat)
    (order : List ServiceKey) :
    Moves lossy t.ledger (watchMarks (u.continueClosing number order).happenings ++ [])
      (u.continueClosing number order).after.ledger := by
  rw [List.append_nil, ← same]
  exact continueClosing_moves number order

theorem Step.moves {e : Event} {turn : Turn Unit} (step : Step t e turn) (numbered : t.Numbered) :
    Moves (t.isShutdown || e.strands) t.ledger
      (watchMarks turn.happenings ++
        ((t.abandons? e).map fun service => (service, WatchMark.abandoned)).toList)
      turn.after.ledger := by
  cases step with
  | ignored ignores =>
    rw [abandons?_of_ignored ignores]
    exact .nil _
  | @joined service n s _ _ =>
    refine Moves.still (ledger_modify fun _ => rfl) ?_
    simp only [Turn.forget, join]
    cases s.snapshot? <;> rfl
  | @opened service _ absent =>
    have opened : (t.openFor service).after.ledger =
        { t.ledger with
          standings := t.ledger.standings ++ [⟨service, true, false⟩]
          opening := t.ledger.opening ++ [t.ledger.standings.length] } := by
      simp [ledger, openFor, Subscription.standing, Subscription.opened]
    rw [show (t.openFor service).forget.after = (t.openFor service).after from rfl, opened]
    exact .one (.opened (by simp [holder?_ledger, absent]))
  | left found _ others =>
    rw [abandons?_of_others found others]
    exact Moves.still (ledger_dismiss _) rfl
  | @removed service listener n s found member alone unregistered =>
    rw [abandons?_last found member alone, unregistered, Bool.and_false]
    have gone : ((t.dismiss n listener).remove n).2.ledger = t.ledger.drop n := by
      rw [ledger_remove, ledger_dismiss]
    rw [show (((t.dismiss n listener).remove n).2.quietly ()).after.ledger = _ from gone]
    exact .one (.dropped (holds found) ((isRegistered_of_current found).trans unregistered))
  | @cancelled service listener n s found member alone registered =>
    rw [abandons?_last found member alone, registered, Bool.and_true]
    have gone : (((t.dismiss n listener).remove n).2.submitJob (.cancel service)).ledger =
        { t.ledger.drop n with queue := t.ledger.queue ++ t.accepted (.cancel service) } := by
      rw [ledger_submitJob, ledger_remove, ledger_dismiss]
      rfl
    simp only [quietly]
    rw [gone]
    have held := (isRegistered_of_current found).trans registered
    cases shut : t.isShutdown with
    | true =>
      simp only [accepted, shut, if_true, List.append_nil]
      exact .one (.abandoned (holds found) held)
    | false =>
      simp only [accepted, shut]
      exact .one (.cancelQueued (holds found) held)
  | refreshed _ => exact Moves.still ledger_scheduleFetch rfl
  | watchStarted free head known current =>
    exact .one (.started free head (ledger_standing known) current)
  | watchSkipped free head known removed =>
    simp only [quietly, ledger_skip free]
    exact .one (.skipped free head (ledger_standing known) removed)
  | cancelStarted free head => exact .one (.cancelStarted free head)
  | fetchStarted _ _ _ _ => exact Moves.still ledger_clearPending rfl
  | fetchSkipped _ _ _ _ => exact Moves.still ledger_clearPending rfl
  | @watchRegistered n _ s running known current =>
    have same : (((t.markRegistered n).scheduleFetch n).finish .registration).ledger =
        { t.ledger.register n with running := none } := by
      rw [ledger_finish, ledger_scheduleFetch, ledger_markRegistered]
    simp only
    rw [same]
    exact .one (.registered running (ledger_standing known) current)
  | watchOutlived running known removed =>
    exact .one (.outlived running (ledger_standing known) removed)
  | watchRetried running live =>
    rw [retryWatch_eq live]
    simp only [ledger_postpone]
    exact .one (.postponed running)
  | watchGivenUp running shut =>
    rw [shut]
    exact .one (.givenUp running)
  | cancelReturned running => exact .one (.cancelReturned running)
  | fetchPublished _ _ _ =>
    exact Moves.still (ledger_finish_fetch.trans (ledger_keep _)) (watchMarks_delivered _ _ _)
  | fetchFruitless _ _ _ => exact Moves.still ledger_finish_fetch rfl
  | fetchBrokeOff _ => exact Moves.still ledger_finish_fetch rfl
  | @openingPublished o s instances waiting known _ =>
    rw [watchMarks_delivered]
    exact numbered.settled_moves waiting (ledger_keep instances) rfl (by simp +contextual)
  | openingFruitless waiting known _ =>
    exact numbered.settled_moves waiting rfl rfl (by simp +contextual)
  | openingBrokeOff waiting =>
    obtain ⟨before, after, waits, same⟩ := numbered.ledger_settle waiting
    simp only [quietly]
    rw [same]
    simpa [Event.strands, abandons?] using Moves.one (.settledLost waits)
  | @retried w n attempt waiting task => exact numbered.resumed_moves waiting task (by simp +contextual)
  | closed order => exact Moves.closing (u := { t with nextClosing := t.nextClosing + 1 }) rfl _ order
  | @closedOn c _ =>
    exact Moves.closing (u := { t with closings := t.closings.filter fun d => d.number ≠ c.number })
      rfl _ _
  | shut => exact Moves.still rfl rfl
  | destroyed _ => exact Moves.still rfl rfl
  | drained _ _ =>
    exact Moves.closing
      (u := { t with destruction := .closing t.nextClosing, nextClosing := t.nextClosing + 1 }) rfl _ _

end Topology

end TrafficControl
