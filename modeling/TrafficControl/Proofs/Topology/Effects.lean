import TrafficControl.Proofs.Topology.Step

namespace TrafficControl

namespace Topology

variable {t : Topology} {n : Nat} {s : Subscription}

theorem finish_eq (name : LaneName) :
    t.finish name = t.occupy name none (t.dispatcher.lane name).queue := by
  cases name <;> rfl

theorem submitJob_eq (job : Job) :
    t.submitJob job = t.occupy .registration t.dispatcher.registration.running
      (t.dispatcher.registration.queue ++ t.accepted job) := by
  unfold submitJob Dispatcher.submit? accepted isShutdown
  cases t.dispatcher.isShutdown <;> simp [occupy, Dispatcher.withLane, Dispatcher.lane, Lane.push]

def postpone (t : Topology) (n : Nat) (attempt : UInt32) : Topology :=
  { t with
    dispatcher :=
      { t.dispatcher with
        registration := t.dispatcher.registration.finish
        delayed :=
          t.dispatcher.delayed ++ [⟨t.dispatcher.nextTicket, .registration, .watch n attempt⟩]
        nextTicket := t.dispatcher.nextTicket + 1 } }

theorem retryWatch_eq (live : t.isShutdown = false) (attempt : UInt32) :
    t.retryWatch n attempt =
      ⟨(), t.postpone n (attempt + 1),
        [.retrying t.dispatcher.nextTicket n (attempt + 1) (t.retry.delay attempt.toNat)]⟩ := by
  have live : ¬t.dispatcher.isShutdown = true := by simpa [isShutdown] using live
  simp only [retryWatch, Dispatcher.submitDelayed?, if_neg live]
  rfl

def enqueueFetch (t : Topology) (n : Nat) : Topology :=
  (t.occupy .fetch t.dispatcher.fetch.running (t.dispatcher.fetch.queue ++ [.fetch n])).modify n
    fun s => { s with fetchPending := true }

theorem scheduleFetch_eq (known : t.subscriptions[n]? = some s) :
    t.scheduleFetch n = if s.fetchPending || t.isShutdown then t else t.enqueueFetch n := by
  simp only [scheduleFetch, known, Dispatcher.submit?, isShutdown, Bool.or_eq_true]
  cases s.fetchPending with
  | true => simp
  | false =>
    cases t.dispatcher.isShutdown with
    | true => simp
    | false => simp [enqueueFetch, occupy, Dispatcher.withLane, Dispatcher.lane, Lane.push]

theorem scheduleFetch_cases (n : Nat) :
    t.scheduleFetch n = t ∨ t.scheduleFetch n = t.enqueueFetch n := by
  cases known : t.subscriptions[n]? with
  | none =>
    left
    simp [scheduleFetch, known]
  | some s =>
    rw [scheduleFetch_eq known]
    split
    · exact .inl rfl
    · exact .inr rfl

theorem submitJob_ending (job : Job) :
    (t.submitJob job).destruction = t.destruction ∧ (t.submitJob job).closings = t.closings := by
  rw [submitJob_eq]
  exact ⟨rfl, rfl⟩

theorem scheduleFetch_ending :
    (t.scheduleFetch n).destruction = t.destruction ∧ (t.scheduleFetch n).closings = t.closings := by
  rcases scheduleFetch_cases (t := t) n with same | queued
  · simp [same]
  · rw [queued]
    exact ⟨rfl, rfl⟩

theorem modify_getElem? (n m : Nat) (f : Subscription → Subscription) :
    (t.modify n f).subscriptions[m]? = t.subscriptions[m]?.map fun s => if n = m then f s else s := by
  simp only [modify, List.getElem?_modify]
  by_cases same : n = m <;> simp [same]

theorem continueClosing_cases (number : Nat) (order : List ServiceKey) :
    (∃ service left, (t.closeNext order).2 = some (service, left) ∧
      t.continueClosing number order =
        ⟨(), { (t.closeNext order).1 with
            closings := (t.closeNext order).1.closings ++ [⟨number, left⟩] },
          [.cancelling (.closer number) service]⟩) ∨
    ((t.closeNext order).2 = none ∧
      t.continueClosing number order = ((t.closeNext order).1.endClosing number).quietly ()) := by
  unfold continueClosing
  rcases t.closeNext order with ⟨u, _ | ⟨service, left⟩⟩
  · exact .inr ⟨rfl, rfl⟩
  · exact .inl ⟨service, left, rfl, rfl⟩

theorem closeNext_keeps (Kept : Topology → Prop)
    (remove : ∀ (t : Topology) (service : ServiceKey) (n : Nat) (s : Subscription),
      t.current? service = some (n, s) → Kept t → Kept (t.remove n).2)
    (order : List ServiceKey) (start : Kept t) : Kept (t.closeNext order).1 := by
  induction order generalizing t with
  | nil => exact start
  | cons service left ih =>
    cases found : t.current? service with
    | none =>
      simp only [closeNext, found]
      exact ih start
    | some pair =>
      obtain ⟨n, s⟩ := pair
      have kept := remove t service n s found start
      simp only [closeNext, found]
      split
      · next u removed =>
        rw [removed] at kept
        exact kept
      · next u removed =>
        rw [removed] at kept
        exact ih kept

theorem closeNext_frame (order : List ServiceKey) :
    (t.closeNext order).1 = { t with subscriptions := (t.closeNext order).1.subscriptions } := by
  apply closeNext_keeps (fun u => u = { t with subscriptions := u.subscriptions }) _ order rfl
  intro u service n s _ same
  rw [same]
  rfl

theorem length_closeNext (order : List ServiceKey) :
    (t.closeNext order).1.subscriptions.length = t.subscriptions.length := by
  apply closeNext_keeps (fun u => u.subscriptions.length = t.subscriptions.length) _ order rfl
  intro u service n s _ same
  simpa [remove, modify] using same

section Shutdown

@[simp]
theorem scheduleFetch_isShutdown : (t.scheduleFetch n).isShutdown = t.isShutdown := by
  rcases scheduleFetch_cases (t := t) n with same | queued
  · rw [same]
  · rw [queued]
    rfl

@[simp]
theorem submitJob_isShutdown (job : Job) : (t.submitJob job).isShutdown = t.isShutdown := by
  rw [submitJob_eq]
  rfl

@[simp]
theorem continueClosing_isShutdown (number : Nat) (order : List ServiceKey) :
    (t.continueClosing number order).after.isShutdown = t.isShutdown := by
  have frame : (t.closeNext order).1.isShutdown = t.isShutdown := by
    rw [closeNext_frame]
    rfl
  rcases continueClosing_cases (t := t) number order with ⟨service, left, _, waits⟩ | ⟨_, ends⟩
  · rw [waits]
    exact frame
  · rw [ends]
    simp only [quietly, endClosing]
    split <;> exact frame

theorem Step.isShutdown {e : Event} {turn : Turn Unit} (step : Step t e turn) :
    turn.after.isShutdown = t.isShutdown ∨ (turn.after.isShutdown = true ∧ e.isRoutine = false) := by
  cases step with
  | shut | destroyed _ => exact .inr ⟨rfl, rfl⟩
  | cancelled _ _ _ _ => exact .inl (submitJob_isShutdown _)
  | refreshed _ => exact .inl scheduleFetch_isShutdown
  | watchRegistered _ _ _ => exact .inl scheduleFetch_isShutdown
  | watchRetried _ live =>
    rw [retryWatch_eq live]
    exact .inl rfl
  | openingPublished _ _ _ => exact .inl (submitJob_isShutdown _)
  | openingFruitless _ _ _ => exact .inl (submitJob_isShutdown _)
  | retried _ _ => exact .inl (submitJob_isShutdown _)
  | closed _ => exact .inl (continueClosing_isShutdown _ _)
  | closedOn _ => exact .inl (continueClosing_isShutdown _ _)
  | drained _ _ => exact .inl (continueClosing_isShutdown _ _)
  | _ => exact .inl rfl

end Shutdown

end Topology

end TrafficControl
