import Mathlib.Data.List.Nodup
import TrafficControl.Proofs.Topology.Numbered

namespace TrafficControl

structure Feed where
  service : ServiceKey
  isCurrent : Bool
  listeners : List Nat
  snapshot? : Option Instances

def Subscription.feed (s : Subscription) : Feed := ⟨s.service, s.isCurrent, s.listeners, s.snapshot?⟩

namespace Event

def closes : Event → Bool
  | .close _ | .closeReturned _ | .drained _ => true
  | _ => false

end Event

def Happening.heard? (listener : Nat) : Happening → Option Instances
  | .delivered l _ instances => if l = listener then some instances else none
  | _ => none

def heard (listener : Nat) (happenings : List Happening) : List Instances :=
  happenings.filterMap (Happening.heard? listener)

@[simp]
theorem heard_nil (listener : Nat) : heard listener [] = [] := rfl

@[simp]
theorem heard_append (listener : Nat) (first second : List Happening) :
    heard listener (first ++ second) = heard listener first ++ heard listener second := by
  simp [heard]

theorem mem_heard {listener : Nat} {service : ServiceKey} {instances : Instances}
    {happenings : List Happening} (delivered : .delivered listener service instances ∈ happenings) :
    instances ∈ heard listener happenings :=
  List.mem_filterMap.mpr ⟨_, delivered, by simp [Happening.heard?]⟩

namespace Topology

def feed? (t : Topology) (n : Nat) : Option Feed := t.subscriptions[n]?.map Subscription.feed

def brought? (t : Topology) : Event → Option (Nat × Instances)
  | .fetchReturned (some instances) =>
    match t.dispatcher.fetch.running with
    | some (.fetch n) => some (n, instances)
    | _ => none
  | .firstFetchReturned listener (some instances) =>
    (t.openings.find? fun o => o.listener = listener).map fun o => (o.subscription, instances)
  | _ => none

/-- What a step publishes for a subscription: what was brought for it, as long as it is current. -/
def published? (t : Topology) (e : Event) (n : Nat) : Option Instances :=
  (t.brought? e).bind fun (m, instances) => if m = n ∧ t.isCurrent n = true then some instances else none

inductive Change (t : Topology) : Event → Turn Unit → Prop where
  | still {e : Event} {turn : Turn Unit} (feeds : turn.after.feed? = t.feed?)
      (next : turn.after.nextListener = t.nextListener)
      (silent : ∀ listener, heard listener turn.happenings = [])
      (fruitless : ∀ n, t.published? e n = none)
      (stays : ∀ service listener, e = .unsubscribe service listener → t.Ignores e) : Change t e turn
  | joined {service : ServiceKey} {n : Nat} {s : Subscription}
      (found : t.current? service = some (n, s)) : Change t (.subscribe service) (t.join n s).forget
  | opened {service : ServiceKey} (absent : t.current? service = none) :
      Change t (.subscribe service) (t.openFor service).forget
  | left {service : ServiceKey} {listener n : Nat} {s : Subscription} {turn : Turn Unit}
      (found : t.current? service = some (n, s)) (member : listener ∈ s.listeners)
      (feeds : turn.after.feed? = (t.dismiss n listener).feed?)
      (others : s.listeners.filter (· ≠ listener) ≠ [])
      (next : turn.after.nextListener = t.nextListener) (silent : turn.happenings = []) :
      Change t (.unsubscribe service listener) turn
  | removed {service : ServiceKey} {listener n : Nat} {s : Subscription} {turn : Turn Unit}
      (found : t.current? service = some (n, s)) (member : listener ∈ s.listeners)
      (feeds : turn.after.feed? = ((t.dismiss n listener).remove n).2.feed?)
      (next : turn.after.nextListener = t.nextListener) (silent : turn.happenings = []) :
      Change t (.unsubscribe service listener) turn
  | published {e : Event} {n : Nat} {s : Subscription} {instances : Instances} {turn : Turn Unit}
      (known : t.subscriptions[n]? = some s) (current : s.isCurrent = true)
      (brought : t.brought? e = some (n, instances))
      (feeds : turn.after.feed? = (t.keep n instances).feed?)
      (next : turn.after.nextListener = t.nextListener)
      (told : turn.happenings = s.listeners.map fun l => .delivered l s.service instances) :
      Change t e turn
  | closed {e : Event} {turn : Turn Unit}
      (feeds : ∀ m, turn.after.feed? m = t.feed? m ∨
        turn.after.feed? m = (t.feed? m).map fun f => { f with isCurrent := false })
      (next : turn.after.nextListener = t.nextListener)
      (silent : ∀ listener, heard listener turn.happenings = []) (closes : e.closes = true) :
      Change t e turn

variable {t : Topology} {n : Nat} {s : Subscription}

theorem feed?_modify {f : Subscription → Subscription} {g : Feed → Feed}
    (same : ∀ s, (f s).feed = g s.feed) (m : Nat) :
    (t.modify n f).feed? m = if n = m then (t.feed? m).map g else t.feed? m := by
  simp only [feed?, modify_getElem?, Option.map_map]
  by_cases at_n : n = m
  · subst at_n
    simp [Function.comp_def, same]
  · simp [at_n, Function.comp_def]

theorem feed?_congr {u : Topology} (same : u.subscriptions = t.subscriptions) : u.feed? = t.feed? := by
  funext m
  rw [feed?, feed?, same]

theorem feed?_modify_unseen {f : Subscription → Subscription} (unseen : ∀ s, (f s).feed = s.feed) :
    (t.modify n f).feed? = t.feed? := by
  funext m
  rw [feed?_modify (g := id) unseen]
  simp

theorem feed?_dismiss (listener m : Nat) :
    (t.dismiss n listener).feed? m =
      if n = m then (t.feed? m).map fun f => { f with listeners := f.listeners.filter (· ≠ listener) }
      else t.feed? m :=
  feed?_modify (fun _ => rfl) m

theorem feed?_remove (m : Nat) :
    (t.remove n).2.feed? m =
      if n = m then (t.feed? m).map fun f => { f with isCurrent := false } else t.feed? m :=
  feed?_modify (g := fun f => { f with isCurrent := false }) (fun _ => rfl) m

theorem feed?_keep (instances : Instances) (m : Nat) :
    (t.keep n instances).feed? m =
      if n = m then (t.feed? m).map fun f => { f with snapshot? := some instances } else t.feed? m :=
  feed?_modify (fun _ => rfl) m

theorem feed?_join (m : Nat) :
    (t.join n s).after.feed? m =
      if n = m then (t.feed? m).map fun f => { f with listeners := f.listeners ++ [t.nextListener] }
      else t.feed? m :=
  feed?_modify (t := { t with nextListener := t.nextListener + 1 })
    (g := fun f => { f with listeners := f.listeners ++ [t.nextListener] }) (fun _ => rfl) m

theorem feed?_openFor (service : ServiceKey) (m : Nat) :
    (t.openFor service).after.feed? m =
      if t.subscriptions.length = m then some ⟨service, true, [t.nextListener], none⟩ else t.feed? m := by
  simp only [feed?, openFor, List.getElem?_append, List.getElem?_singleton]
  grind [Subscription.feed, Subscription.opened]

theorem feed?_scheduleFetch (n : Nat) : (t.scheduleFetch n).feed? = t.feed? := by
  rcases scheduleFetch_cases (t := t) n with same | queued
  · rw [same]
  · rw [queued]
    exact feed?_modify_unseen fun _ => rfl

theorem feed?_submitJob (job : Job) : (t.submitJob job).feed? = t.feed? := by
  rw [submitJob_eq]
  exact feed?_congr rfl

theorem nextListener_scheduleFetch (n : Nat) : (t.scheduleFetch n).nextListener = t.nextListener := by
  rcases scheduleFetch_cases (t := t) n with same | queued
  · rw [same]
  · rw [queued]
    rfl

theorem nextListener_submitJob (job : Job) : (t.submitJob job).nextListener = t.nextListener := by
  rw [submitJob_eq]
  rfl

theorem published?_eq_some {e : Event} {instances : Instances} :
    t.published? e n = some instances ↔ t.brought? e = some (n, instances) ∧ t.isCurrent n = true := by
  simp only [published?, Option.bind_eq_some_iff, Option.ite_none_right_eq_some, Option.some.injEq]
  constructor
  · rintro ⟨_, brought, ⟨rfl, current⟩, rfl⟩
    exact ⟨brought, current⟩
  · rintro ⟨brought, current⟩
    exact ⟨_, brought, ⟨rfl, current⟩, rfl⟩

theorem published?_of_nothing {e : Event} (nothing : t.brought? e = none) (n : Nat) :
    t.published? e n = none := by
  simp [published?, nothing]

theorem brought?_of_ignored {e : Event} (ignores : t.Ignores e) : t.brought? e = none := by
  cases e with
  | fetchReturned fetched? =>
    cases fetched? with
    | none => rfl
    | some instances =>
      simp only [brought?]
      split
      · next n running => exact absurd running (ignores n)
      · rfl
  | firstFetchReturned listener fetched? =>
    cases fetched? with
    | none => rfl
    | some instances =>
      have absent : t.openings.find? (fun o => decide (o.listener = listener)) = none :=
        List.find?_eq_none.mpr (by simpa using show ∀ o ∈ t.openings, o.listener ≠ listener from ignores)
      simp [brought?, absent]
  | _ => rfl

theorem brought?_of_closes {e : Event} (closes : e.closes = true) : t.brought? e = none := by
  cases e with
  | close _ | closeReturned _ | drained _ => rfl
  | _ => cases closes

theorem brought?_lane (running : t.dispatcher.fetch.running = some (.fetch n)) (instances : Instances) :
    t.brought? (.fetchReturned (some instances)) = some (n, instances) := by
  simp [brought?, running]

theorem Numbered.brought?_opening (numbered : t.Numbered) {o : Opening} (waiting : o ∈ t.openings)
    (instances : Instances) :
    t.brought? (.firstFetchReturned o.listener (some instances)) = some (o.subscription, instances) := by
  cases found : t.openings.find? fun p => p.listener = o.listener with
  | none => simpa using List.find?_eq_none.mp found o waiting
  | some p =>
    have same : p.listener = o.listener := by simpa using List.find?_some found
    cases List.inj_on_of_nodup_map numbered.openers (List.mem_of_find?_eq_some found) waiting same
    simp [brought?, found]

theorem closeNext_feed (order : List ServiceKey) (m : Nat) :
    (t.closeNext order).1.feed? m = t.feed? m ∨
      (t.closeNext order).1.feed? m = (t.feed? m).map fun f => { f with isCurrent := false } := by
  apply closeNext_keeps (fun u => u.feed? m = t.feed? m ∨
    u.feed? m = (t.feed? m).map fun f => { f with isCurrent := false }) _ order (.inl rfl)
  intro u service n s _ kept
  rw [feed?_remove]
  split
  · rcases kept with same | gone
    · exact .inr (by rw [same])
    · exact .inr (by rw [gone, Option.map_map]; rfl)
  · exact kept

theorem Change.closing {e : Event} {u : Topology} (feeds : u.feed? = t.feed?)
    (next : u.nextListener = t.nextListener) (closes : e.closes = true) (number : Nat)
    (order : List ServiceKey) : Change t e (u.continueClosing number order) := by
  have kept := closeNext_feed (t := u) order
  rw [feeds] at kept
  have same : (u.closeNext order).1.nextListener = t.nextListener := by
    rw [closeNext_frame]
    exact next
  rcases continueClosing_cases (t := u) number order with ⟨service, left, _, waits⟩ | ⟨_, ends⟩
  · rw [waits]
    exact .closed kept same (fun _ => rfl) closes
  · rw [ends]
    simp only [quietly, endClosing]
    split
    · exact .closed kept same (fun _ => rfl) closes
    · exact .closed kept same (fun _ => rfl) closes

theorem Step.change {e : Event} {turn : Turn Unit} (step : Step t e turn) (numbered : t.Numbered) :
    Change t e turn := by
  -- Most steps are of no concern to listeners.
  have still {e : Event} {turn : Turn Unit} (nothing : t.brought? e = none)
      (other : ∀ service listener, e ≠ .unsubscribe service listener)
      (silent : ∀ listener, heard listener turn.happenings = [])
      (feeds : turn.after.feed? = t.feed?) (next : turn.after.nextListener = t.nextListener) :
      Change t e turn :=
    .still feeds next silent (published?_of_nothing nothing)
      fun service listener same => absurd same (other service listener)
  cases step with
  | ignored ignores =>
    exact .still rfl rfl (fun _ => rfl) (published?_of_nothing (brought?_of_ignored ignores))
      fun _ _ _ => ignores
  | joined _ found => exact .joined found
  | opened _ absent => exact .opened absent
  | left found member others => exact .left found member rfl others rfl rfl
  | removed found member _ _ => exact .removed found member rfl rfl rfl
  | cancelled found member _ _ =>
    exact .removed found member (feed?_submitJob _) (nextListener_submitJob _) rfl
  | refreshed _ =>
    exact still rfl (by simp) (fun _ => rfl) (feed?_scheduleFetch _) (nextListener_scheduleFetch _)
  | watchStarted _ _ _ _ => exact still rfl (by simp) (fun _ => rfl) rfl rfl
  | watchSkipped _ _ _ _ => exact still rfl (by simp) (fun _ => rfl) rfl rfl
  | cancelStarted _ _ => exact still rfl (by simp) (fun _ => rfl) rfl rfl
  | fetchStarted _ _ _ _ =>
    exact still rfl (by simp) (fun _ => rfl) (feed?_modify_unseen fun _ => rfl) rfl
  | fetchSkipped _ _ _ _ =>
    exact still rfl (by simp) (fun _ => rfl) (feed?_modify_unseen fun _ => rfl) rfl
  | @watchRegistered n _ _ _ _ _ =>
    refine still rfl (by simp) (fun _ => rfl) ?_ (nextListener_scheduleFetch _)
    exact (feed?_scheduleFetch (t := t.markRegistered n) n).trans (feed?_modify_unseen fun _ => rfl)
  | watchOutlived _ _ _ => exact still rfl (by simp) (fun _ => rfl) rfl rfl
  | watchRetried _ live =>
    rw [retryWatch_eq live]
    exact still rfl (by simp) (fun _ => rfl) rfl rfl
  | watchGivenUp _ _ => exact still rfl (by simp) (fun _ => rfl) rfl rfl
  | cancelReturned _ => exact still rfl (by simp) (fun _ => rfl) rfl rfl
  | fetchPublished running known current =>
    exact .published known current (brought?_lane running _) rfl rfl rfl
  | @fetchFruitless n s fetched? running known nothing =>
    refine .still rfl rfl (fun _ => rfl) ?_ (by simp)
    cases fetched? with
    | none => exact published?_of_nothing rfl
    | some instances =>
      have removed : s.isCurrent = false := by simpa using nothing
      intro m
      rw [published?, brought?_lane running]
      simp only [Option.bind_some, ite_eq_right_iff]
      rintro ⟨rfl, current⟩
      simp [Topology.isCurrent, known, removed] at current
  | fetchBrokeOff _ => exact still rfl (by simp) (fun _ => rfl) rfl rfl
  | @openingPublished o s instances waiting known current =>
    refine .published known current (numbered.brought?_opening waiting _) ?_ ?_ rfl
    · exact (feed?_submitJob _).trans (feed?_congr rfl)
    · exact nextListener_submitJob _
  | @openingFruitless o s fetched? waiting known nothing =>
    refine .still (feed?_submitJob _) (nextListener_submitJob _) (fun _ => rfl) ?_ (by simp)
    cases fetched? with
    | none => exact published?_of_nothing rfl
    | some instances =>
      have removed : s.isCurrent = false := by simpa using nothing
      intro m
      rw [published?, numbered.brought?_opening waiting]
      simp only [Option.bind_some, ite_eq_right_iff]
      rintro ⟨rfl, current⟩
      simp [Topology.isCurrent, known, removed] at current
  | openingBrokeOff _ => exact still rfl (by simp) (fun _ => rfl) rfl rfl
  | retried _ _ =>
    exact still rfl (by simp) (fun _ => rfl) (feed?_submitJob _) (nextListener_submitJob _)
  | closed order =>
    exact Change.closing (t := t) (e := .close order) (u := { t with nextClosing := t.nextClosing + 1 })
      rfl rfl rfl _ order
  | @closedOn c _ =>
    exact Change.closing (t := t) (e := .closeReturned c.number)
      (u := { t with closings := t.closings.filter fun d => d.number ≠ c.number })
      rfl rfl rfl _ _
  | shut => exact still rfl (by simp) (fun _ => rfl) rfl rfl
  | destroyed _ => exact still rfl (by simp) (fun _ => rfl) rfl rfl
  | @drained order _ _ =>
    exact Change.closing (t := t) (e := .drained order)
      (u := { t with destruction := .closing t.nextClosing, nextClosing := t.nextClosing + 1 })
      rfl rfl rfl _ _

end Topology

end TrafficControl
