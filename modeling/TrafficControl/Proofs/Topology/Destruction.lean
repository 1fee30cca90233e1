import Mathlib.Data.List.Nodup
import TrafficControl.Proofs.Topology.WatchAlternation

namespace TrafficControl

open WatchLedger

namespace Topology

variable {t u v : Topology} {n : Nat} {s : Subscription} {service : ServiceKey}

theorem mem_services :
    service ∈ t.services ↔ ∃ s ∈ t.subscriptions, s.isCurrent = true ∧ s.service = service := by
  simp [services, and_assoc]

theorem mem_services_iff_holder : service ∈ t.services ↔ ∃ n, t.ledger.holder? service = some n := by
  rw [mem_services]
  constructor
  · rintro ⟨s, member, current, rfl⟩
    cases held : t.ledger.holder? s.service with
    | some n => exact ⟨n, rfl⟩
    | none =>
      have absent := List.findIdx?_eq_none_iff.mp held s.standing (List.mem_map_of_mem member)
      simp [Subscription.standing, current] at absent
  · rintro ⟨n, held⟩
    obtain ⟨standing, known, current, same⟩ := standing_of_holder? held
    obtain ⟨s, member, rfl⟩ := List.mem_map.mp (List.mem_of_getElem? known)
    exact ⟨s, member, current, same⟩

theorem submitJob_shut (shut : t.isShutdown = true) (job : Job) : t.submitJob job = t := by
  have shut : t.dispatcher.isShutdown = true := shut
  simp [submitJob, Dispatcher.submit?, shut]

theorem scheduleFetch_shut (shut : t.isShutdown = true) (n : Nat) : t.scheduleFetch n = t := by
  have shut : t.dispatcher.isShutdown = true := shut
  unfold scheduleFetch
  split
  · simp [Dispatcher.submit?, shut]
  · rfl

/-- What a topology that is shut down can become: no lane that is idle gets a task, and no service
gets a subscription. -/
structure Recedes (t u : Topology) : Prop where
  shut : u.isShutdown = true
  idle : t.dispatcher.registration.isIdle = true → u.dispatcher.registration.isIdle = true
  services : ∀ service ∈ u.services, service ∈ t.services

namespace Recedes

theorem refl (shut : t.isShutdown = true) : t.Recedes t := ⟨shut, id, fun _ => id⟩

theorem trans (first : t.Recedes u) (second : u.Recedes v) : t.Recedes v :=
  ⟨second.shut, fun idle => second.idle (first.idle idle),
    fun service member => first.services service (second.services service member)⟩

theorem unchanged (shut : u.isShutdown = true)
    (idle : t.dispatcher.registration.isIdle = true → u.dispatcher.registration.isIdle = true)
    (same : u.subscriptions = t.subscriptions) : t.Recedes u :=
  ⟨shut, idle, by simp [Topology.services, same]⟩

theorem modified (shut : u.isShutdown = true)
    (lane : u.dispatcher.registration = t.dispatcher.registration) {f : Subscription → Subscription}
    (changed : u.subscriptions = t.subscriptions.modify n f)
    (fades : ∀ s, (f s).isCurrent = true → s.isCurrent = true)
    (keeps : ∀ s, (f s).service = s.service) : t.Recedes u := by
  refine ⟨shut, by rw [lane]; exact id, ?_⟩
  intro service member
  obtain ⟨r, known, current, rfl⟩ := mem_services.mp member
  obtain ⟨m, at_m⟩ := List.getElem?_of_mem known
  rw [changed, List.getElem?_modify] at at_m
  obtain ⟨s, before, rfl⟩ := Option.map_eq_some_iff.mp at_m
  apply mem_services.mpr
  refine ⟨s, List.mem_of_getElem? before, ?_, ?_⟩
  · split at current
    · exact fades s current
    · exact current
  · split
    · exact (keeps s).symm
    · rfl

theorem remove (shut : t.isShutdown = true) (n : Nat) : t.Recedes (t.remove n).2 :=
  modified shut rfl rfl (by simp) (by simp)

theorem dismissed (shut : t.isShutdown = true) (n listener : Nat) :
    t.Recedes ((t.dismiss n listener).remove n).2 := by
  have left : t.Recedes (t.dismiss n listener) :=
    modified (u := t.dismiss n listener) shut rfl (n := n)
      (f := fun s => { s with listeners := s.listeners.filter (· ≠ listener) }) rfl (fun _ => id)
      fun _ => rfl
  exact left.trans (remove left.shut n)

theorem finish (shut : t.isShutdown = true) : t.Recedes (t.finish .registration) := by
  refine unchanged shut ?_ rfl
  intro idle
  obtain ⟨_, queue⟩ := Lane.isIdle_iff.mp idle
  exact Lane.isIdle_iff.mpr ⟨rfl, queue⟩

theorem submitted (recedes : t.Recedes u) (job : Job) : t.Recedes (u.submitJob job) := by
  rwa [submitJob_shut recedes.shut]

theorem scheduled (recedes : t.Recedes u) (n : Nat) : t.Recedes (u.scheduleFetch n) := by
  rwa [scheduleFetch_shut recedes.shut]

theorem closeNext (shut : t.isShutdown = true) (order : List ServiceKey) :
    t.Recedes (t.closeNext order).1 :=
  closeNext_keeps t.Recedes (fun _ _ n _ _ before => before.trans (remove before.shut n)) order (refl shut)

end Recedes

structure Ending (t : Topology) : Prop where
  shut : t.destruction ≠ .ahead → t.isShutdown = true
  drained : t.destruction = .done ∨ (∃ number, t.destruction = .closing number) →
    t.dispatcher.registration.isIdle = true
  closing : ∀ {number}, t.destruction = .closing number →
    ∃ c ∈ t.closings, c.number = number ∧ ∀ service ∈ t.services, service ∈ c.left
  done : t.destruction = .done → t.services = []

namespace Ending

theorem empty (retry : RetryPolicy) (includeBroken : Bool) :
    (Topology.empty retry includeBroken).Ending := by
  constructor <;> simp [Topology.empty]

theorem receded (ending : t.Ending) (same : u.destruction = t.destruction)
    (closings : ∀ c ∈ t.closings, t.destruction = .closing c.number → c ∈ u.closings)
    (recedes : t.isShutdown = true → t.Recedes u) : u.Ending where
  shut := by
    rw [same]
    exact fun begun => (recedes (ending.shut begun)).shut
  drained := by
    rw [same]
    intro closing
    have shut : t.isShutdown = true := by
      apply ending.shut
      rcases closing with done | ⟨number, closing⟩
      · simp [done]
      · simp [closing]
    exact (recedes shut).idle (ending.drained closing)
  closing := by
    rw [same]
    intro number closing
    have recedes := recedes (ending.shut (by simp [closing]))
    obtain ⟨c, member, rfl, left⟩ := ending.closing closing
    exact ⟨c, closings c member closing, rfl, fun service current => left service (recedes.services service current)⟩
  done := by
    rw [same]
    intro done
    have recedes := recedes (ending.shut (by simp [done]))
    apply List.eq_nil_iff_forall_not_mem.mpr
    intro service member
    have before := recedes.services service member
    rw [ending.done done] at before
    cases before

end Ending

theorem closeNext_covers (ledger : t.ledger.Consistent) {order : List ServiceKey}
    (covers : ∀ service ∈ t.services, service ∈ order) :
    ∀ service ∈ (t.closeNext order).1.services,
      ∃ left, (t.closeNext order).2.map Prod.snd = some left ∧ service ∈ left := by
  induction order generalizing t with
  | nil =>
    intro service member
    cases covers service member
  | cons first left ih =>
    cases found : t.current? first with
    | none =>
      simp only [closeNext, found]
      apply ih ledger
      intro service member
      rcases List.mem_cons.mp (covers service member) with rfl | member
      · obtain ⟨n, held⟩ := mem_services_iff_holder.mp ‹_›
        rw [holder?_ledger, found] at held
        cases held
      · exact member
    | some pair =>
      obtain ⟨n, s⟩ := pair
      have dropped := ledger_remove (t := t) (n := n)
      have rest : ∀ service ∈ (t.remove n).2.services, service ∈ left := by
        intro service member
        obtain ⟨m, held⟩ := mem_services_iff_holder.mp member
        rw [dropped, ledger.holder?_dropped (holds found) rfl] at held
        split at held
        · cases held
        · next different =>
          have before := mem_services_iff_holder.mpr ⟨m, held⟩
          exact (List.mem_cons.mp (covers service before)).resolve_left different
      have kept : (t.remove n).2.ledger.Consistent := by
        rw [dropped]
        exact ledger.dropped (holds found)
      simp only [closeNext, found]
      split
      · next u removed =>
        rw [removed] at rest
        intro service member
        exact ⟨left, rfl, rest service member⟩
      · next u removed =>
        rw [removed] at rest kept
        exact ih kept rest

namespace Ending

theorem foreign (ending : t.Ending) {number : Nat} (other : t.destruction ≠ .closing number)
    (order : List ServiceKey) : (t.continueClosing number order).after.Ending := by
  have frame := closeNext_frame (t := t) order
  have destruction : (t.closeNext order).1.destruction = t.destruction := by rw [frame]
  have closings : (t.closeNext order).1.closings = t.closings := by rw [frame]
  rcases continueClosing_cases (t := t) number order with ⟨first, left, _, waits⟩ | ⟨_, ends⟩
  · rw [waits]
    refine ending.receded destruction ?_ fun shut => { Recedes.closeNext shut order with }
    intro c member _
    simp [closings, member]
  · rw [ends]
    have kept : (t.closeNext order).1.endClosing number = (t.closeNext order).1 := by
      simp [endClosing, destruction, other]
    rw [quietly, kept]
    apply ending.receded destruction
    · intro c member _
      rwa [closings]
    · intro shut
      exact Recedes.closeNext shut order

theorem own (ledger : t.ledger.Consistent) (shut : t.isShutdown = true)
    (idle : t.dispatcher.registration.isIdle = true) {number : Nat}
    (closing : t.destruction = .closing number) {order : List ServiceKey}
    (covers : ∀ service ∈ t.services, service ∈ order) :
    (t.continueClosing number order).after.Ending := by
  have covered := closeNext_covers ledger covers
  have recedes := Recedes.closeNext shut order
  have destruction : (t.closeNext order).1.destruction = .closing number := by
    rw [closeNext_frame, ← closing]
  rcases continueClosing_cases (t := t) number order with ⟨first, left, next, waits⟩ | ⟨next, ends⟩
  · rw [waits]
    refine ⟨fun _ => recedes.shut, fun _ => recedes.idle idle, ?_, ?_⟩
    · intro k same
      rw [show _ = Destruction.closing number from destruction] at same
      cases same
      refine ⟨⟨number, left⟩, by simp, rfl, ?_⟩
      intro service member
      obtain ⟨rest, same, inside⟩ := covered service member
      rw [next] at same
      cases same
      exact inside
    · intro done
      rw [show _ = Destruction.closing number from destruction] at done
      cases done
  · have nothing : (t.closeNext order).1.services = [] := by
      apply List.eq_nil_iff_forall_not_mem.mpr
      intro service member
      obtain ⟨rest, same, _⟩ := covered service member
      rw [next] at same
      cases same
    rw [ends]
    simp only [quietly, endClosing, if_pos destruction]
    refine ⟨fun _ => recedes.shut, fun _ => recedes.idle idle, ?_, fun _ => nothing⟩
    intro k different
    cases different

end Ending

theorem Step.ending {e : Event} {turn : Turn Unit} (step : Step t e turn) (allowed : t.Allows e)
    (numbered : t.Numbered) (ledger : t.ledger.Consistent) (ending : t.Ending) :
    turn.after.Ending := by
  have still {u : Topology} (same : u.destruction = t.destruction) (closings : u.closings = t.closings)
      (recedes : t.isShutdown = true → t.Recedes u) : u.Ending :=
    ending.receded same (fun c member _ => by rwa [closings]) recedes
  -- What has found a task on the lane has not found the lane idle.
  have busy {u : Topology} (same : u.subscriptions = t.subscriptions)
      (task : t.dispatcher.registration.tasks ≠ []) (shut : u.isShutdown = true) : t.Recedes u := by
    refine .unchanged shut ?_ same
    intro idle
    obtain ⟨running, queue⟩ := Lane.isIdle_iff.mp idle
    exact absurd (by simp [Lane.tasks, running, queue]) task
  have fresh {number : Nat} (closing : t.destruction = .closing number) : number < t.nextClosing := by
    obtain ⟨c, member, rfl, _⟩ := ending.closing closing
    exact numbered.closings c member
  cases step with
  | ignored _ => exact ending
  | joined live _ => exact still rfl rfl (by simp [live])
  | opened live _ => exact still rfl rfl (by simp [live])
  | left _ _ _ => exact still rfl rfl fun shut => .modified shut rfl rfl (fun _ => id) (fun _ => rfl)
  | removed _ _ _ _ => exact still rfl rfl fun shut => .dismissed shut _ _
  | @cancelled service listener n _ _ _ _ _ =>
    have lanes := submitJob_ending (t := ((t.dismiss n listener).remove n).2) (.cancel service)
    exact still lanes.1 lanes.2 fun shut => (Recedes.dismissed shut n listener).submitted _
  | @refreshed _ n _ _ =>
    have lanes := scheduleFetch_ending (t := t) (n := n)
    exact still lanes.1 lanes.2 fun shut => (Recedes.refl shut).scheduled n
  | watchStarted _ head _ _ => exact still rfl rfl fun shut => busy rfl (by simp [Lane.tasks, head]) shut
  | watchSkipped _ head _ _ => exact still rfl rfl fun shut => busy rfl (by simp [Lane.tasks, head]) shut
  | cancelStarted _ head => exact still rfl rfl fun shut => busy rfl (by simp [Lane.tasks, head]) shut
  | fetchStarted _ _ _ _ =>
    exact still rfl rfl fun shut => .modified shut rfl rfl (fun _ => id) (fun _ => rfl)
  | fetchSkipped _ _ _ _ =>
    exact still rfl rfl fun shut => .modified shut rfl rfl (fun _ => id) (fun _ => rfl)
  | @watchRegistered n _ _ running _ _ =>
    have lanes := scheduleFetch_ending (t := t.markRegistered n) (n := n)
    refine still lanes.1 lanes.2 fun shut => ?_
    have marked : t.Recedes (t.markRegistered n) :=
      .modified shut rfl rfl (fun _ => id) (fun _ => rfl)
    have scheduled := marked.scheduled n
    exact scheduled.trans (.finish scheduled.shut)
  | watchOutlived running _ _ => exact still rfl rfl fun shut => busy rfl (by simp [Lane.tasks, running]) shut
  | watchRetried _ live =>
    rw [retryWatch_eq live]
    exact still rfl rfl (by simp [live])
  | watchGivenUp _ _ => exact still rfl rfl .finish
  | cancelReturned _ => exact still rfl rfl .finish
  | fetchPublished _ _ _ =>
    exact still rfl rfl fun shut => .modified shut rfl rfl (fun _ => id) (fun _ => rfl)
  | fetchFruitless _ _ _ => exact still rfl rfl fun shut => .unchanged shut id rfl
  | fetchBrokeOff _ => exact still rfl rfl fun shut => .unchanged shut id rfl
  | @openingPublished o _ instances _ _ _ =>
    have lanes := submitJob_ending (t := (t.settle o.listener).keep o.subscription instances)
      (.watch o.subscription 0)
    refine still lanes.1 lanes.2 fun shut => ?_
    have kept : t.Recedes ((t.settle o.listener).keep o.subscription instances) :=
      .modified shut rfl rfl (fun _ => id) (fun _ => rfl)
    exact kept.submitted _
  | @openingFruitless o _ _ _ _ _ =>
    have lanes := submitJob_ending (t := t.settle o.listener) (.watch o.subscription 0)
    refine still lanes.1 lanes.2 fun shut => ?_
    have settled : t.Recedes (t.settle o.listener) := .unchanged shut id rfl
    exact settled.submitted _
  | openingBrokeOff _ => exact still rfl rfl fun shut => .unchanged shut id rfl
  | @retried w n attempt _ _ =>
    have lanes := submitJob_ending (t := t.forget w.ticket) (.watch n attempt)
    refine still lanes.1 lanes.2 fun shut => ?_
    have forgotten : t.Recedes (t.forget w.ticket) := .unchanged shut id rfl
    exact forgotten.submitted _
  | closed order =>
    have begun : Ending { t with nextClosing := t.nextClosing + 1 } := { ending with }
    refine begun.foreign ?_ order
    intro closing
    exact absurd (fresh closing) (Nat.lt_irrefl _)
  | @closedOn c waiting =>
    let u := { t with closings := t.closings.filter fun d => d.number ≠ c.number }
    by_cases closing : t.destruction = .closing c.number
    · have shut := ending.shut (by simp [closing])
      obtain ⟨d, member, same, left⟩ := ending.closing closing
      cases List.inj_on_of_nodup_map numbered.closers member waiting same
      exact Ending.own (t := u) ledger shut (ending.drained (.inr ⟨_, closing⟩)) closing left
    · have rest : u.Ending := by
        refine ending.receded rfl ?_ fun shut => .unchanged shut id rfl
        intro d member owned
        refine List.mem_filter.mpr ⟨member, ?_⟩
        have different : d.number ≠ c.number := by
          intro same
          exact closing (same ▸ owned)
        simpa using different
      exact rest.foreign closing c.left
  | shut => exact { ending with shut := fun _ => rfl }
  | destroyed _ =>
    refine ⟨fun _ => rfl, ?_, ?_, ?_⟩
    · simp [quietly]
    · simp [quietly]
    · simp [quietly]
  | @drained order draining idle =>
    have lane : t.dispatcher.registration.isIdle = true := by
      simp only [Dispatcher.isDrained, Bool.and_eq_true] at idle
      exact idle.1
    apply Ending.own
      (t := { t with destruction := .closing t.nextClosing, nextClosing := t.nextClosing + 1 })
      ledger (ending.shut (by simp [draining])) lane rfl
    intro service member
    exact allowed.mem_iff.mpr member

theorem ending_run {events : List Event} (feasible : t.Feasible events) (numbered : t.Numbered)
    (ledger : t.ledger.Consistent) (ending : t.Ending) : (t.run events).Ending := by
  induction events generalizing t with
  | nil => exact ending
  | cons e rest ih =>
    obtain ⟨allowed, feasible⟩ := feasible
    have step := numbered.step e
    exact ih feasible (step.numbered numbered) ((numbered.moves e).consistent ledger)
      (step.ending allowed numbered ledger ending)

theorem Ending.nothing_outstanding (ending : t.Ending) (done : t.destruction = .done)
    (service : ServiceKey) : t.ledger.isOutstanding service = false := by
  have queue : t.ledger.queue = [] := (Lane.isIdle_iff.mp (ending.drained (.inl done))).2
  rw [isOutstanding_eq_false, queue]
  refine ⟨?_, List.not_mem_nil⟩
  apply isRegistered_of_absent
  cases held : t.ledger.holder? service with
  | none => rfl
  | some n =>
    have member := mem_services_iff_holder.mpr ⟨n, held⟩
    rw [ending.done done] at member
    cases member

def abandonments (t : Topology) (events : List Event) (service : ServiceKey) : Nat :=
  (t.moments events).countP fun m => decide (m.before.abandons? m.event = some service)

theorem watchHistory_cons (e : Event) (rest : List Event) :
    t.watchHistory (e :: rest) service =
      marksOf service (watchMarks (t.turn e).happenings) ++ (t.turn e).after.watchHistory rest service := by
  simp [watchHistory, happenings, moments, Moment.happenings]

theorem marksOf_abandoned (gone? : Option ServiceKey) :
    marksOf service (gone?.map fun gone => (gone, WatchMark.abandoned)).toList =
      if gone? = some service then [.abandoned] else [] := by
  cases gone? with
  | none => rfl
  | some gone => simp

theorem count_runMarks (t : Topology) (events : List Event) (service : ServiceKey) :
    (marksOf service (t.runMarks events)).countP WatchMark.isRegistered =
        (t.watchHistory events service).countP WatchMark.isRegistered ∧
      (marksOf service (t.runMarks events)).count .cancelled =
        (t.watchHistory events service).count .cancelled ∧
      (marksOf service (t.runMarks events)).count .abandoned = t.abandonments events service := by
  induction events generalizing t with
  | nil => exact ⟨rfl, rfl, rfl⟩
  | cons e rest ih =>
    obtain ⟨registered, cancelled, abandoned⟩ := ih (t.turn e).after
    have told : (marksOf service (watchMarks (t.turn e).happenings)).count .abandoned = 0 := by
      apply List.count_eq_zero.mpr
      have kept : .abandoned ∉ t.watchHistory [e] service := abandoned_not_mem_watchHistory service
      rw [watchHistory_cons] at kept
      exact fun member => kept (List.mem_append_left _ member)
    simp only [runMarks, marks, marksOf_append, marksOf_abandoned, watchHistory_cons, List.countP_append,
      List.count_append, registered, cancelled, abandoned, told, abandonments, moments,
      List.countP_cons]
    split
    · next gone =>
      simp [gone, WatchMark.isRegistered]
      omega
    · next kept => simp [kept]

theorem destruction_balances (retry : RetryPolicy) (includeBroken : Bool) (service : ServiceKey)
    {events : List Event} (feasible : (Topology.empty retry includeBroken).Feasible events)
    (done : ((Topology.empty retry includeBroken).run events).destruction = .done) :
    let start := Topology.empty retry includeBroken
    let history := start.watchHistory events service
    history.countP WatchMark.isRegistered = history.count .cancelled + start.abandonments events service := by
  intro start history
  have numbered := Numbered.empty retry includeBroken
  have ending := ending_run feasible numbered consistent_empty (Ending.empty retry includeBroken)
  have moves : Moves true start.ledger (start.runMarks events) (start.run events).ledger :=
    numbered.run_moves
  have replayed := moves.replay consistent_empty service
  rw [ending.nothing_outstanding done, show start.ledger.isOutstanding service = false from rfl] at replayed
  have counted := WatchMark.count_of_replay replayed
  obtain ⟨registered, cancelled, abandoned⟩ := count_runMarks start events service
  rw [registered, cancelled, abandoned] at counted
  simpa using counted

/-- A destruction leaves no watch of a service behind exactly if its last listener never left, with
the watch registered, while the lanes refused to cancel it. -/
theorem destruction_balanced_iff (retry : RetryPolicy) (includeBroken : Bool) (service : ServiceKey)
    {events : List Event} (feasible : (Topology.empty retry includeBroken).Feasible events)
    (done : ((Topology.empty retry includeBroken).run events).destruction = .done) :
    let start := Topology.empty retry includeBroken
    let history := start.watchHistory events service
    history.countP WatchMark.isRegistered = history.count .cancelled ↔
      ∀ m ∈ start.moments events, m.before.abandons? m.event ≠ some service := by
  intro start history
  have balance := destruction_balances retry includeBroken service feasible done
  have unabandoned : start.abandonments events service = 0 ↔
      ∀ m ∈ start.moments events, m.before.abandons? m.event ≠ some service := by
    simp [abandonments, List.countP_eq_zero]
  rw [← unabandoned]
  simp only [start, history] at balance ⊢
  omega

def watchedToTheEnd (service : ServiceKey) : List Event :=
  [.subscribe service, .firstFetchReturned 0 none, .start .registration, .registerReturned true,
    .destroy, .start .fetch, .fetchReturned none, .drained [service], .closeReturned 0]

theorem destruction_balanced_watchedToTheEnd :
    let service : ServiceKey := ⟨"default", "pay"⟩
    let start := Topology.empty ⟨1, 1⟩ false
    start.Feasible (watchedToTheEnd service) ∧
      (start.run (watchedToTheEnd service)).destruction = .done ∧
      start.watchHistory (watchedToTheEnd service) service = [.registered 0, .cancelled] ∧
      ∀ m ∈ start.moments (watchedToTheEnd service), m.before.abandons? m.event ≠ some service := by
  have feasible : (Topology.empty ⟨1, 1⟩ false).Feasible (watchedToTheEnd ⟨"default", "pay"⟩) :=
    ⟨trivial, trivial, trivial, trivial, trivial, trivial, trivial, .refl _, trivial, trivial⟩
  have balanced := destruction_balanced_iff ⟨1, 1⟩ false ⟨"default", "pay"⟩ feasible (by decide)
  exact ⟨feasible, by decide, by decide, balanced.mp (by decide)⟩

/-- The last listener of a service leaves while the lanes drain. -/
def leftWhileDraining (service : ServiceKey) : List Event :=
  [.subscribe service, .firstFetchReturned 0 none, .start .registration, .registerReturned true,
    .destroy, .unsubscribe service 0, .start .fetch, .drained []]

theorem destruction_leaves_watch :
    let service : ServiceKey := ⟨"default", "pay"⟩
    let start := Topology.empty ⟨1, 1⟩ false
    start.Feasible (leftWhileDraining service) ∧
      (start.run (leftWhileDraining service)).destruction = .done ∧
      (start.watchHistory (leftWhileDraining service) service).countP WatchMark.isRegistered = 1 ∧
      (start.watchHistory (leftWhileDraining service) service).count .cancelled = 0 :=
  ⟨⟨trivial, trivial, trivial, trivial, trivial, trivial, trivial, .refl _, trivial⟩, by decide, by decide,
    by decide⟩

end Topology

end TrafficControl
