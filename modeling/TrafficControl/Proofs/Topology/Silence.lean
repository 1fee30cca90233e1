import TrafficControl.Proofs.Topology.Destruction

namespace TrafficControl

open WatchLedger

namespace Topology

variable {t u : Topology} {n : Nat} {s : Subscription} {service : ServiceKey}

structure Silent (t : Topology) : Prop where
  done : t.destruction = .done
  shut : t.isShutdown = true
  idle : t.dispatcher.registration.isIdle = true
  services : t.services = []

namespace Silent

theorem removed (silent : t.Silent) (known : t.subscriptions[n]? = some s) :
    s.isCurrent = false := by
  have absent : s.service ∉ t.services := by simp [silent.services]
  rw [mem_services] at absent
  cases current : s.isCurrent with
  | false => rfl
  | true => exact absurd ⟨s, List.mem_of_getElem? known, current, rfl⟩ absent

theorem absent (silent : t.Silent) (service : ServiceKey) : t.current? service = none := by
  cases found : t.current? service with
  | none => rfl
  | some pair =>
    obtain ⟨n, s⟩ := pair
    obtain ⟨known, current, _⟩ := subscription_of_current? found
    rw [silent.removed known] at current
    cases current

theorem refuses (silent : t.Silent) (service : ServiceKey) :
    t.subscribe service = t.quietly .refused := by
  simp [subscribe, silent.shut]

theorem instances?_eq_none (silent : t.Silent) (service : ServiceKey) :
    t.instances? service = none := by
  simp [instances?, silent.absent service]

theorem receded (silent : t.Silent) (same : u.destruction = t.destruction) (recedes : t.Recedes u) :
    u.Silent where
  done := same.trans silent.done
  shut := recedes.shut
  idle := recedes.idle silent.idle
  services := by
    apply List.eq_nil_iff_forall_not_mem.mpr
    intro service member
    have before := recedes.services service member
    rw [silent.services] at before
    cases before

theorem unchanged (silent : t.Silent) (same : u.destruction = t.destruction)
    (lane : u.dispatcher.registration = t.dispatcher.registration)
    (shut : u.isShutdown = t.isShutdown)
    (subscriptions : u.subscriptions = t.subscriptions) : u.Silent :=
  silent.receded same (.unchanged (shut.trans silent.shut) (by rw [lane]; exact id) subscriptions)

theorem continueClosing (silent : t.Silent) (number : Nat) (order : List ServiceKey) :
    t.continueClosing number order = t.quietly () := by
  have nothing : t.closeNext order = (t, none) := by
    induction order with
    | nil => rfl
    | cons service left ih =>
      simp only [closeNext, silent.absent service]
      exact ih
  simp [Topology.continueClosing, nothing, endClosing, silent.done]

theorem step (silent : t.Silent) {e : Event} {turn : Turn Unit} (step : Step t e turn) :
    turn.happenings = [] ∧ turn.after.Silent := by
  obtain ⟨nothing, empty⟩ := Lane.isIdle_iff.mp silent.idle
  cases step with
  | ignored _ => exact ⟨rfl, silent⟩
  | joined live _ | opened live _ | destroyed live => simp [silent.shut] at live
  | left found _ _ | removed found _ _ _ | cancelled found _ _ _ | refreshed found =>
    simp [silent.absent] at found
  | watchStarted _ head _ _ | watchSkipped _ head _ _ | cancelStarted _ head => simp [empty] at head
  | watchRegistered running _ _ | watchOutlived running _ _ | watchRetried running _
  | watchGivenUp running _ | cancelReturned running => simp [nothing] at running
  | fetchStarted _ _ known current | fetchPublished _ known current
  | openingPublished _ known current => simp [silent.removed known] at current
  | fetchSkipped _ _ _ _ =>
    exact ⟨rfl, silent.receded rfl (.modified silent.shut rfl rfl (fun _ => id) fun _ => rfl)⟩
  | fetchFruitless _ _ _ | fetchBrokeOff _ | openingBrokeOff _ =>
    exact ⟨rfl, silent.unchanged rfl rfl rfl rfl⟩
  | @openingFruitless o _ _ _ _ _ =>
    have settled : (t.settle o.listener).Silent := silent.unchanged rfl rfl rfl rfl
    rw [submitJob_shut settled.shut]
    exact ⟨rfl, settled⟩
  | @retried w _ _ _ _ =>
    have forgotten : (t.forget w.ticket).Silent := silent.unchanged rfl rfl rfl rfl
    rw [submitJob_shut forgotten.shut]
    exact ⟨rfl, forgotten⟩
  | closed order =>
    have begun : { t with nextClosing := t.nextClosing + 1 }.Silent :=
      silent.unchanged rfl rfl rfl rfl
    simp only [closeIn, begun.continueClosing]
    exact ⟨rfl, begun⟩
  | @closedOn c _ =>
    have rest : { t with closings := t.closings.filter fun d => d.number ≠ c.number }.Silent :=
      silent.unchanged rfl rfl rfl rfl
    rw [rest.continueClosing]
    exact ⟨rfl, rest⟩
  | shut => exact ⟨rfl, silent.unchanged rfl rfl silent.shut.symm rfl⟩
  | drained draining _ => simp [silent.done] at draining

theorem run (silent : t.Silent) (numbered : t.Numbered) (events : List Event) :
    t.happenings events = [] ∧ (t.run events).Silent := by
  induction events generalizing t with
  | nil => exact ⟨rfl, silent⟩
  | cons e rest ih =>
    obtain ⟨quiet, after⟩ := silent.step (numbered.step e)
    obtain ⟨later, last⟩ := ih after (numbered.turn e)
    refine ⟨?_, last⟩
    simp [happenings, moments, Moment.happenings, quiet] at later ⊢
    exact later

end Silent

theorem Ending.silent (ending : t.Ending) (done : t.destruction = .done) : t.Silent where
  done := done
  shut := ending.shut (by simp [done])
  idle := ending.drained (.inl done)
  services := ending.done done

/-- Once a destruction is done, a topology has no services and refuses every listener, whatever
happens to it, and nobody is called any more: neither the backend nor a listener. -/
theorem silent_after_destruction (retry : RetryPolicy) (includeBroken : Bool) {events : List Event}
    (feasible : (Topology.empty retry includeBroken).Feasible events)
    (done : ((Topology.empty retry includeBroken).run events).destruction = .done)
    (later : List Event) :
    let destroyed := (Topology.empty retry includeBroken).run events
    let t := destroyed.run later
    t.services = [] ∧ (∀ service, t.instances? service = none) ∧
      (∀ service, t.subscribe service = t.quietly .refused) ∧ destroyed.happenings later = [] := by
  intro destroyed t
  have numbered := Numbered.empty retry includeBroken
  have ending := ending_run feasible numbered consistent_empty (Ending.empty retry includeBroken)
  have still : destroyed.Numbered := run_keeps (fun _ e kept => kept.turn e) numbered
  obtain ⟨quiet, silent⟩ := (ending.silent done).run still later
  exact ⟨silent.services, silent.instances?_eq_none, silent.refuses, quiet⟩

def endedMidway (a b : ServiceKey) : List Event :=
  [.subscribe a, .firstFetchReturned 0 none, .start .registration, .registerReturned false,
    .subscribe b, .destroy, .drained [a, b]]

def straggling (a b : ServiceKey) : List Event :=
  [.firstFetchReturned 1 (some [.ofAddress "i" "host" 80]), .retryDue 0, .refresh a, .subscribe a,
    .subscribe b, .unsubscribe a 0, .destroy, .start .registration, .start .fetch]

theorem silent_after_destruction_midway :
    let a : ServiceKey := ⟨"default", "orders"⟩
    let b : ServiceKey := ⟨"default", "pay"⟩
    let start := Topology.empty ⟨1, 1⟩ false
    let destroyed := start.run (endedMidway a b)
    start.Feasible (endedMidway a b) ∧ destroyed.destruction = .done ∧
      destroyed.openings = [⟨1, 1⟩] ∧ destroyed.dispatcher.delayed.map Delayed.ticket = [0] ∧
      (destroyed.run (straggling a b)).services = [] ∧
      destroyed.happenings (straggling a b) = [] := by
  intro a b start destroyed
  have feasible : start.Feasible (endedMidway a b) :=
    ⟨trivial, trivial, trivial, trivial, trivial, trivial, .refl _, trivial⟩
  have done : destroyed.destruction = .done := by decide
  obtain ⟨services, _, _, quiet⟩ :=
    silent_after_destruction ⟨1, 1⟩ false feasible done (straggling a b)
  exact ⟨feasible, done, by decide, by decide, services, quiet⟩

end Topology

end TrafficControl
