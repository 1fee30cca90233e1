import TrafficControl.Proofs.Topology.Effects

namespace TrafficControl

namespace Topology

variable {t u : Topology} {n : Nat}

theorem Registers.mono {job : Job} (registers : t.Registers job)
    (grown : t.subscriptions.length ≤ u.subscriptions.length) : u.Registers job := by
  rcases registers with ⟨n, attempt, bound, rfl⟩ | ⟨service, rfl⟩
  · exact .inl ⟨n, attempt, Nat.lt_of_lt_of_le bound grown, rfl⟩
  · exact .inr ⟨service, rfl⟩

theorem Fetches.mono {job : Job} (fetches : t.Fetches job)
    (grown : t.subscriptions.length ≤ u.subscriptions.length) : u.Fetches job := by
  obtain ⟨n, bound, rfl⟩ := fetches
  exact ⟨n, Nat.lt_of_lt_of_le bound grown, rfl⟩

namespace Numbered

theorem empty (retry : RetryPolicy) (includeBroken : Bool) :
    (Topology.empty retry includeBroken).Numbered := by
  constructor <;> simp [Topology.empty, Dispatcher.empty, Lane.empty, Lane.tasks]

theorem resubscribed (numbered : t.Numbered) (dispatcher : u.dispatcher = t.dispatcher)
    (openings : u.openings = t.openings) (closings : u.closings = t.closings)
    (listener : u.nextListener = t.nextListener) (closing : t.nextClosing ≤ u.nextClosing)
    (grown : t.subscriptions.length ≤ u.subscriptions.length) : u.Numbered where
  registration := by
    rw [dispatcher]
    exact fun job member => (numbered.registration job member).mono grown
  fetch := by
    rw [dispatcher]
    exact fun job member => (numbered.fetch job member).mono grown
  delayed := by
    rw [dispatcher]
    intro w member
    obtain ⟨ticket, lane, n, attempt, bound, task⟩ := numbered.delayed w member
    exact ⟨ticket, lane, n, attempt, Nat.lt_of_lt_of_le bound grown, task⟩
  tickets := by
    rw [dispatcher]
    exact numbered.tickets
  openings := by
    rw [openings, listener]
    intro o member
    obtain ⟨known, old⟩ := numbered.openings o member
    exact ⟨Nat.lt_of_lt_of_le known grown, old⟩
  openers := by
    rw [openings]
    exact numbered.openers
  closings := by
    rw [closings]
    exact fun c member => Nat.lt_of_lt_of_le (numbered.closings c member) closing
  closers := by
    rw [closings]
    exact numbered.closers

theorem modify (numbered : t.Numbered) (n : Nat) (f : Subscription → Subscription) :
    (t.modify n f).Numbered :=
  numbered.resubscribed rfl rfl rfl rfl (Nat.le_refl _) (by simp [Topology.modify])

theorem occupy_registration (numbered : t.Numbered) {running : Option Job} {queue : List Job}
    (registers : ∀ job ∈ running.toList ++ queue, t.Registers job) :
    (t.occupy .registration running queue).Numbered :=
  { numbered with registration := registers }

theorem occupy_fetch (numbered : t.Numbered) {running : Option Job} {queue : List Job}
    (fetches : ∀ job ∈ running.toList ++ queue, t.Fetches job) :
    (t.occupy .fetch running queue).Numbered :=
  { numbered with fetch := fetches }

theorem finish (numbered : t.Numbered) (name : LaneName) : (t.finish name).Numbered := by
  rw [finish_eq]
  cases name with
  | registration =>
    apply numbered.occupy_registration
    intro job member
    exact numbered.registration job (List.mem_append_right _ (by simpa [Dispatcher.lane] using member))
  | fetch =>
    apply numbered.occupy_fetch
    intro job member
    exact numbered.fetch job (List.mem_append_right _ (by simpa [Dispatcher.lane] using member))

theorem submitJob (numbered : t.Numbered) {job : Job} (registers : t.Registers job) :
    (t.submitJob job).Numbered := by
  rw [submitJob_eq]
  apply numbered.occupy_registration
  intro other member
  simp only [accepted, ← List.append_assoc, List.mem_append] at member
  rcases member with (running | queued) | pushed
  · exact numbered.registration other (by simp [Lane.tasks, Option.mem_toList.mp running])
  · exact numbered.registration other (List.mem_append_right _ queued)
  · split at pushed
    · cases pushed
    · rw [List.mem_singleton.mp pushed]
      exact registers

theorem scheduleFetch (numbered : t.Numbered) (known : n < t.subscriptions.length) :
    (t.scheduleFetch n).Numbered := by
  rcases scheduleFetch_cases (t := t) n with same | queued
  · rwa [same]
  · rw [queued]
    apply (numbered.occupy_fetch _).modify
    intro job member
    simp only [← List.append_assoc, List.mem_append] at member
    rcases member with (running | queued) | pushed
    · exact numbered.fetch job (by simp [Lane.tasks, Option.mem_toList.mp running])
    · exact numbered.fetch job (List.mem_append_right _ queued)
    · exact ⟨n, known, List.mem_singleton.mp pushed⟩

theorem settle (numbered : t.Numbered) (listener : Nat) : (t.settle listener).Numbered :=
  { numbered with
    openings := fun o member => numbered.openings o (List.mem_filter.mp member).1
    openers := numbered.openers.sublist (List.filter_sublist.map _) }

theorem forget (numbered : t.Numbered) (ticket : Nat) : (t.forget ticket).Numbered :=
  { numbered with
    delayed := fun w member => numbered.delayed w (List.mem_filter.mp member).1
    tickets := numbered.tickets.sublist (List.filter_sublist.map _) }

theorem postpone (numbered : t.Numbered) (known : n < t.subscriptions.length) (attempt : UInt32) :
    (t.postpone n attempt).Numbered :=
  { numbered with
    registration := (numbered.finish .registration).registration
    delayed := by
      intro w member
      rcases List.mem_append.mp member with old | new
      · obtain ⟨ticket, rest⟩ := numbered.delayed w old
        exact ⟨Nat.lt_succ_of_lt ticket, rest⟩
      · rw [List.mem_singleton.mp new]
        exact ⟨Nat.lt_succ_self _, rfl, n, attempt, known, rfl⟩
    tickets := by
      have fresh : t.dispatcher.nextTicket ∉ t.dispatcher.delayed.map Delayed.ticket := by
        intro member
        obtain ⟨w, old, same⟩ := List.mem_map.mp member
        have := (numbered.delayed w old).1
        omega
      simpa [Topology.postpone, List.nodup_append, numbered.tickets] using fresh }

theorem join (numbered : t.Numbered) (n : Nat) (s : Subscription) : (t.join n s).after.Numbered := by
  apply modify
  exact
    { numbered with
      openings := fun o member =>
        ⟨(numbered.openings o member).1, Nat.lt_succ_of_lt (numbered.openings o member).2⟩ }

theorem openFor (numbered : t.Numbered) (service : ServiceKey) :
    (t.openFor service).after.Numbered := by
  have grown : t.subscriptions.length ≤ (t.openFor service).after.subscriptions.length := by
    simp [Topology.openFor]
  constructor
  case registration => exact fun job member => (numbered.registration job member).mono grown
  case fetch => exact fun job member => (numbered.fetch job member).mono grown
  case delayed =>
    intro w member
    obtain ⟨ticket, lane, n, attempt, bound, task⟩ := numbered.delayed w member
    exact ⟨ticket, lane, n, attempt, Nat.lt_of_lt_of_le bound grown, task⟩
  case tickets => exact numbered.tickets
  case openings =>
    intro o member
    rcases List.mem_append.mp member with old | new
    · obtain ⟨known, listener⟩ := numbered.openings o old
      exact ⟨Nat.lt_of_lt_of_le known grown, Nat.lt_succ_of_lt listener⟩
    · rw [List.mem_singleton.mp new]
      simp [Topology.openFor]
  case openers =>
    have fresh : t.nextListener ∉ t.openings.map Opening.listener := by
      intro member
      obtain ⟨o, old, same⟩ := List.mem_map.mp member
      have := (numbered.openings o old).2
      omega
    simpa [Topology.openFor, List.nodup_append, numbered.openers] using fresh
  case closings => exact numbered.closings
  case closers => exact numbered.closers

theorem continueClosing (numbered : t.Numbered) {number : Nat} (old : number < t.nextClosing)
    (fresh : ∀ c ∈ t.closings, c.number ≠ number) (order : List ServiceKey) :
    (t.continueClosing number order).after.Numbered := by
  have closed : (t.closeNext order).1.Numbered := by
    rw [closeNext_frame]
    exact numbered.resubscribed rfl rfl rfl rfl (Nat.le_refl _) (Nat.le_of_eq (length_closeNext order).symm)
  have frame := closeNext_frame (t := t) order
  rcases continueClosing_cases (t := t) number order with ⟨service, left, _, waits⟩ | ⟨_, ends⟩
  · rw [waits]
    exact
      { closed with
        closings := by
          intro c member
          rw [frame] at member ⊢
          rcases List.mem_append.mp member with member | new
          · exact numbered.closings c member
          · rw [List.mem_singleton.mp new]
            exact old
        closers := by
          rw [frame]
          have fresh : number ∉ t.closings.map Closing.number := by simpa using fresh
          simpa [List.nodup_append, numbered.closers] using fresh }
  · rw [ends]
    simp only [quietly, endClosing]
    split
    · exact { closed with }
    · exact closed

theorem closeIn (numbered : t.Numbered) (order : List ServiceKey) :
    (t.closeIn order).after.Numbered := by
  apply continueClosing (t := { t with nextClosing := t.nextClosing + 1 })
  · exact numbered.resubscribed rfl rfl rfl rfl (Nat.le_succ _) (Nat.le_refl _)
  · exact Nat.lt_succ_self _
  · intro c member
    exact Nat.ne_of_lt (numbered.closings c member)

end Numbered

theorem Step.numbered {e : Event} {turn : Turn Unit} (step : Step t e turn) (numbered : t.Numbered) :
    turn.after.Numbered := by
  have bound {m : Nat} {s : Subscription} (known : t.subscriptions[m]? = some s) :
      m < t.subscriptions.length := (List.getElem?_eq_some_iff.mp known).1
  have current {service : ServiceKey} {m : Nat} {s : Subscription}
      (found : t.current? service = some (m, s)) : m < t.subscriptions.length :=
    bound (subscription_of_current? found).1
  cases step with
  | ignored _ => exact numbered
  | @joined _ n s _ _ => exact numbered.join n s
  | opened _ _ => exact numbered.openFor _
  | left _ _ _ => exact numbered.modify _ _
  | removed _ _ _ _ => exact (numbered.modify _ _).modify _ _
  | cancelled _ _ _ _ => exact ((numbered.modify _ _).modify _ _).submitJob (.inr ⟨_, rfl⟩)
  | refreshed found => exact numbered.scheduleFetch (current found)
  | watchStarted free head _ _ =>
    apply numbered.occupy_registration
    intro job member
    exact numbered.registration job (by simpa [Lane.tasks, free, head] using member)
  | watchSkipped free head _ _ =>
    apply numbered.occupy_registration
    intro job member
    exact numbered.registration job (by simp_all [Lane.tasks])
  | cancelStarted free head =>
    apply numbered.occupy_registration
    intro job member
    exact numbered.registration job (by simpa [Lane.tasks, free, head] using member)
  | fetchStarted free head _ _ =>
    apply (numbered.occupy_fetch _).modify
    intro job member
    exact numbered.fetch job (by simpa [Lane.tasks, free, head] using member)
  | fetchSkipped free head _ _ =>
    apply (numbered.occupy_fetch _).modify
    intro job member
    exact numbered.fetch job (by simp_all [Lane.tasks])
  | @watchRegistered n _ _ _ known _ =>
    exact ((numbered.modify n _).scheduleFetch (by simpa [modify] using bound known)).finish _
  | watchOutlived running _ _ =>
    apply numbered.occupy_registration
    intro job member
    rcases List.mem_append.mp member with running | queued
    · exact .inr ⟨_, by simpa using running⟩
    · exact numbered.registration job (List.mem_append_right _ queued)
  | watchRetried running live =>
    rw [retryWatch_eq live]
    obtain ⟨s, known⟩ := numbered.watched running
    exact numbered.postpone (bound known) _
  | watchGivenUp _ _ => exact numbered.finish _
  | cancelReturned _ => exact numbered.finish _
  | fetchPublished _ _ _ => exact (numbered.modify _ _).finish _
  | fetchFruitless _ _ _ => exact numbered.finish _
  | fetchBrokeOff _ => exact numbered.finish _
  | openingPublished waiting known _ =>
    exact ((numbered.settle _).modify _ _).submitJob
      (.inl ⟨_, 0, by simpa [keep, modify, settle] using bound known, rfl⟩)
  | openingFruitless waiting known _ =>
    exact (numbered.settle _).submitJob (.inl ⟨_, 0, bound known, rfl⟩)
  | openingBrokeOff _ => exact numbered.settle _
  | @retried w n attempt waiting task =>
    obtain ⟨_, _, _, _, known, same⟩ := numbered.delayed w waiting
    rw [task] at same
    cases same
    exact (numbered.forget _).submitJob (.inl ⟨n, attempt, known, rfl⟩)
  | closed order => exact numbered.closeIn order
  | @closedOn c waiting =>
    apply Numbered.continueClosing (t := { t with closings := t.closings.filter fun d => d.number ≠ c.number })
    · exact
        { numbered with
          closings := fun d member => numbered.closings d (List.mem_filter.mp member).1
          closers := numbered.closers.sublist (List.filter_sublist.map _) }
    · exact numbered.closings c waiting
    · intro d member
      simpa using (List.mem_filter.mp member).2
  | shut => exact { numbered with }
  | destroyed _ => exact { numbered with }
  | drained _ _ =>
    exact Numbered.closeIn (t := { t with destruction := .closing t.nextClosing }) { numbered with } _

theorem Numbered.turn (numbered : t.Numbered) (e : Event) : (t.turn e).after.Numbered :=
  (numbered.step e).numbered numbered

end Topology

end TrafficControl
