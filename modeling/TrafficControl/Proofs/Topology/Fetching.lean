import TrafficControl.Proofs.Topology.Feed

namespace TrafficControl

namespace Event

def answer? : Event → Option (Caller × Option Instances)
  | .fetchReturned fetched? => some (.lane, fetched?)
  | .fetchBrokeOff => some (.lane, none)
  | .firstFetchReturned listener fetched? => some (.subscriber listener, fetched?)
  | .firstFetchBrokeOff listener => some (.subscriber listener, none)
  | _ => none

end Event

namespace Topology

def Calling (t : Topology) (n : Nat) : Caller → Prop
  | .lane => t.dispatcher.fetch.running = some (.fetch n)
  | .subscriber listener => ⟨listener, n⟩ ∈ t.openings
  | .closer _ => False

def pending (t : Topology) (n : Nat) : Bool := t.subscriptions[n]?.any Subscription.fetchPending

inductive FetchChange (t : Topology) : Event → Turn Unit → Prop where
  | still {e : Event} {turn : Turn Unit} (lane : turn.after.dispatcher.fetch = t.dispatcher.fetch)
      (openings : turn.after.openings = t.openings) (pending : turn.after.pending = t.pending)
      (silent : ∀ caller n service, .fetching caller n service ∉ turn.happenings)
      (unasked : ∀ caller n fetched?, e.answer? = some (caller, fetched?) → ¬t.Calling n caller) :
      FetchChange t e turn
  | queued {e : Event} {turn : Turn Unit} {n : Nat} (unset : t.pending n = false)
      (lane : turn.after.dispatcher.fetch =
        ⟨t.dispatcher.fetch.running, t.dispatcher.fetch.queue ++ [.fetch n]⟩)
      (openings : turn.after.openings = t.openings)
      (pending : ∀ m, turn.after.pending m = if n = m then true else t.pending m)
      (silent : ∀ caller n service, .fetching caller n service ∉ turn.happenings)
      (unasked : e.answer? = none) : FetchChange t e turn
  | opened {service : ServiceKey} : FetchChange t (.subscribe service) (t.openFor service).forget
  | began {n : Nat} {rest : List Job} {s : Subscription} (free : t.dispatcher.fetch.running = none)
      (head : t.dispatcher.fetch.queue = .fetch n :: rest) (known : t.subscriptions[n]? = some s)
      (current : s.isCurrent = true) :
      FetchChange t (.start .fetch)
        ⟨(), (t.occupy .fetch (some (.fetch n)) rest).clearPending n, [.fetching .lane n s.service]⟩
  | skipped {n : Nat} {rest : List Job} {s : Subscription} (free : t.dispatcher.fetch.running = none)
      (head : t.dispatcher.fetch.queue = .fetch n :: rest) (known : t.subscriptions[n]? = some s)
      (removed : s.isCurrent = false) :
      FetchChange t (.start .fetch) (((t.occupy .fetch none rest).clearPending n).quietly ())
  | ended {e : Event} {turn : Turn Unit} {n : Nat} {fetched? : Option Instances}
      (running : t.dispatcher.fetch.running = some (.fetch n))
      (answer : e.answer? = some (.lane, fetched?))
      (lane : turn.after.dispatcher.fetch = ⟨none, t.dispatcher.fetch.queue⟩)
      (openings : turn.after.openings = t.openings) (pending : turn.after.pending = t.pending)
      (silent : ∀ caller n service, .fetching caller n service ∉ turn.happenings) :
      FetchChange t e turn
  | settled {e : Event} {turn : Turn Unit} {o : Opening} {fetched? : Option Instances}
      (waiting : o ∈ t.openings) (answer : e.answer? = some (.subscriber o.listener, fetched?))
      (lane : turn.after.dispatcher.fetch = t.dispatcher.fetch)
      (openings : turn.after.openings = (t.settle o.listener).openings)
      (pending : turn.after.pending = t.pending)
      (silent : ∀ caller n service, .fetching caller n service ∉ turn.happenings) :
      FetchChange t e turn

variable {t u : Topology} {n : Nat} {s : Subscription}

theorem pending_of_known (known : t.subscriptions[n]? = some s) :
    t.pending n = s.fetchPending := by
  simp [pending, known]

theorem pending_modify {f : Subscription → Subscription} (m : Nat) :
    (t.modify n f).pending m =
      if n = m then t.subscriptions[m]?.any fun s => (f s).fetchPending else t.pending m := by
  simp only [pending, modify_getElem?]
  cases t.subscriptions[m]? with
  | none => simp
  | some s => by_cases at_n : n = m <;> simp [at_n]

theorem pending_congr (same : u.subscriptions = t.subscriptions) : u.pending = t.pending := by
  funext m
  rw [pending, pending, same]

theorem pending_modify_same {f : Subscription → Subscription}
    (same : ∀ s, (f s).fetchPending = s.fetchPending) : (t.modify n f).pending = t.pending := by
  funext m
  rw [pending_modify]
  simp [same, pending]

theorem pending_remove : (t.remove n).2.pending = t.pending :=
  pending_modify_same (f := fun s => { s with isCurrent := false, registered := false }) fun _ => rfl

theorem pending_submitJob (job : Job) : (t.submitJob job).pending = t.pending := by
  rw [submitJob_eq]
  exact pending_congr rfl

theorem submitJob_fetch (job : Job) :
    (t.submitJob job).dispatcher.fetch = t.dispatcher.fetch ∧ (t.submitJob job).openings = t.openings := by
  rw [submitJob_eq]
  exact ⟨rfl, rfl⟩

theorem scheduleFetch_openings (n : Nat) : (t.scheduleFetch n).openings = t.openings := by
  rcases scheduleFetch_cases (t := t) n with same | queued
  · rw [same]
  · rw [queued]
    rfl

theorem not_fetching_delivered (listeners : List Nat) (service : ServiceKey) (instances : Instances)
    (caller : Caller) (n : Nat) (key : ServiceKey) :
    .fetching caller n key ∉ listeners.map fun l => Happening.delivered l service instances := by
  simp

theorem FetchChange.scheduled {e : Event} {turn : Turn Unit} (known : u.subscriptions[n]? = some s)
    (after : turn.after.dispatcher.fetch = (u.scheduleFetch n).dispatcher.fetch)
    (subscriptions : turn.after.subscriptions = (u.scheduleFetch n).subscriptions)
    (openings : turn.after.openings = t.openings) (lane : u.dispatcher.fetch = t.dispatcher.fetch)
    (pending : u.pending = t.pending)
    (silent : ∀ caller n service, .fetching caller n service ∉ turn.happenings)
    (unasked : e.answer? = none) : FetchChange t e turn := by
  have flags : turn.after.pending = (u.scheduleFetch n).pending := pending_congr subscriptions
  rw [scheduleFetch_eq known] at after flags
  split at after
  · next unchanged =>
    rw [if_pos unchanged] at flags
    exact .still (after.trans lane) openings (flags.trans pending) silent (by simp [unasked])
  · next changed =>
    rw [if_neg changed] at flags
    have unset : u.pending n = false := by
      simp only [Bool.or_eq_true, not_or, Bool.not_eq_true] at changed
      rw [pending_of_known known, changed.1]
    rw [pending] at unset
    refine .queued unset ?_ openings ?_ silent unasked
    · rw [after, ← lane]
      rfl
    · intro m
      rw [flags, enqueueFetch, pending_modify]
      split
      · next at_n =>
        subst at_n
        simp [occupy, known]
      · rw [← pending]
        rfl

theorem FetchChange.closing {e : Event} (lane : u.dispatcher.fetch = t.dispatcher.fetch)
    (openings : u.openings = t.openings) (pending : u.pending = t.pending)
    (unasked : e.answer? = none) (number : Nat) (order : List ServiceKey) :
    FetchChange t e (u.continueClosing number order) := by
  have frame := closeNext_frame (t := u) order
  have flags : (u.closeNext order).1.pending = t.pending := by
    apply closeNext_keeps (fun u => u.pending = t.pending) _ order pending
    intro v service n s _ same
    exact pending_remove.trans same
  have same : (u.closeNext order).1.dispatcher.fetch = t.dispatcher.fetch := by
    rw [frame]
    exact lane
  have still : (u.closeNext order).1.openings = t.openings := by
    rw [frame]
    exact openings
  rcases continueClosing_cases (t := u) number order with ⟨service, left, _, waits⟩ | ⟨_, ends⟩
  · rw [waits]
    exact .still same still flags (by simp) (by simp [unasked])
  · rw [ends]
    simp only [quietly, endClosing]
    split
    · exact .still same still flags (by simp) (by simp [unasked])
    · exact .still same still flags (by simp) (by simp [unasked])

theorem not_calling_of_ignored {e : Event} (ignores : t.Ignores e) {caller : Caller}
    {fetched? : Option Instances} (answer : e.answer? = some (caller, fetched?)) :
    ¬t.Calling n caller := by
  cases e with
  | fetchReturned _ | fetchBrokeOff =>
    cases answer
    exact ignores n
  | firstFetchReturned listener _ | firstFetchBrokeOff listener =>
    cases answer
    exact fun waiting => ignores _ waiting rfl
  | _ => cases answer

theorem Step.fetching {e : Event} {turn : Turn Unit} (step : Step t e turn) : FetchChange t e turn := by
  -- Most steps are of no concern to fetches.
  have still {e : Event} {turn : Turn Unit} (unasked : e.answer? = none)
      (lane : turn.after.dispatcher.fetch = t.dispatcher.fetch)
      (openings : turn.after.openings = t.openings) (pending : turn.after.pending = t.pending)
      (silent : ∀ caller n service, .fetching caller n service ∉ turn.happenings) :
      FetchChange t e turn :=
    .still lane openings pending silent (by simp [unasked])
  cases step with
  | ignored ignores =>
    exact .still rfl rfl rfl (by simp [quietly]) fun _ _ _ answer => not_calling_of_ignored ignores answer
  | @joined _ n s _ _ =>
    refine still rfl rfl rfl (pending_modify_same (f := fun s => { s with listeners := _ }) fun _ => rfl) ?_
    cases known : s.snapshot? <;> simp [Turn.forget, join, known]
  | opened _ _ => exact .opened
  | left _ _ _ => exact still rfl rfl rfl (pending_modify_same fun _ => rfl) (by simp [quietly])
  | @removed _ listener n _ _ _ _ _ =>
    refine still rfl rfl rfl ?_ (by simp [quietly])
    exact pending_remove.trans (pending_modify_same fun _ => rfl)
  | @cancelled _ listener n _ _ _ _ _ =>
    have lanes := submitJob_fetch (t := ((t.dismiss n listener).remove n).2)
    refine still rfl (lanes _).1 (lanes _).2 ?_ (by simp [quietly])
    exact (pending_submitJob _).trans (pending_remove.trans (pending_modify_same fun _ => rfl))
  | refreshed found =>
    exact .scheduled (subscription_of_current? found).1 rfl rfl (scheduleFetch_openings _) rfl rfl
      (by simp [quietly]) rfl
  | watchStarted _ _ _ _ => exact still rfl rfl rfl rfl (by simp)
  | watchSkipped _ _ _ _ => exact still rfl rfl rfl rfl (by simp [quietly])
  | cancelStarted _ _ => exact still rfl rfl rfl rfl (by simp)
  | fetchStarted free head known current => exact .began free head known current
  | fetchSkipped free head known removed => exact .skipped free head known removed
  | @watchRegistered n _ s _ known _ =>
    have marked : (t.markRegistered n).subscriptions[n]? = some { s with registered := true } := by
      simp [markRegistered, modify_getElem?, known]
    exact .scheduled marked rfl rfl (scheduleFetch_openings _) rfl (pending_modify_same fun _ => rfl)
      (by simp) rfl
  | watchOutlived _ _ _ => exact still rfl rfl rfl rfl (by simp)
  | watchRetried _ live =>
    rw [retryWatch_eq live]
    exact still rfl rfl rfl rfl (by simp)
  | watchGivenUp _ _ => exact still rfl rfl rfl rfl (by simp [quietly])
  | cancelReturned _ => exact still rfl rfl rfl rfl (by simp [quietly])
  | fetchPublished running _ _ =>
    exact .ended running rfl rfl rfl (pending_modify_same fun _ => rfl) (not_fetching_delivered _ _ _)
  | fetchFruitless running _ _ => exact .ended running rfl rfl rfl rfl (by simp [quietly])
  | fetchBrokeOff running => exact .ended running rfl rfl rfl rfl (by simp [quietly])
  | @openingPublished o s instances waiting _ _ =>
    have lanes := submitJob_fetch (t := (t.settle o.listener).keep o.subscription instances)
    refine .settled waiting rfl (lanes _).1 (lanes _).2 ?_ (not_fetching_delivered _ _ _)
    exact (pending_submitJob _).trans (pending_modify_same fun _ => rfl)
  | @openingFruitless o _ _ waiting _ _ =>
    have lanes := submitJob_fetch (t := t.settle o.listener)
    exact .settled waiting rfl (lanes _).1 (lanes _).2 (pending_submitJob _) (by simp [quietly])
  | openingBrokeOff waiting => exact .settled waiting rfl rfl rfl rfl (by simp [quietly])
  | @retried w n attempt _ _ =>
    have lanes := submitJob_fetch (t := t.forget w.ticket)
    exact still rfl (lanes _).1 (lanes _).2 (pending_submitJob _) (by simp [quietly])
  | closed order =>
    exact FetchChange.closing (t := t) (e := .close order)
      (u := { t with nextClosing := t.nextClosing + 1 }) rfl rfl rfl rfl _ order
  | @closedOn c _ =>
    exact FetchChange.closing (t := t) (e := .closeReturned c.number)
      (u := { t with closings := t.closings.filter fun d => d.number ≠ c.number }) rfl rfl rfl rfl _ _
  | shut => exact still rfl rfl rfl rfl (by simp [quietly])
  | destroyed _ => exact still rfl rfl rfl rfl (by simp [quietly])
  | @drained order _ _ =>
    exact FetchChange.closing (t := t) (e := .drained order)
      (u := { t with destruction := .closing t.nextClosing, nextClosing := t.nextClosing + 1 })
      rfl rfl rfl rfl _ _

section Calls

variable {e : Event} {turn : Turn Unit} {caller : Caller} {service : ServiceKey}

theorem FetchChange.begins (change : FetchChange t e turn)
    (begun : .fetching caller n service ∈ turn.happenings) :
    turn.after.Calling n caller ∧ e.answer? = none := by
  cases change with
  | still _ _ _ silent _ => exact absurd begun (silent _ _ _)
  | queued _ _ _ _ silent _ => exact absurd begun (silent _ _ _)
  | opened =>
    cases List.mem_singleton.mp begun
    exact ⟨by simp [Calling, Turn.forget, openFor], rfl⟩
  | began _ _ _ _ =>
    cases List.mem_singleton.mp begun
    exact ⟨rfl, rfl⟩
  | skipped _ _ _ _ => cases begun
  | ended _ _ _ _ _ silent => exact absurd begun (silent _ _ _)
  | settled _ _ _ _ _ silent => exact absurd begun (silent _ _ _)

theorem calling_congr (lane : u.dispatcher.fetch.running = t.dispatcher.fetch.running)
    (openings : u.openings = t.openings) : u.Calling n caller ↔ t.Calling n caller := by
  cases caller <;> simp [Calling, lane, openings]

theorem FetchChange.carries (change : FetchChange t e turn) (calling : t.Calling n caller)
    (unanswered : ∀ fetched?, e.answer? ≠ some (caller, fetched?)) : turn.after.Calling n caller := by
  cases change with
  | still lane openings _ _ _ => exact (calling_congr (by rw [lane]) openings).mpr calling
  | queued _ lane openings _ _ _ => exact (calling_congr (by rw [lane]) openings).mpr calling
  | opened =>
    cases caller with
    | lane => exact calling
    | subscriber listener => exact List.mem_append_left _ calling
    | closer _ => exact calling
  | began free _ _ _ =>
    cases caller with
    | lane => simp [Calling, free] at calling
    | subscriber listener => exact calling
    | closer _ => exact calling
  | skipped free _ _ _ =>
    cases caller with
    | lane => simp [Calling, free] at calling
    | subscriber listener => exact calling
    | closer _ => exact calling
  | ended _ answer lane openings _ _ =>
    cases caller with
    | lane => exact absurd answer (unanswered _)
    | subscriber listener =>
      rw [Calling, openings]
      exact calling
    | closer _ => exact calling
  | @settled _ _ o _ _ answer lane openings _ _ =>
    cases caller with
    | lane =>
      rw [Calling, lane]
      exact calling
    | subscriber listener =>
      have different : listener ≠ o.listener := by
        rintro rfl
        exact unanswered _ answer
      rw [Calling, openings]
      exact List.mem_filter.mpr ⟨calling, by simpa using different⟩
    | closer _ => exact calling

theorem FetchChange.calling (change : FetchChange t e turn) (calling : turn.after.Calling n caller) :
    (t.Calling n caller ∧ ∀ fetched?, e.answer? ≠ some (caller, fetched?)) ∨
      ∃ service, .fetching caller n service ∈ turn.happenings := by
  cases change with
  | still lane openings _ _ unasked =>
    have before := (calling_congr (by rw [lane]) openings).mp calling
    exact .inl ⟨before, fun fetched? answer => unasked _ _ _ answer before⟩
  | queued _ lane openings _ _ unasked =>
    exact .inl ⟨(calling_congr (by rw [lane]) openings).mp calling, by simp [unasked]⟩
  | @opened service =>
    cases caller with
    | lane => exact .inl ⟨calling, by simp [Event.answer?]⟩
    | subscriber listener =>
      rcases List.mem_append.mp calling with before | new
      · exact .inl ⟨before, by simp [Event.answer?]⟩
      · cases List.mem_singleton.mp new
        exact .inr ⟨service, List.mem_singleton_self _⟩
    | closer _ => cases calling
  | @began m rest s _ _ _ _ =>
    cases caller with
    | lane =>
      cases calling
      exact .inr ⟨s.service, List.mem_singleton_self _⟩
    | subscriber listener => exact .inl ⟨calling, by simp [Event.answer?]⟩
    | closer _ => cases calling
  | skipped _ _ _ _ =>
    cases caller with
    | lane => cases calling
    | subscriber listener => exact .inl ⟨calling, by simp [Event.answer?]⟩
    | closer _ => cases calling
  | ended _ answer lane openings _ _ =>
    cases caller with
    | lane =>
      rw [Calling, lane] at calling
      cases calling
    | subscriber listener =>
      rw [Calling, openings] at calling
      exact .inl ⟨calling, by simp [answer]⟩
    | closer _ => cases calling
  | @settled _ _ o _ _ answer lane openings _ _ =>
    cases caller with
    | lane =>
      rw [Calling, lane] at calling
      exact .inl ⟨calling, by simp [answer]⟩
    | subscriber listener =>
      rw [Calling, openings] at calling
      obtain ⟨before, different⟩ := List.mem_filter.mp calling
      have different : listener ≠ o.listener := by simpa using different
      refine .inl ⟨before, ?_⟩
      simp [answer, Ne.symm different]
    | closer _ => cases calling

theorem Numbered.brought?_of_calling (numbered : t.Numbered) (calling : t.Calling n caller)
    {instances : Instances} (answer : e.answer? = some (caller, some instances)) :
    t.brought? e = some (n, instances) := by
  cases e with
  | fetchReturned fetched? =>
    cases answer
    exact brought?_lane calling instances
  | firstFetchReturned listener fetched? =>
    cases answer
    exact numbered.brought?_opening calling instances
  | _ => cases answer

theorem calling_of_brought? {instances : Instances} (brought : t.brought? e = some (n, instances)) :
    ∃ caller, t.Calling n caller ∧ e.answer? = some (caller, some instances) := by
  cases e with
  | fetchReturned fetched? =>
    cases fetched? with
    | none => cases brought
    | some x =>
      simp only [brought?] at brought
      split at brought
      · next m running =>
        cases brought
        exact ⟨.lane, running, rfl⟩
      · cases brought
  | firstFetchReturned listener fetched? =>
    cases fetched? with
    | none => cases brought
    | some x =>
      obtain ⟨o, found, same⟩ := Option.map_eq_some_iff.mp brought
      cases same
      have listens : o.listener = listener := by simpa using List.find?_some found
      subst listens
      exact ⟨.subscriber o.listener, List.mem_of_find?_eq_some found, rfl⟩
  | _ => cases brought

end Calls

end Topology

end TrafficControl
