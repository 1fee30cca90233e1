import TrafficControl.Proofs.Topology.Hearing

namespace TrafficControl

def Moment.Fetches (m : Moment) (caller : Caller) (n : Nat) : Prop :=
  ∃ service, .fetching caller n service ∈ m.happenings

/-- A call for the instances of a subscription, from the moment that begins it to the first that
answers its caller. -/
structure FetchSpan (moments : List Moment) (caller : Caller) (n begun ended : Nat)
    (fetched? : Option Instances) : Prop where
  order : begun < ended
  begins : ∃ m, moments[begun]? = some m ∧ m.Fetches caller n
  ends : ∃ m, moments[ended]? = some m ∧ m.event.answer? = some (caller, fetched?)
  unanswered : ∀ i m, begun < i → i < ended → moments[i]? = some m →
    ∀ fetched?, m.event.answer? ≠ some (caller, fetched?)

namespace Topology

variable {t : Topology} {events : List Event} {n : Nat}

theorem Coherent.carried (coherent : t.Coherent) {caller : Caller} {begun ended : Nat} {m : Moment}
    (at_begun : (t.moments events)[begun]? = some m) (begins : m.Fetches caller n)
    (order : begun < ended) (bound : ended ≤ events.length)
    (unanswered : ∀ i m, begun < i → i < ended → (t.moments events)[i]? = some m →
      ∀ fetched?, m.event.answer? ≠ some (caller, fetched?)) :
    (t.run (events.take ended)).Calling n caller := by
  obtain ⟨e, at_e, rfl⟩ := moment_iff.mp at_begun
  obtain ⟨service, begins⟩ := begins
  have first : (t.run (events.take (begun + 1))).Calling n caller := by
    rw [run_take_succ at_e]
    exact (((coherent.run _).fetching e).begins begins).1
  have all := holds_from events
    (fun p => p ≤ ended → (t.run (events.take p)).Calling n caller) (begun + 1) (fun _ => first)
    (fun p e reached at_p calling before => by
      rw [run_take_succ at_p]
      refine ((coherent.run _).fetching e).carries (calling (by omega)) ?_
      exact unanswered p _ (by omega) (by omega) (moment_iff.mpr ⟨e, at_p, rfl⟩))
  exact all ended order bound (Nat.le_refl _)

theorem Coherent.begun_of_calling (coherent : t.Coherent) (idle : ∀ n caller, ¬t.Calling n caller)
    {caller : Caller} {p : Nat} (bound : p ≤ events.length)
    (calling : (t.run (events.take p)).Calling n caller) :
    ∃ begun m, begun < p ∧ (t.moments events)[begun]? = some m ∧ m.Fetches caller n ∧
      ∀ i m, begun < i → i < p → (t.moments events)[i]? = some m →
        ∀ fetched?, m.event.answer? ≠ some (caller, fetched?) := by
  induction p with
  | zero => exact absurd calling (idle n caller)
  | succ p ih =>
    obtain ⟨e, at_p⟩ : ∃ e, events[p]? = some e := ⟨_, List.getElem?_eq_getElem bound⟩
    rw [run_take_succ at_p] at calling
    rcases ((coherent.run _).fetching e).calling calling with ⟨before, unanswered⟩ | ⟨service, begins⟩
    · obtain ⟨begun, m, order, at_begun, begins, earlier⟩ := ih (by omega) before
      refine ⟨begun, m, by omega, at_begun, begins, ?_⟩
      intro i k above below at_i
      by_cases at_end : i = p
      · subst at_end
        obtain ⟨e', at_e', rfl⟩ := moment_iff.mp at_i
        rw [at_p] at at_e'
        cases at_e'
        exact unanswered
      · exact earlier i k above (by omega) at_i
    · refine ⟨p, _, Nat.lt_succ_self p, moment_iff.mpr ⟨e, at_p, rfl⟩, ⟨service, begins⟩, ?_⟩
      intro i m above below
      omega

theorem Coherent.brought (coherent : t.Coherent) {caller : Caller} {begun ended : Nat}
    {instances : Instances} {m : Moment}
    (span : FetchSpan (t.moments events) caller n begun ended (some instances))
    (at_end : (t.moments events)[ended]? = some m) :
    m.before.Calling n caller ∧ m.before.brought? m.event = some (n, instances) := by
  obtain ⟨first, at_begun, begins⟩ := span.begins
  obtain ⟨last, also, answer⟩ := span.ends
  rw [at_end] at also
  cases also
  obtain ⟨e, at_e, bound, rfl⟩ := moment_at at_end
  have calling := coherent.carried at_begun begins span.order (Nat.le_of_lt bound) span.unanswered
  exact ⟨calling, (coherent.run _).numbered.brought?_of_calling calling answer⟩

theorem Queued.after_refresh (queued : t.Queued) (live : t.isShutdown = false) {service : ServiceKey}
    {s : Subscription} (found : t.current? service = some (n, s)) :
    .fetch n ∈ (t.turn (.refresh service)).after.dispatcher.fetch.queue := by
  have known := (subscription_of_current? found).1
  have refreshed : (t.turn (.refresh service)).after = t.scheduleFetch n := by
    simp [turn, refresh, found, Turn.forget, quietly]
  rw [refreshed, scheduleFetch_eq known, live, Bool.or_false]
  split
  · next pending =>
    have counted := queued n
    rw [pending_of_known known, pending] at counted
    apply List.count_pos_iff.mp
    rw [counted]
    exact Nat.zero_lt_one
  · exact List.mem_append_right _ (List.mem_singleton_self _)

theorem Coherent.refetched (coherent : t.Coherent) {reported : Nat} {change : Moment}
    {service : ServiceKey} {s : Subscription}
    (at_report : (t.moments events)[reported]? = some change) (report : change.event = .refresh service)
    (live : change.before.isShutdown = false)
    (found : change.before.current? service = some (n, s))
    (idle : (t.run events).dispatcher.fetch.isIdle = true) :
    (t.run events).isCurrent n = false ∨
      ∃ begun m, reported < begun ∧ (t.moments events)[begun]? = some m ∧ m.Fetches .lane n := by
  obtain ⟨e, at_e, bound, rfl⟩ := moment_at at_report
  have report : e = .refresh service := report
  subst report
  have known : (((t.run (events.take reported)).feed? n)).isSome = true := by
    simp [feed?_of_current? found]
  have all := holds_from events
    (fun p => ((t.run (events.take p)).feed? n).isSome = true ∧
      (.fetch n ∈ (t.run (events.take p)).dispatcher.fetch.queue ∨
        (t.run (events.take p)).isCurrent n = false ∨
        ∃ begun m, reported < begun ∧ (t.moments events)[begun]? = some m ∧ m.Fetches .lane n))
    (reported + 1)
    (by
      rw [run_take_succ at_e]
      obtain ⟨f, before⟩ := Option.isSome_iff_exists.mp known
      obtain ⟨g, after, _⟩ := ((coherent.run _).change (.refresh service)).evolves before
      exact ⟨by simp [after], .inl ((coherent.run _).queued.after_refresh live found)⟩)
    (fun p e reached at_p holds => by
      obtain ⟨known, progress⟩ := holds
      have step := (coherent.run (events.take p)).change e
      obtain ⟨f, before⟩ := Option.isSome_iff_exists.mp known
      obtain ⟨g, after, _⟩ := step.evolves before
      rw [run_take_succ at_p]
      refine ⟨by simp [after], ?_⟩
      rcases progress with due | gone | begun
      · rcases ((coherent.run _).fetching e).due due with waits | begins | gone
        · exact .inl waits
        · exact .inr (.inr ⟨p, _, reached, moment_iff.mpr ⟨e, at_p, rfl⟩, begins⟩)
        · exact .inr (.inl (step.fades known gone).2)
      · exact .inr (.inl (step.fades known gone).2)
      · exact .inr (.inr begun))
  have final := (all events.length bound (Nat.le_refl _)).2
  rw [List.take_length, (Lane.isIdle_iff.mp idle).2] at final
  rcases final with impossible | gone | begun
  · cases impossible
  · exact .inl gone
  · exact .inr begun

theorem FetchChange.opening {e : Event} {turn : Turn Unit} (change : FetchChange t e turn)
    {o : Opening} (waiting : o ∈ turn.after.openings) :
    o ∈ t.openings ∨
      o = ⟨t.nextListener, t.subscriptions.length⟩ ∧
        ∃ service, turn = (t.openFor service).forget := by
  cases change with
  | still _ openings _ _ _ => exact .inl (openings ▸ waiting)
  | queued _ _ openings _ _ _ => exact .inl (openings ▸ waiting)
  | @opened service =>
    rcases List.mem_append.mp waiting with old | new
    · exact .inl old
    · exact .inr ⟨List.mem_singleton.mp new, service, rfl⟩
  | began _ _ _ _ => exact .inl waiting
  | skipped _ _ _ _ => exact .inl waiting
  | ended _ _ _ openings _ _ => exact .inl (openings ▸ waiting)
  | settled _ _ _ openings _ _ => exact .inl (List.mem_filter.mp (openings ▸ waiting)).1

theorem FetchChange.no_opening {e : Event} {turn : Turn Unit} (change : FetchChange t e turn)
    (known : (t.feed? n).isSome = true) (unopened : ∀ o ∈ t.openings, o.subscription ≠ n) :
    ∀ o ∈ turn.after.openings, o.subscription ≠ n := by
  intro o waiting
  rcases change.opening waiting with old | ⟨rfl, _⟩
  · exact unopened o old
  · rintro rfl
    rw [feed?_length] at known
    cases known

theorem Coherent.no_opening (coherent : t.Coherent) {service : ServiceKey} {s : Subscription}
    (found : t.current? service = some (n, s)) (registered : s.registered = true) :
    ∀ o ∈ t.openings, o.subscription ≠ n := by
  intro o waiting same
  have watched := (isRegistered_of_current found).trans registered
  apply coherent.ledger.arrived (holds found) watched
  exact WatchLedger.mem_underway.mpr (.inl (same ▸ List.mem_map_of_mem waiting))

theorem FetchChange.begins_lane {e : Event} {turn : Turn Unit} {caller : Caller} {service : ServiceKey}
    (change : FetchChange t e turn) (known : (t.feed? n).isSome = true)
    (begun : .fetching caller n service ∈ turn.happenings) : caller = .lane := by
  cases change with
  | still _ _ _ silent _ => exact absurd begun (silent _ _ _)
  | queued _ _ _ _ silent _ => exact absurd begun (silent _ _ _)
  | opened =>
    cases List.mem_singleton.mp begun
    rw [feed?_length] at known
    cases known
  | began _ _ _ _ =>
    cases List.mem_singleton.mp begun
    rfl
  | skipped _ _ _ _ => cases begun
  | ended _ _ _ _ _ silent => exact absurd begun (silent _ _ _)
  | settled _ _ _ _ _ silent => exact absurd begun (silent _ _ _)

/-- Brought by a fetch that began no earlier than a given moment and has ended by another. -/
def BroughtSince (moments : List Moment) (n begun ended : Nat) (instances : Instances) : Prop :=
  ∃ caller first last, begun ≤ first ∧ last ≤ ended ∧
    FetchSpan moments caller n first last (some instances)

section Lane

variable {reported begun ended : Nat}

theorem Coherent.span_of_brought (coherent : t.Coherent) (quiet : ∀ n caller, ¬t.Calling n caller)
    {p : Nat} {e : Event} {instances : Instances} (at_p : events[p]? = some e)
    (brought : (t.run (events.take p)).brought? e = some (n, instances)) :
    ∃ caller first, (t.run (events.take p)).Calling n caller ∧
      FetchSpan (t.moments events) caller n first p (some instances) := by
  obtain ⟨caller, calling, answer⟩ := calling_of_brought? brought
  have bound : p < events.length := (List.getElem?_eq_some_iff.mp at_p).1
  obtain ⟨first, k, order, at_first, begins, unanswered⟩ :=
    coherent.begun_of_calling quiet (Nat.le_of_lt bound) calling
  exact ⟨caller, first, calling, order, ⟨k, at_first, begins⟩,
    ⟨_, moment_iff.mpr ⟨e, at_p, rfl⟩, answer⟩, unanswered⟩

theorem Coherent.published_span (coherent : t.Coherent) (quiet : ∀ n caller, ¬t.Calling n caller)
    {p : Nat} {e : Event} {instances : Instances} (at_p : events[p]? = some e)
    (settled : ∀ o ∈ (t.run (events.take p)).openings, o.subscription ≠ n)
    (published : (t.run (events.take p)).published? e n = some instances) :
    ∃ first, FetchSpan (t.moments events) .lane n first p (some instances) := by
  obtain ⟨caller, first, calling, span⟩ :=
    coherent.span_of_brought quiet at_p (published?_eq_some.mp published).1
  cases caller with
  | lane => exact ⟨first, span⟩
  | subscriber listener => exact absurd rfl (settled _ calling)
  | closer _ => cases calling

theorem Coherent.lane_in_turn (coherent : t.Coherent) {first last m : Nat}
    {fetched? : Option Instances} {other? : Option Instances}
    (span : FetchSpan (t.moments events) .lane n begun ended fetched?)
    (later : FetchSpan (t.moments events) .lane m first last other?) (after : ended < last) :
    begun ≤ first := by
  obtain ⟨k, at_end, answer⟩ := span.ends
  obtain ⟨b, at_first, service, begins⟩ := later.begins
  obtain ⟨e, at_e, rfl⟩ := moment_iff.mp at_first
  have unasked := (((coherent.run _).fetching e).begins begins).2
  rcases Nat.lt_trichotomy first ended with before | rfl | behind
  · exact absurd answer (later.unanswered ended k before after at_end fetched?)
  · rw [at_first] at at_end
    cases at_end
    rw [show e.answer? = none from unasked] at answer
    cases answer
  · have := span.order
    omega

theorem Coherent.fresh (coherent : t.Coherent) (quiet : ∀ n caller, ¬t.Calling n caller)
    {instances : Instances} (span : FetchSpan (t.moments events) .lane n begun ended (some instances))
    {m : Moment} (at_end : (t.moments events)[ended]? = some m) (current : m.before.isCurrent n = true)
    (settled : ∀ o ∈ m.before.openings, o.subscription ≠ n) :
    ∀ p, ended < p → p ≤ events.length →
      ∃ g, (t.run (events.take p)).feed? n = some g ∧
        ∃ x, g.snapshot? = some x ∧ ∃ last, last < p ∧ BroughtSince (t.moments events) n begun last x := by
  obtain ⟨e, at_e, rfl⟩ := moment_iff.mp at_end
  have brought := (coherent.brought span at_end).2
  obtain ⟨f, known⟩ : ∃ f, (t.run (events.take ended)).feed? n = some f := by
    simp only [isCurrent_eq] at current
    cases known : (t.run (events.take ended)).feed? n with
    | some f => exact ⟨f, rfl⟩
    | none => simp [known] at current
  have all := holds_from events
    (fun p => (∀ o ∈ (t.run (events.take p)).openings, o.subscription ≠ n) ∧
      ∃ g, (t.run (events.take p)).feed? n = some g ∧
        ∃ x, g.snapshot? = some x ∧ ∃ last, last < p ∧ BroughtSince (t.moments events) n begun last x)
    (ended + 1)
    (by
      rw [run_take_succ at_e]
      obtain ⟨g, after, _, _, snapshot, _⟩ := ((coherent.run _).change e).evolves known
      have published : (t.run (events.take ended)).published? e n = some instances := by
        rw [published?_of_brought brought]
        simp [current]
      rw [published] at snapshot
      exact ⟨((coherent.run _).fetching e).no_opening (by simp [known]) settled, g, after, instances,
        snapshot, ended, Nat.lt_succ_self _, .lane, begun, ended, Nat.le_refl _, Nat.le_refl _, span⟩)
    (fun p e reached at_p holds => by
      obtain ⟨settled, f, known, x, snapshot, last, before, since⟩ := holds
      rw [run_take_succ at_p]
      refine ⟨((coherent.run _).fetching e).no_opening (by simp [known]) settled, ?_⟩
      obtain ⟨g, after, _, _, changed, _⟩ := ((coherent.run _).change e).evolves known
      refine ⟨g, after, ?_⟩
      cases published : (t.run (events.take p)).published? e n with
      | none =>
        rw [published, snapshot] at changed
        exact ⟨x, changed, last, Nat.lt_succ_of_lt before, since⟩
      | some y =>
        rw [published] at changed
        -- The lane calls in turn, so what it brings now it has asked for after the first call.
        obtain ⟨first, later⟩ := coherent.published_span quiet at_p settled published
        exact ⟨y, changed, p, Nat.lt_succ_self _, .lane, first, p,
          coherent.lane_in_turn span later reached, Nat.le_refl _, later⟩)
  intro p above bound
  exact (all p above bound).2

theorem Coherent.settled_since (coherent : t.Coherent) {change : Moment} {service : ServiceKey}
    {s : Subscription} (at_report : (t.moments events)[reported]? = some change)
    (found : change.before.current? service = some (n, s)) (registered : s.registered = true) :
    ∀ p, reported ≤ p → p ≤ events.length →
      ((t.run (events.take p)).feed? n).isSome = true ∧
        ∀ o ∈ (t.run (events.take p)).openings, o.subscription ≠ n := by
  obtain ⟨e, at_e, rfl⟩ := moment_iff.mp at_report
  apply holds_from
  · exact ⟨by simp [feed?_of_current? found], (coherent.run _).no_opening found registered⟩
  · intro p e _ at_p holds
    obtain ⟨known, settled⟩ := holds
    obtain ⟨f, before⟩ := Option.isSome_iff_exists.mp known
    obtain ⟨g, after, _⟩ := ((coherent.run (events.take p)).change e).evolves before
    rw [run_take_succ at_p]
    exact ⟨by simp [after], ((coherent.run _).fetching e).no_opening known settled⟩

end Lane

theorem nobody_calling (retry : RetryPolicy) (includeBroken : Bool) (n : Nat) (caller : Caller) :
    ¬(empty retry includeBroken).Calling n caller := by
  cases caller <;> simp [Topology.empty, Calling, Dispatcher.empty, Lane.empty]

/-- Whether a fetch is pending is whether one is queued, and none is queued twice. A report about a
service is followed by a fetch that begins after it, as long as the subscription is there; and from
the end of a successful one on, the subscription has and hands out only what this fetch or a later
one has brought. -/
theorem changes_are_fetched (retry : RetryPolicy) (includeBroken : Bool) (events : List Event) :
    let start := empty retry includeBroken
    let t := start.run events
    let moments := start.moments events
    (∀ (n : Nat) (s : Subscription), t.subscriptions[n]? = some s →
      (s.fetchPending = true ↔ t.dispatcher.fetch.queue.count (.fetch n) = 1) ∧
        t.dispatcher.fetch.queue.count (.fetch n) ≤ 1) ∧
    ∀ (reported : Nat) (change : Moment) (service : ServiceKey) (n : Nat) (s : Subscription),
      moments[reported]? = some change → change.event = .refresh service →
      change.before.isShutdown = false → change.before.current? service = some (n, s) →
      s.registered = true →
      (t.dispatcher.fetch.isIdle = true → t.isCurrent n = false ∨
        ∃ begun m, reported < begun ∧ moments[begun]? = some m ∧ m.Fetches .lane n) ∧
      ∀ (caller : Caller) (begun ended : Nat) (instances : Instances) (last : Moment),
        reported < begun → FetchSpan moments caller n begun ended (some instances) →
        moments[ended]? = some last → last.before.isCurrent n = true →
        ∀ (p : Nat) (m : Moment), ended ≤ p → moments[p]? = some m →
          (∃ s x, m.after.subscriptions[n]? = some s ∧ s.snapshot? = some x ∧
            BroughtSince moments n begun p x) ∧
          ∀ (s : Subscription) (listener : Nat) (key : ServiceKey) (x : Instances),
            m.after.subscriptions[n]? = some s → listener ∈ s.listeners →
            .delivered listener key x ∈ m.happenings → BroughtSince moments n begun p x := by
  intro start t moments
  have coherent := Coherent.empty retry includeBroken
  have quiet := nobody_calling retry includeBroken
  refine ⟨?_, ?_⟩
  · intro n s known
    rw [(coherent.run events).queued n, pending_of_known known]
    cases s.fetchPending <;> simp
  · intro reported change service n s at_report report live found registered
    refine ⟨coherent.refetched at_report report live found, ?_⟩
    intro caller begun ended instances last later span at_end current p m reached at_p
    have since := coherent.settled_since at_report found registered
    -- Only the lane calls for a subscription that has had its first instances.
    have lane : caller = .lane := by
      obtain ⟨first, at_begun, key, begins⟩ := span.begins
      obtain ⟨e, at_e, bound, rfl⟩ := moment_at at_begun
      have known := (since begun (Nat.le_of_lt later) (Nat.le_of_lt bound)).1
      exact ((coherent.run _).fetching e).begins_lane known begins
    subst lane
    obtain ⟨e, at_e, bound, rfl⟩ := moment_at at_p
    have settled : ∀ o ∈ last.before.openings, o.subscription ≠ n := by
      obtain ⟨e, at_e, bound, rfl⟩ := moment_at at_end
      have := span.order
      exact (since ended (by omega) (Nat.le_of_lt bound)).2
    obtain ⟨g, after, x, snapshot, last, before, caller, first, final, early, late, brought⟩ :=
      coherent.fresh quiet span at_end current settled (p + 1) (Nat.lt_succ_of_le reached) bound
    have brought : BroughtSince moments n begun p x :=
      ⟨caller, first, final, early, Nat.le_trans late (Nat.le_of_lt_succ before), brought⟩
    rw [run_take_succ at_e] at after
    have after : (Moment.mk (start.run (events.take p)) e).after.feed? n = some g := after
    refine ⟨?_, ?_⟩
    · obtain ⟨s, known, rfl⟩ := Option.map_eq_some_iff.mp after
      exact ⟨s, x, known, snapshot, brought⟩
    · intro s listener key y known member delivered
      have same : g = s.feed := by
        rw [feed?_of_known known] at after
        cases after
        rfl
      have told := ((coherent.run (events.take p)).change e).delivered (coherent.run _).rostered
        delivered after (by rwa [same])
      rw [snapshot] at told
      cases told
      exact brought

def reporting (service : ServiceKey) : List Event :=
  [.subscribe service, .firstFetchReturned 0 none, .start .registration, .registerReturned true,
    .start .fetch, .refresh service, .fetchReturned (some []), .start .fetch,
    .fetchReturned (some [default])]

theorem changes_are_fetched_reporting :
    let service : ServiceKey := ⟨"default", "pay"⟩
    let start := empty ⟨1, 1⟩ false
    let t := start.run (reporting service)
    t.dispatcher.fetch.isIdle = true ∧ t.isCurrent 0 = true ∧
      ∃ begun m, 5 < begun ∧ (start.moments (reporting service))[begun]? = some m ∧
        m.Fetches .lane 0 := by
  obtain ⟨_, fetched⟩ := changes_are_fetched ⟨1, 1⟩ false (reporting ⟨"default", "pay"⟩)
  have idle : ((empty ⟨1, 1⟩ false).run (reporting ⟨"default", "pay"⟩)).dispatcher.fetch.isIdle = true :=
    by decide
  refine ⟨idle, by decide, ?_⟩
  rcases (fetched 5 _ ⟨"default", "pay"⟩ 0 _ rfl rfl rfl rfl rfl).1 idle with gone | begun
  · cases gone
  · exact begun

end Topology

end TrafficControl
