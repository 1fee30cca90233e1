import TrafficControl.Proofs.Topology.Freshness

namespace TrafficControl

def Listening.listener? : Listening → Option Nat
  | .refused => none
  | .joined listener | .opening listener => some listener

namespace Topology

def publishedTo (moments : List Moment) (n listener : Nat) : List Instances :=
  moments.filterMap fun m =>
    if m.before.hears n listener = true then m.before.published? m.event n else none

variable {t : Topology} {n listener : Nat}

theorem instances?_eq (t : Topology) (service : ServiceKey) :
    t.instances? service =
      ((t.subscriptions.map Subscription.feed).findIdx? fun f =>
        f.isCurrent && decide (f.service = service)).bind fun n => (t.feed? n).bind Feed.snapshot? := by
  simp only [instances?, current?, List.findIdx?_map, Option.bind_assoc, feed?, Option.bind_map]
  rfl

theorem instances?_congr {u : Topology} (same : u.feed? = t.feed?) (service : ServiceKey) :
    u.instances? service = t.instances? service := by
  have feeds : u.subscriptions.map Subscription.feed = t.subscriptions.map Subscription.feed := by
    apply List.ext_getElem?
    intro m
    simpa [feed?] using congrFun same m
  rw [instances?_eq, instances?_eq, feeds, same]

theorem subscribe_listener {service : ServiceKey}
    (accepted : (t.subscribe service).result.listener? = some listener) :
    listener = t.nextListener ∧ ∃ n g, (t.subscribe service).after.feed? n = some g ∧
      g.isCurrent = true ∧ g.service = service ∧ listener ∈ g.listeners ∧
      g.snapshot? = t.instances? service := by
  unfold subscribe at accepted ⊢
  split at accepted
  · cases accepted
  · next live =>
    rw [if_neg live]
    cases found : t.current? service with
    | some pair =>
      obtain ⟨n, s⟩ := pair
      obtain ⟨known, current, same⟩ := subscription_of_current? found
      rw [found] at accepted
      cases accepted
      refine ⟨rfl, n, { s.feed with listeners := s.listeners ++ [t.nextListener] }, ?_, current, same,
        List.mem_append_right _ (List.mem_singleton_self _), ?_⟩
      · simp only [feed?_join, if_true, feed?_of_known known]
        rfl
      · simp [instances?, found, Subscription.feed]
    | none =>
      rw [found] at accepted
      cases accepted
      refine ⟨rfl, t.subscriptions.length, ⟨service, true, [t.nextListener], none⟩, ?_, rfl, rfl,
        List.mem_singleton_self _, ?_⟩
      · simp [feed?_openFor]
      · simp [instances?, found]

section Runs

variable {events more : List Event}

theorem Coherent.nextListener_le (coherent : t.Coherent) :
    t.nextListener ≤ (t.run events).nextListener := by
  induction events generalizing t with
  | nil => exact Nat.le_refl _
  | cons e rest ih => exact Nat.le_trans (coherent.change e).nextListener_le (ih (coherent.turn e))

theorem Coherent.unheard (coherent : t.Coherent) (later : (t.run events).nextListener ≤ listener) :
    heard listener (t.happenings events) = [] := by
  induction events generalizing t with
  | nil => rfl
  | cons e rest ih =>
    have next : (t.turn e).after.nextListener ≤ listener :=
      Nat.le_trans (coherent.turn e).nextListener_le later
    have now := (coherent.change e).unheard coherent.rostered next
    have afterwards := ih (coherent.turn e) later
    simp only [happenings] at afterwards
    simp only [happenings, moments, List.flatMap_cons, heard_append, afterwards, Moment.happenings,
      now, List.append_nil]

theorem Coherent.heard_eq (coherent : t.Coherent) (settled : t.Settled n listener) :
    heard listener (t.happenings events) = publishedTo (t.moments events) n listener := by
  induction events generalizing t with
  | nil => rfl
  | cons e rest ih =>
    have change := coherent.change e
    have now := change.heard_eq coherent.rostered settled
    have later := ih (coherent.turn e) (change.settled settled)
    simp only [happenings, publishedTo] at later
    simp only [happenings, publishedTo, moments, List.flatMap_cons, heard_append, later,
      Moment.happenings, now, List.filterMap_cons]
    split
    · cases t.published? e n <;> rfl
    · rfl

theorem Coherent.hears_since (coherent : t.Coherent) {joined : Nat}
    (settled : (t.run (events.take joined)).Settled n listener)
    (hearing : (t.run (events.take joined)).hears n listener = true) :
    ∀ p, joined ≤ p → p ≤ events.length →
      (t.run (events.take p)).Settled n listener ∧
        ((t.run (events.take p)).hears n listener = true ↔
          (t.run (events.take p)).isCurrent n = true ∧ ∀ q m, joined ≤ q → q < p →
            (t.moments events)[q]? = some m → ¬m.before.Releases m.event listener) := by
  apply holds_from
  · obtain ⟨f, known, current, _⟩ := hears_iff.mp hearing
    have alive : (t.run (events.take joined)).isCurrent n = true := by
      simp [isCurrent_eq, known, current]
    refine ⟨settled, fun _ => ⟨alive, fun q m above below => ?_⟩, fun _ => hearing⟩
    omega
  · intro p e reached at_p holds
    obtain ⟨settled, before⟩ := holds
    have change := (coherent.run (events.take p)).change e
    rw [run_take_succ at_p]
    refine ⟨change.settled settled, ?_⟩
    rw [change.hears_after (coherent.run _).rostered settled, before]
    constructor
    · rintro ⟨⟨_, stayed⟩, current, kept⟩
      refine ⟨current, fun q m above below at_q => ?_⟩
      by_cases last : q = p
      · subst last
        obtain ⟨e', at_e', rfl⟩ := moment_iff.mp at_q
        rw [at_p] at at_e'
        cases at_e'
        exact kept
      · exact stayed q m above (by omega) at_q
    · rintro ⟨current, stayed⟩
      refine ⟨⟨?_, fun q m above below => stayed q m above (Nat.lt_succ_of_lt below)⟩, current, ?_⟩
      · cases alive : (t.run (events.take p)).isCurrent n with
        | true => rfl
        | false =>
          rw [(change.fades settled.known alive).2] at current
          cases current
      · exact stayed p _ reached (Nat.lt_succ_self p) (moment_iff.mpr ⟨e, at_p, rfl⟩)

/-- What those on a list were told last is what their subscription has, and those who have not come
yet were told nothing. -/
structure Told (t : Topology) (told : List Happening) : Prop where
  latest : ∀ {n f listener}, t.feed? n = some f → listener ∈ f.listeners →
    (heard listener told).getLast? = f.snapshot?
  fresh : ∀ {listener}, t.nextListener ≤ listener → heard listener told = []

theorem Told.turn (coherent : t.Coherent) {told : List Happening} (kept : t.Told told) (e : Event) :
    (t.turn e).after.Told (told ++ (t.turn e).happenings) where
  latest := by
    intro n g listener after member
    rw [heard_append]
    rcases (coherent.change e).heard_after coherent.rostered after member with
      ⟨rfl, now⟩ | ⟨f, before, inside, now, snapshot⟩
    · rw [now, kept.fresh (Nat.le_refl _)]
      cases g.snapshot? <;> rfl
    · rw [now, snapshot]
      cases t.published? e n with
      | none => simpa using kept.latest before inside
      | some x => simp
  fresh := by
    intro listener later
    have change := coherent.change e
    rw [heard_append, change.unheard coherent.rostered later,
      kept.fresh (Nat.le_trans change.nextListener_le later), List.append_nil]

theorem Told.run (coherent : t.Coherent) {told : List Happening} (kept : t.Told told) :
    (t.run events).Told (told ++ t.happenings events) := by
  induction events generalizing t told with
  | nil => simpa [happenings, moments] using kept
  | cons e rest ih =>
    have later := ih (coherent.turn e) (kept.turn coherent e)
    simpa [happenings, moments, Moment.happenings] using later

theorem Coherent.heard_in_all (coherent : t.Coherent) {joined : Nat} {m : Moment}
    {service : ServiceKey} (at_joined : (t.moments events)[joined]? = some m)
    (request : m.event = .subscribe service)
    (accepted : (m.before.subscribe service).result.listener? = some listener) :
    ∃ n s, m.after.current? service = some (n, s) ∧
      heard listener (t.happenings events) =
        (m.before.instances? service).toList ++
          publishedTo ((t.moments events).drop (joined + 1)) n listener ∧
      ∀ p k, joined < p → (t.moments events)[p]? = some k →
        (k.before.hears n listener = true ↔ k.before.isCurrent n = true ∧
          ∀ q l, joined < q → q < p → (t.moments events)[q]? = some l →
            ¬l.before.Releases l.event listener) := by
  obtain ⟨e, at_e, bound, rfl⟩ := moment_at at_joined
  have request : e = .subscribe service := request
  subst request
  have before := coherent.run (events.take joined)
  have after := before.turn (.subscribe service)
  obtain ⟨new, n, g, known, current, same, member, snapshot⟩ := subscribe_listener accepted
  have known : ((t.run (events.take joined)).turn (.subscribe service)).after.feed? n = some g := known
  have settled := after.rostered.settled known member
  have hearing := hears_iff.mpr ⟨g, known, current, member⟩
  obtain ⟨s, at_n, rfl⟩ := Option.map_eq_some_iff.mp known
  have found := current?_of_current after.ledger at_n current
  rw [show s.service = service from same] at found
  refine ⟨n, s, found, ?_, ?_⟩
  · have unheard := coherent.unheard (Nat.le_of_eq new.symm)
    have welcomed := (before.change (.subscribe service)).welcomed before.rostered known (new ▸ member)
    rw [← new, snapshot] at welcomed
    rw [happenings_split at_e, heard_append, heard_append, unheard, welcomed, List.nil_append,
      moments_drop, run_take_succ at_e, after.heard_eq settled]
  · intro p k above at_p
    obtain ⟨e, at_e', below, rfl⟩ := moment_at at_p
    rw [← run_take_succ at_e] at settled hearing
    exact (coherent.hears_since settled hearing p above (Nat.le_of_lt below)).2

theorem Coherent.published_iff (coherent : t.Coherent) (quiet : ∀ n caller, ¬t.Calling n caller)
    {p : Nat} {m : Moment} (at_p : (t.moments events)[p]? = some m) {instances : Instances} :
    m.before.published? m.event n = some instances ↔
      m.before.isCurrent n = true ∧
        ∃ caller begun, FetchSpan (t.moments events) caller n begun p (some instances) := by
  rw [published?_eq_some, and_comm]
  refine and_congr_right fun _ => ⟨fun brought => ?_, fun ⟨_, _, span⟩ => (coherent.brought span at_p).2⟩
  obtain ⟨e, at_e, rfl⟩ := moment_iff.mp at_p
  obtain ⟨caller, begun, _, span⟩ := coherent.span_of_brought quiet at_e brought
  exact ⟨caller, begun, span⟩

theorem Coherent.brought_apart (coherent : t.Coherent) {caller : Caller} {m begun ended : Nat}
    {instances : Instances} {last : Moment}
    (span : FetchSpan (t.moments events) caller m begun ended (some instances))
    (at_end : (t.moments events)[ended]? = some last) {s : Subscription}
    (known : last.before.subscriptions[n]? = some s)
    (apart : n ≠ m ∨ last.before.isCurrent m = false) :
    (∃ r, last.after.subscriptions[n]? = some r ∧ r.snapshot? = s.snapshot?) ∧
      ∀ listener ∈ s.listeners, heard listener last.happenings = [] := by
  have brought := (coherent.brought span at_end).2
  have nothing : last.before.published? last.event n = none := by
    rw [published?_of_brought brought]
    apply if_neg
    rintro ⟨rfl, current⟩
    rcases apart with different | removed
    · exact different rfl
    · rw [removed] at current
      cases current
  obtain ⟨e, _, rfl⟩ := moment_iff.mp at_end
  have change := (coherent.run (events.take ended)).change e
  obtain ⟨⟨g, after, same⟩, silent⟩ :=
    change.undisturbed (coherent.run _).rostered nothing (feed?_of_known known)
  obtain ⟨r, at_n, rfl⟩ := Option.map_eq_some_iff.mp after
  exact ⟨⟨r, at_n, same⟩, silent⟩

/-- A listener hears what its subscription has when it joins, then all that is published for that
subscription while it belongs to it, in order, and nothing else. What is published is what the
subscription's own calls bring while it is current. -/
theorem deliveries_exact (retry : RetryPolicy) (includeBroken : Bool) (events : List Event) :
    let start := empty retry includeBroken
    let t := start.run events
    let moments := start.moments events
    let told (listener : Nat) := heard listener (start.happenings events)
    (∀ (joined : Nat) (m : Moment) (service : ServiceKey) (listener : Nat),
      moments[joined]? = some m → m.event = .subscribe service →
      (m.before.subscribe service).result.listener? = some listener →
      ∃ n s, m.after.current? service = some (n, s) ∧
        told listener =
          (m.before.instances? service).toList ++ publishedTo (moments.drop (joined + 1)) n listener ∧
        ∀ p k, joined < p → moments[p]? = some k →
          (k.before.hears n listener = true ↔ k.before.isCurrent n = true ∧
            ∀ q l, joined < q → q < p → moments[q]? = some l → ¬l.before.Releases l.event listener)) ∧
    (∀ (p : Nat) (m : Moment) (n : Nat) (instances : Instances), moments[p]? = some m →
      (m.before.published? m.event n = some instances ↔ m.before.isCurrent n = true ∧
        ∃ caller begun, FetchSpan moments caller n begun p (some instances))) ∧
    (∀ (caller : Caller) (m begun ended : Nat) (instances : Instances) (last : Moment) (n : Nat)
      (s : Subscription), FetchSpan moments caller m begun ended (some instances) →
      moments[ended]? = some last → last.before.subscriptions[n]? = some s →
      n ≠ m ∨ last.before.isCurrent m = false →
      (∃ r, last.after.subscriptions[n]? = some r ∧ r.snapshot? = s.snapshot?) ∧
        ∀ listener ∈ s.listeners, heard listener last.happenings = []) ∧
    (∀ (service : ServiceKey) (n : Nat) (s : Subscription) (instances : Instances),
      t.current? service = some (n, s) → t.instances? service = some instances →
      ∀ listener ∈ s.listeners, (told listener).getLast? = some instances) ∧
    (∀ m ∈ moments, ∀ caller, m.event.answer? = some (caller, none) →
      (∀ service, m.after.instances? service = m.before.instances? service) ∧
        ∀ listener, heard listener m.happenings = []) ∧
    (∀ (n : Nat) (s : Subscription), t.subscriptions[n]? = some s → s.isCurrent = true →
      s.listeners ≠ []) ∧
    ∀ (service : ServiceKey) (listener : Nat), (t.unsubscribe service listener).result = true ↔
      ∃ n s, t.current? service = some (n, s) ∧ listener ∈ s.listeners := by
  intro start t moments told
  have coherent := Coherent.empty retry includeBroken
  refine ⟨?_, ?_, ?_, ?_, ?_, ?_, ?_⟩
  · intro joined m service listener at_joined request accepted
    exact coherent.heard_in_all at_joined request accepted
  · intro p m n instances at_p
    exact coherent.published_iff (nobody_calling retry includeBroken) at_p
  · intro caller m begun ended instances last n s span at_end known apart
    exact coherent.brought_apart span at_end known apart
  · intro service n s instances found seen listener member
    have nothing : start.Told [] := ⟨by simp [start, Topology.empty, feed?], fun _ => rfl⟩
    have all : t.Told (start.happenings events) := nothing.run coherent
    have latest := all.latest (feed?_of_current? found) member
    have same : s.snapshot? = some instances := by simpa [instances?, found] using seen
    exact latest.trans same
  · intro m member caller answer
    obtain ⟨p, at_p⟩ := List.getElem?_of_mem member
    obtain ⟨e, _, rfl⟩ := moment_iff.mp at_p
    obtain ⟨feeds, silent⟩ := ((coherent.run (events.take p)).change e).fruitless answer
    exact ⟨instances?_congr feeds, silent⟩
  · intro n s known current
    exact (coherent.run events).rostered.present (feed?_of_known known) current
  · intro service listener
    exact unsubscribe_result

end Runs

def overhearing (service : ServiceKey) : List Event :=
  [.subscribe service, .firstFetchReturned 0 (some [default]), .subscribe service, .refresh service,
    .start .fetch, .fetchReturned (some []), .refresh service, .unsubscribe service 0, .start .fetch,
    .fetchReturned (some [default, default])]

theorem deliveries_exact_overhearing :
    let service : ServiceKey := ⟨"default", "pay"⟩
    let start := empty ⟨1, 1⟩ false
    let told (listener : Nat) := heard listener (start.happenings (overhearing service))
    told 0 = [[default], []] ∧ told 1 = [[default], [], [default, default]] ∧
      told 1 = [default] :: publishedTo ((start.moments (overhearing service)).drop 3) 0 1 ∧
      (told 1).getLast? = some [default, default] := by
  obtain ⟨exact, _, _, last, _⟩ := deliveries_exact ⟨1, 1⟩ false (overhearing ⟨"default", "pay"⟩)
  refine ⟨rfl, rfl, ?_, ?_⟩
  · obtain ⟨n, s, found, told, _⟩ := exact 2 _ ⟨"default", "pay"⟩ 1 rfl rfl rfl
    cases found
    exact told
  · exact last ⟨"default", "pay"⟩ 0 _ _ rfl rfl 1 (by decide)

end Topology

end TrafficControl
