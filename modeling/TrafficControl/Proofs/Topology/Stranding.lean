import TrafficControl.Proofs.Topology.Registering

namespace TrafficControl

open WatchLedger

def Moment.BreaksOff (m : Moment) (o : Opening) : Prop :=
  o ∈ m.before.openings ∧ m.event = .firstFetchBrokeOff o.listener

namespace Topology

/-- A current subscription has no watch, and there is nothing from which it would get one. -/
structure Stranded (t : Topology) (n : Nat) : Prop where
  unregistered : ∃ s, t.subscriptions[n]? = some s ∧ s.isCurrent = true ∧ s.registered = false
  untasked : t.registrations n = 0
  unopened : ∀ o ∈ t.openings, o.subscription ≠ n

/-- Nothing is left of a request to listen: its listener is on no list, and its subscription is not
there without a watch. -/
structure Traceless (t : Topology) (o : Opening) : Prop where
  unlisted : ∀ n, t.hears n o.listener = false
  unstranded : ¬t.Stranded o.subscription

variable {t : Topology} {events : List Event} {n : Nat} {o : Opening}

theorem subscribe_refused_iff {service : ServiceKey} :
    (t.subscribe service).result = .refused ↔ t.isShutdown = true := by
  unfold subscribe
  split
  · next shut => exact ⟨fun _ => shut, fun _ => rfl⟩
  · next live =>
    refine ⟨fun refused => ?_, fun shut => absurd shut live⟩
    split at refused
    · cases refused
    · cases refused

theorem subscribe_refused {service : ServiceKey} (refused : (t.subscribe service).result = .refused) :
    t.turn (.subscribe service) = t.quietly () := by
  simp only [turn, subscribe, subscribe_refused_iff.mp refused, if_true]
  rfl

theorem Numbered.turn_firstFetchBrokeOff (numbered : t.Numbered) (waiting : o ∈ t.openings) :
    t.turn (.firstFetchBrokeOff o.listener) = (t.settle o.listener).quietly () := by
  have step := numbered.step (.firstFetchBrokeOff o.listener)
  generalize t.turn (.firstFetchBrokeOff o.listener) = turn at step ⊢
  generalize same : o.listener = listener at step ⊢
  cases step with
  | ignored ignores => exact absurd same (ignores o waiting)
  | openingBrokeOff _ => rfl

structure Unwatched (t : Topology) (n : Nat) : Prop where
  known : n < t.subscriptions.length
  off : n ∉ t.ledger.underway
  unregistered : ∀ s, t.subscriptions[n]? = some s → s.isCurrent = true → s.registered = false

theorem Unwatched.stranded_iff (unwatched : t.Unwatched n) : t.Stranded n ↔ t.isCurrent n = true := by
  constructor
  · rintro ⟨⟨s, known, current, _⟩, _, _⟩
    simp [isCurrent, known, current]
  · intro alive
    obtain ⟨s, known, current⟩ := (Option.any_eq_true _ _).mp alive
    obtain ⟨untasked, unopened⟩ := not_underway_iff.mp unwatched.off
    exact ⟨⟨s, known, current, unwatched.unregistered s known current⟩, untasked, unopened⟩

namespace Coherent

theorem breaks_off (coherent : t.Coherent) (waiting : o ∈ t.openings) :
    (t.settle o.listener).Unwatched o.subscription where
  known := (coherent.numbered.openings o waiting).1
  off := by
    obtain ⟨before, after, waits, settled⟩ := coherent.numbered.ledger_settle waiting
    have once := coherent.ledger.once o.subscription
    rw [count_underway, waits, List.count_append, List.count_cons_self] at once
    simp only [← List.count_eq_zero, settled, count_underway, List.count_append]
    omega
  unregistered := by
    intro s known current
    cases registered : s.registered with
    | false => rfl
    | true =>
      have found := current?_of_current coherent.ledger (n := o.subscription) known current
      exact absurd rfl (coherent.no_opening found registered o waiting)

theorem stays_unwatched (coherent : t.Coherent) (unwatched : t.Unwatched n) (e : Event) :
    (t.turn e).after.Unwatched n := by
  obtain ⟨known, off⟩ := coherent.stays_off unwatched.known unwatched.off e
  refine ⟨known, off, fun s at_n current => ?_⟩
  cases registered : s.registered with
  | false => rfl
  | true =>
    have moves := coherent.numbered.moves e
    have found := current?_of_current (coherent.turn e).ledger at_n current
    have marked := (isRegistered_of_current found).trans registered
    rcases moves.latest coherent.ledger (holds found) marked with ⟨held, before, _⟩ | last
    · rw [holder?_ledger] at held
      obtain ⟨⟨m, r⟩, was, same⟩ := Option.map_eq_some_iff.mp held
      obtain rfl : m = n := same
      obtain ⟨known, current, _⟩ := subscription_of_current? was
      rw [isRegistered_of_current was, unwatched.unregistered r known current] at before
      cases before
    · -- A registration in this step would have been under way before it.
      have bound : n < t.ledger.standings.length := by simpa [Topology.ledger] using unwatched.known
      exact absurd (mem_marksOf.mp (List.mem_of_getLast? last)) (moves.unmarked bound unwatched.off)

theorem opener_settled (coherent : t.Coherent) (quiet : t.openings = []) (events : List Event) :
    ∀ o ∈ (t.run events).openings, (t.run events).Settled o.subscription o.listener := by
  have step (u : Topology) (e : Event)
      (kept : u.Coherent ∧ ∀ o ∈ u.openings, u.Settled o.subscription o.listener) :
      (u.turn e).after.Coherent ∧
        ∀ o ∈ (u.turn e).after.openings, (u.turn e).after.Settled o.subscription o.listener := by
    obtain ⟨coherent, settled⟩ := kept
    refine ⟨coherent.turn e, fun o member => ?_⟩
    rcases (coherent.fetching e).opening member with old | ⟨rfl, service, opened⟩
    · exact (coherent.change e).settled (settled o old)
    · apply (coherent.turn e).rostered.settled (f := ⟨service, true, [u.nextListener], none⟩)
      · simp [opened, Turn.forget, feed?_openFor]
      · exact List.mem_singleton_self _
  exact (run_keeps step ⟨coherent, by simp [quiet]⟩).2

theorem traceless_iff (coherent : t.Coherent) (waiting : o ∈ t.openings)
    (settled : t.Settled o.subscription o.listener) :
    (t.settle o.listener).Traceless o ↔ t.isCurrent o.subscription = false := by
  have stranded : (t.settle o.listener).Stranded o.subscription ↔ t.isCurrent o.subscription = true :=
    (coherent.breaks_off waiting).stranded_iff
  constructor
  · rintro ⟨_, unstranded⟩
    rw [stranded] at unstranded
    simpa using unstranded
  · intro gone
    refine ⟨fun n => ?_, by rw [stranded, gone]; simp⟩
    cases heard : (t.settle o.listener).hears n o.listener with
    | false => rfl
    | true =>
      obtain ⟨f, known, current, member⟩ := hears_iff.mp heard
      have known : t.feed? n = some f := known
      obtain rfl := settled.own known member
      rw [isCurrent_eq, known, Option.any_some, current] at gone
      cases gone

theorem broken_off_of_stranded (coherent : t.Coherent) (fresh : t.subscriptions = [])
    (live : (t.run events).isShutdown = false) (stranded : (t.run events).Stranded n) :
    ∃ m ∈ t.moments events, ∃ o, m.BreaksOff o ∧ o.subscription = n := by
  by_contra unbroken
  -- Otherwise the subscription would have been on its way to a watch ever since it was opened.
  have all := holds_from events (fun p => (t.run (events.take p)).ledger.Provides n) 0
    (fun service holds => by
      obtain ⟨r, known, _⟩ := standing_of_holder? holds
      simp [Topology.ledger, fresh] at known)
    (fun p e _ at_p provides => by
      rw [run_take_succ at_p]
      refine (coherent.run _).provides (coherent.live_take live p) ?_ provides
      intro listener broken waiting
      have member := List.mem_of_getElem? (moment_iff (t := t).mpr ⟨e, at_p, rfl⟩)
      exact unbroken ⟨_, member, ⟨listener, n⟩, ⟨waiting, broken⟩, rfl⟩)
  have provides := all events.length (Nat.zero_le _) (Nat.le_refl _)
  rw [List.take_length] at provides
  obtain ⟨s, known, current, unregistered⟩ := stranded.unregistered
  have found := current?_of_current (coherent.run events).ledger known current
  have underway := provides s.service (holds found)
    ((isRegistered_of_current found).trans unregistered)
  exact not_underway_iff.mpr ⟨stranded.untasked, stranded.unopened⟩ underway

theorem unwatched_of_broken_off (coherent : t.Coherent) (live : (t.run events).isShutdown = false)
    {m : Moment} (member : m ∈ t.moments events) (broken : m.BreaksOff o) :
    (t.run events).Unwatched o.subscription := by
  obtain ⟨p, at_p⟩ := List.getElem?_of_mem member
  obtain ⟨e, at_e, bound, rfl⟩ := moment_at at_p
  obtain ⟨waiting, event⟩ := broken
  have event : e = .firstFetchBrokeOff o.listener := event
  have now := coherent.run (events.take p)
  have unwatched := coherent.keeps_since live
    (fun u e now _ (unwatched : u.Unwatched o.subscription) => now.stays_unwatched unwatched e)
    bound (Nat.le_refl _)
    (by
      rw [run_take_succ at_e, event, now.numbered.turn_firstFetchBrokeOff waiting]
      exact now.breaks_off waiting)
  rwa [List.take_length] at unwatched

theorem stranded_iff (coherent : t.Coherent) (fresh : t.subscriptions = [])
    (live : (t.run events).isShutdown = false) :
    (t.run events).Stranded n ↔ (t.run events).isCurrent n = true ∧
      ∃ m ∈ t.moments events, ∃ o, m.BreaksOff o ∧ o.subscription = n := by
  constructor
  · intro stranded
    obtain ⟨s, known, current, _⟩ := stranded.unregistered
    exact ⟨by simp [isCurrent, known, current], coherent.broken_off_of_stranded fresh live stranded⟩
  · rintro ⟨alive, m, member, o, broken, rfl⟩
    exact (coherent.unwatched_of_broken_off live member broken).stranded_iff.mpr alive

end Coherent

/-- A request to listen that is refused changes nothing. One whose first fetch breaks off changes
nothing either, and so leaves no trace exactly if its subscription has been removed before; and while
a topology is not shut down, the current subscriptions left without a watch and without a prospect of
one are those whose first fetch has broken off. -/
theorem failed_requests_traceless_iff (retry : RetryPolicy) (includeBroken : Bool) (events : List Event) :
    let t := (empty retry includeBroken).run events
    let moments := (empty retry includeBroken).moments events
    (∀ m ∈ moments, ∀ service, m.event = .subscribe service →
      (m.before.subscribe service).result = .refused → m.after = m.before ∧ m.happenings = []) ∧
    (∀ m ∈ moments, ∀ o, m.BreaksOff o →
      m.after.subscriptions = m.before.subscriptions ∧
        (m.after.Traceless o ↔ m.before.isCurrent o.subscription = false)) ∧
    (t.isShutdown = false → ∀ n, t.Stranded n ↔ t.isCurrent n = true ∧
      ∃ m ∈ moments, ∃ o, m.BreaksOff o ∧ o.subscription = n) := by
  intro t moments
  have coherent := Coherent.empty retry includeBroken
  refine ⟨?_, ?_, fun live n => coherent.stranded_iff rfl live⟩
  · intro m _ service request refused
    simp only [Moment.after, Moment.happenings, request, subscribe_refused refused]
    exact ⟨rfl, rfl⟩
  · rintro m member o ⟨waiting, broken⟩
    obtain ⟨p, at_p⟩ := List.getElem?_of_mem member
    obtain ⟨e, _, rfl⟩ := moment_iff.mp at_p
    have broken : e = .firstFetchBrokeOff o.listener := broken
    have now := coherent.run (events.take p)
    have settled := coherent.opener_settled rfl (events.take p) o waiting
    simp only [Moment.after, broken, now.numbered.turn_firstFetchBrokeOff waiting]
    exact ⟨rfl, now.traceless_iff waiting settled⟩

def breakingOff (a b : ServiceKey) : List Event :=
  [.subscribe a, .close [a], .firstFetchBrokeOff 0, .subscribe b, .firstFetchBrokeOff 1, .subscribe b]

theorem failed_requests_traceless_iff_breakingOff :
    let a : ServiceKey := ⟨"default", "pay"⟩
    let b : ServiceKey := ⟨"default", "orders"⟩
    let start := empty ⟨1, 1⟩ false
    let moments := start.moments (breakingOff a b)
    (start.run (breakingOff a b)).isShutdown = false ∧
      (∃ m, moments[2]? = some m ∧ m.after.Traceless ⟨0, 0⟩) ∧
      (∃ m, moments[4]? = some m ∧ ¬m.after.Traceless ⟨1, 1⟩) ∧
      (start.run (breakingOff a b)).Stranded 1 := by
  have live : ((empty ⟨1, 1⟩ false).run
      (breakingOff ⟨"default", "pay"⟩ ⟨"default", "orders"⟩)).isShutdown = false := by decide
  obtain ⟨_, broken, stranded⟩ :=
    failed_requests_traceless_iff ⟨1, 1⟩ false (breakingOff ⟨"default", "pay"⟩ ⟨"default", "orders"⟩)
  have closed := broken _ (List.mem_of_getElem? (i := 2) rfl) ⟨0, 0⟩ ⟨List.mem_singleton_self _, rfl⟩
  have waited := broken _ (List.mem_of_getElem? (i := 4) rfl) ⟨1, 1⟩ ⟨List.mem_singleton_self _, rfl⟩
  refine ⟨live, ⟨_, rfl, closed.2.mpr rfl⟩, ⟨_, rfl, fun traceless => ?_⟩, ?_⟩
  · cases waited.2.mp traceless
  · exact (stranded live 1).mpr ⟨by decide, _, List.mem_of_getElem? (i := 4) rfl, ⟨1, 1⟩,
      ⟨List.mem_singleton_self _, rfl⟩, rfl⟩

/-- A subscription stays behind without a watch, and others join it. -/
theorem broken_first_fetch_strands :
    let service : ServiceKey := ⟨"default", "o"⟩
    let before := empty ⟨1, 1⟩ false
    let after := before.run [.subscribe service, .firstFetchBrokeOff 0]
    before.services = [] ∧ after.isShutdown = false ∧ after.services = [service] ∧
      after.hears 0 0 = true ∧ after.isRegistered service = false ∧ after.ledger.underway = [] ∧
      (after.subscribe service).result = .joined 1 := by
  decide

end Topology

end TrafficControl
