import TrafficControl.Proofs.Topology.Registering

namespace TrafficControl

open WatchLedger

namespace Moment

def Registers (m : Moment) (n : Nat) : Prop := ∃ service, .registering n service ∈ m.happenings

def tried? (m : Moment) : Option (Nat × Bool) := m.before.tried? m.event

def FirstFetches (m : Moment) (n : Nat) : Prop :=
  ∃ o ∈ m.before.openings, o.subscription = n ∧
    ∃ fetched?, m.event = .firstFetchReturned o.listener fetched?

end Moment

def failures (moments : List Moment) (n : Nat) : Nat :=
  moments.countP fun m => decide (m.tried? = some (n, false))

structure OneChain (retry : RetryPolicy) (moments : List Moment) (n : Nat) : Prop where
  in_turn : ∀ (i j : Nat) (first second : Moment), i < j → moments[i]? = some first →
    moments[j]? = some second → first.Registers n → second.Registers n →
    ∃ k m succeeded, i < k ∧ k < j ∧ moments[k]? = some m ∧ m.tried? = some (n, succeeded)
  /-- After each failure comes one more attempt, put off. Failures are counted on 32 bits, and the
  delay is that of the count. The lane is free at once. -/
  retried : ∀ (p : Nat) (m : Moment), moments[p]? = some m → m.tried? = some (n, false) →
    let number := failures (moments.take (p + 1)) n
    let ticket := m.before.dispatcher.nextTicket
    m.happenings =
        [.retrying ticket n (.ofNat number) (retry.delay (UInt32.ofNat (number - 1)).toNat)] ∧
      m.after.dispatcher.delayed =
        m.before.dispatcher.delayed ++ [⟨ticket, .registration, .watch n (.ofNat number)⟩] ∧
      m.after.dispatcher.registration = ⟨none, m.before.dispatcher.registration.queue⟩
  single : ∀ m ∈ moments, m.after.registrations n ≤ 1
  off_lane : ∀ m ∈ moments, ∀ w ∈ m.after.dispatcher.delayed, ∀ held other,
    w.task = .watch n held → .watch n other ∉ m.after.dispatcher.registration.tasks
  resumed : ∀ m ∈ moments, ∀ w ∈ m.before.dispatcher.delayed, ∀ number, w.task = .watch n number →
    m.event = .retryDue w.ticket → m.after.dispatcher.registration =
      ⟨m.before.dispatcher.registration.running, m.before.dispatcher.registration.queue ++ [w.task]⟩
  only_failed : ∀ m ∈ moments, ∀ ticket number delay,
    .retrying ticket n number delay ∈ m.happenings → m.tried? = some (n, false)
  succeeds_once : ∀ (i j : Nat) (first second : Moment), i < j → moments[i]? = some first →
    moments[j]? = some second → first.tried? = some (n, true) → ¬second.Registers n
  ends : ∀ (i j : Nat) (first second : Moment) (s : Subscription), i ≤ j →
    moments[i]? = some first → moments[j]? = some second →
    first.before.subscriptions[n]? = some s → s.isCurrent = false → ¬second.Registers n

/-- Each attempt that follows a failure is put off for the delay that belongs to the number of that
failure. -/
def OnTime (retry : RetryPolicy) (moments : List Moment) (n : Nat) : Prop :=
  ∀ (p : Nat) (m : Moment), moments[p]? = some m → m.tried? = some (n, false) →
    ∃ ticket attempt, m.happenings =
      [.retrying ticket n attempt (retry.delay (failures (moments.take (p + 1)) n - 1))]

section Failures

variable {retry : RetryPolicy} {moments : List Moment} {n : Nat}

theorem failures_append (before after : List Moment) :
    failures (before ++ after) n = failures before n + failures after n :=
  List.countP_append

theorem failures_take_le (p : Nat) : failures (moments.take p) n ≤ failures moments n :=
  (List.take_sublist p moments).countP_le

theorem failures_take_succ {p : Nat} {m : Moment} (at_p : moments[p]? = some m) :
    failures (moments.take (p + 1)) n =
      failures (moments.take p) n + if m.tried? = some (n, false) then 1 else 0 := by
  simp [failures, List.take_add_one, at_p, List.countP_append, List.countP_singleton]

theorem failures_take_failed {p : Nat} {m : Moment} (at_p : moments[p]? = some m)
    (failed : m.tried? = some (n, false)) :
    failures (moments.take (p + 1)) n = failures (moments.take p) n + 1 := by
  rw [failures_take_succ at_p, if_pos failed]

theorem exists_failure {k : Nat} (bound : k < failures moments n) :
    ∃ p m, moments[p]? = some m ∧ m.tried? = some (n, false) ∧
      failures (moments.take p) n = k := by
  induction moments generalizing k with
  | nil => exact absurd bound (Nat.not_lt_zero k)
  | cons first rest ih =>
    by_cases tried : first.tried? = some (n, false)
    · cases k with
      | zero => exact ⟨0, first, rfl, tried, rfl⟩
      | succ k =>
        obtain ⟨p, m, at_p, again, before⟩ := ih (k := k) (by simpa [failures, tried] using bound)
        exact ⟨p + 1, m, at_p, again, by simpa [failures, tried] using before⟩
    · obtain ⟨p, m, at_p, again, before⟩ := ih (k := k) (by simpa [failures, tried] using bound)
      exact ⟨p + 1, m, at_p, again, by simpa [failures, tried] using before⟩

theorem OneChain.onTime_iff (chain : OneChain retry moments n) :
    OnTime retry moments n ↔
      ∀ k < failures moments n, retry.delay (UInt32.ofNat k).toNat = retry.delay k := by
  constructor
  · intro onTime k bound
    obtain ⟨p, m, at_p, tried, before⟩ := exists_failure bound
    obtain ⟨_, _, told⟩ := onTime p m at_p tried
    have chained := (chain.retried p m at_p tried).1
    rw [failures_take_failed at_p tried, before, Nat.add_sub_cancel] at told chained
    have same := chained.symm.trans told
    simp only [List.cons.injEq, Happening.retrying.injEq] at same
    exact same.1.2.2.2
  · intro agree p m at_p tried
    have chained := (chain.retried p m at_p tried).1
    have counted := failures_take_failed at_p tried
    have bound : failures (moments.take p) n < failures moments n := by
      rw [← Nat.add_one_le_iff, ← counted]
      exact failures_take_le (p + 1)
    rw [counted, Nat.add_sub_cancel, agree _ bound] at chained
    rw [counted, Nat.add_sub_cancel]
    exact ⟨_, _, chained⟩

end Failures

namespace Topology

variable {t : Topology} {events : List Event} {n failed : Nat}

section Policy

theorem submitJob_retry (job : Job) : (t.submitJob job).retry = t.retry := by
  rw [submitJob_eq]
  rfl

theorem scheduleFetch_retry (n : Nat) : (t.scheduleFetch n).retry = t.retry := by
  rcases scheduleFetch_cases (t := t) n with same | queued
  · rw [same]
  · rw [queued]
    rfl

theorem continueClosing_retry (number : Nat) (order : List ServiceKey) :
    (t.continueClosing number order).after.retry = t.retry := by
  have frame : (t.closeNext order).1.retry = t.retry := by
    rw [closeNext_frame]
  rcases continueClosing_cases (t := t) number order with ⟨service, left, _, waits⟩ | ⟨_, ends⟩
  · rw [waits]
    exact frame
  · rw [ends]
    simp only [quietly, endClosing]
    split <;> exact frame

theorem Step.retry {e : Event} {turn : Turn Unit} (step : Step t e turn) :
    turn.after.retry = t.retry := by
  cases step with
  | cancelled _ _ _ _ => exact submitJob_retry _
  | refreshed _ => exact scheduleFetch_retry _
  | watchRegistered _ _ _ => exact scheduleFetch_retry _
  | watchRetried _ live =>
    rw [retryWatch_eq live]
    rfl
  | openingPublished _ _ _ => exact submitJob_retry _
  | openingFruitless _ _ _ => exact submitJob_retry _
  | retried _ _ => exact submitJob_retry _
  | closed _ => exact continueClosing_retry _ _
  | closedOn _ => exact continueClosing_retry _ _
  | drained _ _ => exact continueClosing_retry _ _
  | _ => rfl

theorem Coherent.retry_run (coherent : t.Coherent) (events : List Event) :
    (t.run events).retry = t.retry := by
  have step (u : Topology) (e : Event) (kept : u.Coherent ∧ u.retry = t.retry) :
      (u.turn e).after.Coherent ∧ (u.turn e).after.retry = t.retry :=
    ⟨kept.1.turn e, (kept.1.numbered.step e).retry.trans kept.2⟩
  exact (run_keeps step ⟨coherent, rfl⟩).2

end Policy

/-- What is left of a chain after some failures: the number of the next attempt. -/
structure Attempts (t : Topology) (n failed : Nat) : Prop where
  counted : ∀ attempt, .watch n attempt ∈ t.work → attempt = .ofNat failed
  unfetched : ¬t.FirstFetched n → failed = 0

theorem Attempts.turn (attempts : t.Attempts n failed) (coherent : t.Coherent)
    (live : t.isShutdown = false) (e : Event) :
    (t.turn e).after.Attempts n (failed + if t.tried? e = some (n, false) then 1 else 0) where
  counted := by
    intro attempt task
    rcases (coherent.registering live e).source coherent.ledger task with
      ⟨old, untried⟩ | ⟨rfl, untried, o, waiting, same⟩ | ⟨before, rfl, old, tried⟩
    · simp [attempts.counted attempt old, untried false]
    · have fetching : ¬t.FirstFetched n := fun fetched => fetched.2 o waiting same
      simp [attempts.unfetched fetching, untried]
    · simp [attempts.counted before old, tried, UInt32.ofNat_add]
  unfetched := by
    intro after
    have before : ¬t.FirstFetched n := fun fetched => after (coherent.stays_firstFetched fetched e)
    have untried : t.tried? e ≠ some (n, false) := fun tried =>
      before (coherent.firstFetched_of_tried tried)
    simp [attempts.unfetched before, untried]

theorem Coherent.off_after_success (coherent : t.Coherent) (live : t.isShutdown = false) {e : Event}
    (tried : t.tried? e = some (n, true)) :
    n < (t.turn e).after.subscriptions.length ∧ n ∉ (t.turn e).after.ledger.underway := by
  have fetched := coherent.stays_firstFetched (coherent.firstFetched_of_tried tried) e
  constructor
  · simpa [feed?] using fetched.1
  · rw [mem_underway_iff]
    rintro (⟨o, waiting, same⟩ | ⟨attempt, task⟩)
    · exact fetched.2 o waiting same
    · rcases (coherent.registering live e).source coherent.ledger task with
        ⟨_, untried⟩ | ⟨_, untried, _⟩ | ⟨_, _, _, failed⟩
      · exact untried true tried
      · cases untried.symm.trans tried
      · cases failed.symm.trans tried

theorem Coherent.work_after_firstFetch (coherent : t.Coherent) (live : t.isShutdown = false)
    {o : Opening} (waiting : o ∈ t.openings) (fetched? : Option Instances) :
    .watch o.subscription 0 ∈ (t.turn (.firstFetchReturned o.listener fetched?)).after.work := by
  have step := coherent.numbered.step (.firstFetchReturned o.listener fetched?)
  have queued {u : Topology} (live : u.isShutdown = false) :
      .watch o.subscription 0 ∈ (u.submitJob (.watch o.subscription 0)).work := by
    rw [submitJob_live live]
    exact mem_work_of_queue (List.mem_append_right _ (List.mem_singleton_self _))
  have only {p : Opening} (other : p ∈ t.openings) (same : p.listener = o.listener) : p = o :=
    List.inj_on_of_nodup_map coherent.numbered.openers other waiting same
  generalize t.turn (.firstFetchReturned o.listener fetched?) = turn at step ⊢
  generalize same : o.listener = listener at step
  cases step with
  | ignored ignores => exact absurd same (ignores o waiting)
  | openingPublished other _ _ =>
    cases only other same.symm
    exact queued live
  | openingFruitless other _ _ =>
    cases only other same.symm
    exact queued live

theorem Coherent.resumes (coherent : t.Coherent) (live : t.isShutdown = false) {w : Delayed Job}
    (waits : w ∈ t.dispatcher.delayed) :
    (t.turn (.retryDue w.ticket)).after.dispatcher.registration =
      ⟨t.dispatcher.registration.running, t.dispatcher.registration.queue ++ [w.task]⟩ := by
  have step := coherent.numbered.step (.retryDue w.ticket)
  have only {v : Delayed Job} (other : v ∈ t.dispatcher.delayed) (same : v.ticket = w.ticket) : v = w :=
    List.inj_on_of_nodup_map coherent.numbered.tickets other waits same
  generalize t.turn (.retryDue w.ticket) = turn at step ⊢
  generalize same : w.ticket = ticket at step
  cases step with
  | ignored ignores => exact absurd same (ignores w waits)
  | retried other task =>
    cases only other same.symm
    have forgotten : (t.forget w.ticket).isShutdown = false := live
    rw [submitJob_live forgotten, task]
    rfl

theorem Coherent.provides_of_work (coherent : t.Coherent) {attempt : UInt32}
    (task : .watch n attempt ∈ t.work) : t.FirstFetched n ∧ t.ledger.Provides n :=
  ⟨coherent.firstFetched_of_work task, fun _ _ _ => mem_underway_iff.mpr (.inr ⟨attempt, task⟩)⟩

theorem Coherent.stays_provided (coherent : t.Coherent) (live : t.isShutdown = false)
    (provided : t.FirstFetched n ∧ t.ledger.Provides n) (e : Event) :
    (t.turn e).after.FirstFetched n ∧ (t.turn e).after.ledger.Provides n :=
  ⟨coherent.stays_firstFetched provided.1 e,
    coherent.provides live (fun _ _ waiting => provided.1.2 _ waiting rfl) provided.2⟩

theorem Coherent.registered_or_underway (coherent : t.Coherent) {s : Subscription}
    (known : t.subscriptions[n]? = some s) (current : s.isCurrent = true)
    (provided : t.FirstFetched n ∧ t.ledger.Provides n) :
    (s.registered = true ∧ t.registrations n = 0) ∨ (s.registered = false ∧ t.registrations n = 1) := by
  have found := current?_of_current coherent.ledger known current
  have registered := isRegistered_of_current found
  have counted := count_underway_ledger t n
  cases status : s.registered with
  | true =>
    have off := List.count_eq_zero.mpr (coherent.ledger.arrived (holds found) (registered.trans status))
    exact .inl ⟨rfl, by omega⟩
  | false =>
    have underway := List.count_pos_iff.mpr (provided.2 s.service (holds found) (registered.trans status))
    have once := coherent.ledger.once n
    have settled : (t.openings.map Opening.subscription).count n = 0 := by
      simpa [List.count_eq_zero] using provided.1.2
    exact .inr ⟨rfl, by omega⟩

theorem Coherent.single (coherent : t.Coherent) (n : Nat) : t.registrations n ≤ 1 := by
  have once := coherent.ledger.once n
  rw [count_underway_ledger] at once
  omega

theorem off_lane_of_single (single : t.registrations n ≤ 1) {w : Delayed Job}
    (waits : w ∈ t.dispatcher.delayed) {held other : UInt32} (task : w.task = .watch n held) :
    .watch n other ∉ t.dispatcher.registration.tasks := by
  intro on_lane
  rw [registrations, work, List.filterMap_append, List.count_append] at single
  have queued : 0 < (t.dispatcher.registration.tasks.filterMap Job.watched?).count n :=
    List.count_pos_iff.mpr (List.mem_filterMap.mpr ⟨_, on_lane, rfl⟩)
  have delayed : 0 < ((t.dispatcher.delayed.map Delayed.task).filterMap Job.watched?).count n :=
    List.count_pos_iff.mpr (List.mem_filterMap.mpr ⟨_, List.mem_map_of_mem waits, by rw [task]; rfl⟩)
  omega

section Runs

variable (coherent : t.Coherent) (live : (t.run events).isShutdown = false)

include coherent live

theorem Coherent.registering_at {p : Nat} {m : Moment} (at_p : (t.moments events)[p]? = some m) :
    RegisterChange m.before m.event (m.before.turn m.event) := by
  obtain ⟨e, _, rfl⟩ := moment_iff.mp at_p
  exact (coherent.run (events.take p)).registering (coherent.live_take live p) e

theorem Coherent.attempts_at (fresh : t.Attempts n 0) :
    ∀ p, p ≤ events.length →
      (t.run (events.take p)).Attempts n (failures ((t.moments events).take p) n) := by
  intro p bound
  have all := holds_from events
    (fun p => (t.run (events.take p)).Attempts n (failures ((t.moments events).take p) n)) 0 fresh
    (fun p e _ at_p attempts => by
      rw [run_take_succ at_p, failures_take_succ (moment_iff.mpr ⟨e, at_p, rfl⟩)]
      exact attempts.turn (coherent.run _) (coherent.live_take live p) e)
  exact all p (Nat.zero_le p) bound

theorem Coherent.registers_in_turn {i j : Nat} {first second : Moment} (order : i < j)
    (at_i : (t.moments events)[i]? = some first) (at_j : (t.moments events)[j]? = some second)
    (begins : first.Registers n) (again : second.Registers n) :
    ∃ k m succeeded, i < k ∧ k < j ∧ (t.moments events)[k]? = some m ∧
      m.tried? = some (n, succeeded) := by
  by_contra unanswered
  obtain ⟨_, begins⟩ := begins
  obtain ⟨_, again⟩ := again
  obtain ⟨_, _, attempt, _, runs⟩ := (coherent.registering_at live at_i).begins begins
  obtain ⟨_, free, _⟩ := (coherent.registering_at live at_j).begins again
  obtain ⟨e, at_e, rfl⟩ := moment_iff.mp at_i
  obtain ⟨f, at_f, bound, rfl⟩ := moment_at at_j
  -- Without an answer the call is still under way when the next one begins.
  have all := holds_from events
    (fun p => p ≤ j →
      (t.run (events.take p)).dispatcher.registration.running = some (.watch n attempt)) (i + 1)
    (fun _ => by
      rw [run_take_succ at_e]
      exact runs)
    (fun p e reached at_p running before => by
      have at_p' : (t.moments events)[p]? = some ⟨t.run (events.take p), e⟩ :=
        moment_iff.mpr ⟨e, at_p, rfl⟩
      rw [run_take_succ at_p]
      refine (coherent.registering_at live at_p').carries (running (by omega)) fun succeeded tried => ?_
      exact unanswered ⟨p, _, succeeded, by omega, by omega, at_p', tried⟩)
  have runs := all j order (Nat.le_of_lt bound) (Nat.le_refl j)
  rw [show (t.run (events.take j)).dispatcher.registration.running = none from free] at runs
  cases runs

theorem Coherent.retried_after (fresh : t.Attempts n 0) {p : Nat} {m : Moment}
    (at_p : (t.moments events)[p]? = some m) (tried : m.tried? = some (n, false)) :
    let number := failures ((t.moments events).take (p + 1)) n
    let ticket := m.before.dispatcher.nextTicket
    m.happenings =
        [.retrying ticket n (.ofNat number) (t.retry.delay (UInt32.ofNat (number - 1)).toNat)] ∧
      m.after.dispatcher.delayed =
        m.before.dispatcher.delayed ++ [⟨ticket, .registration, .watch n (.ofNat number)⟩] ∧
      m.after.dispatcher.registration = ⟨none, m.before.dispatcher.registration.queue⟩ := by
  intro number ticket
  obtain ⟨attempt, running, turn⟩ := (coherent.registering_at live at_p).fails tried
  have number_eq : number = failures ((t.moments events).take p) n + 1 :=
    failures_take_failed at_p tried
  obtain ⟨e, at_e, bound, rfl⟩ := moment_at at_p
  have attempts := coherent.attempts_at live fresh p (Nat.le_of_lt bound)
  have counted := attempts.counted attempt (mem_work_of_running running)
  have next : attempt + 1 = .ofNat number := by
    rw [number_eq, UInt32.ofNat_add, counted]
    rfl
  have last : attempt = .ofNat (number - 1) := by
    rw [number_eq, Nat.add_sub_cancel, counted]
  simp only [Moment.happenings, Moment.after, turn, coherent.retry_run]
  rw [next, last]
  exact ⟨rfl, rfl, rfl⟩

omit live in
theorem Coherent.single_after {m : Moment} (member : m ∈ t.moments events) (n : Nat) :
    m.after.registrations n ≤ 1 := by
  obtain ⟨p, at_p⟩ := List.getElem?_of_mem member
  obtain ⟨e, _, rfl⟩ := moment_iff.mp at_p
  exact ((coherent.run (events.take p)).turn e).single n

theorem Coherent.succeeds_once {i j : Nat} {first second : Moment} (order : i < j)
    (at_i : (t.moments events)[i]? = some first) (at_j : (t.moments events)[j]? = some second)
    (succeeded : first.tried? = some (n, true)) : ¬second.Registers n := by
  rintro ⟨service, begins⟩
  obtain ⟨_, _, attempt, queued, _⟩ := (coherent.registering_at live at_j).begins begins
  obtain ⟨e, at_e, rfl⟩ := moment_iff.mp at_i
  obtain ⟨f, at_f, bound, rfl⟩ := moment_at at_j
  have off := coherent.keeps_since live
    (fun u e now _ (off : n < u.subscriptions.length ∧ n ∉ u.ledger.underway) =>
      now.stays_off off.1 off.2 e) order (Nat.le_of_lt bound)
    (by
      rw [run_take_succ at_e]
      exact (coherent.run _).off_after_success (coherent.live_take live i) succeeded)
  exact off.2 (mem_underway_iff.mpr (.inr ⟨attempt, mem_work_of_queue queued⟩))

theorem Coherent.ends_with_removal {i j : Nat} {first second : Moment} {s : Subscription}
    (order : i ≤ j) (at_i : (t.moments events)[i]? = some first)
    (at_j : (t.moments events)[j]? = some second) (known : first.before.subscriptions[n]? = some s)
    (removed : s.isCurrent = false) : ¬second.Registers n := by
  rintro ⟨service, begins⟩
  obtain ⟨current, _⟩ := (coherent.registering_at live at_j).begins begins
  obtain ⟨e, at_e, rfl⟩ := moment_iff.mp at_i
  obtain ⟨f, at_f, bound, rfl⟩ := moment_at at_j
  have gone := coherent.keeps_since live
    (fun u e now _ (gone : (u.feed? n).isSome = true ∧ u.isCurrent n = false) =>
      (now.change e).fades gone.1 gone.2) order (Nat.le_of_lt bound)
    ⟨by simp [feed?_of_known known], by simp [isCurrent, known, removed]⟩
  rw [gone.2] at current
  cases current

theorem Coherent.provided_after {i : Nat} {m : Moment} (at_i : (t.moments events)[i]? = some m)
    (returned : m.FirstFetches n) :
    (t.run events).FirstFetched n ∧ (t.run events).ledger.Provides n := by
  obtain ⟨e, at_e, bound, rfl⟩ := moment_at at_i
  obtain ⟨o, waiting, rfl, fetched?, event⟩ := returned
  have event : e = .firstFetchReturned o.listener fetched? := event
  have now := coherent.run (events.take i)
  have provided := coherent.keeps_since live
    (fun u e now live
        (provided : u.FirstFetched o.subscription ∧ u.ledger.Provides o.subscription) =>
      now.stays_provided live provided e) bound (Nat.le_refl _)
    (by
      have queued := now.work_after_firstFetch (coherent.live_take live i) waiting fetched?
      rw [← event] at queued
      rw [run_take_succ at_e]
      exact (now.turn e).provides_of_work queued)
  rwa [List.take_length] at provided

theorem Coherent.oneChain (fresh : t.Attempts n 0) : OneChain t.retry (t.moments events) n where
  in_turn := fun _ _ _ _ => coherent.registers_in_turn live
  retried := fun _ _ => coherent.retried_after live fresh
  single := fun _ member => coherent.single_after member n
  off_lane := fun _ member _ waits _ _ => off_lane_of_single (coherent.single_after member n) waits
  resumed := by
    intro m member w waits number _ event
    obtain ⟨p, at_p⟩ := List.getElem?_of_mem member
    obtain ⟨e, _, rfl⟩ := moment_iff.mp at_p
    rw [show e = .retryDue w.ticket from event]
    exact (coherent.run _).resumes (coherent.live_take live p) waits
  only_failed := by
    intro m member ticket number delay told
    obtain ⟨p, at_p⟩ := List.getElem?_of_mem member
    exact (coherent.registering_at live at_p).retries told
  succeeds_once := fun _ _ _ _ => coherent.succeeds_once live
  ends := fun _ _ _ _ _ => coherent.ends_with_removal live

end Runs

theorem attempts_empty (retry : RetryPolicy) (includeBroken : Bool) (n : Nat) :
    (empty retry includeBroken).Attempts n 0 where
  counted := by
    intro attempt task
    cases task
  unfetched := fun _ => rfl

/-- While a topology is not shut down, registrations of a subscription follow one another in one
chain; and from the return of its first fetch on, each current subscription is either registered or
has exactly one task that registers it. Attempts come on time as long as no delay shows that their
count starts again after `2 ^ 32` failures. -/
theorem one_retry_chain_iff (retry : RetryPolicy) (includeBroken : Bool) {events : List Event}
    (live : ((empty retry includeBroken).run events).isShutdown = false) :
    let t := (empty retry includeBroken).run events
    let moments := (empty retry includeBroken).moments events
    ((∀ n, OneChain retry moments n) ∧
      ∀ n s, t.subscriptions[n]? = some s → s.isCurrent = true → (∃ m ∈ moments, m.FirstFetches n) →
        (s.registered = true ∧ t.registrations n = 0) ∨
          (s.registered = false ∧ t.registrations n = 1)) ∧
    ∀ n, OnTime retry moments n ↔
      ∀ k < failures moments n, retry.delay (UInt32.ofNat k).toNat = retry.delay k := by
  intro t moments
  have coherent := Coherent.empty retry includeBroken
  have chains (n : Nat) : OneChain retry moments n :=
    coherent.oneChain live (attempts_empty retry includeBroken n)
  refine ⟨⟨chains, ?_⟩, fun n => (chains n).onTime_iff⟩
  rintro n s known current ⟨m, member, returned⟩
  obtain ⟨i, at_i⟩ := List.getElem?_of_mem member
  exact (coherent.run events).registered_or_underway known current
    (coherent.provided_after live at_i returned)

def reviving (service : ServiceKey) : List Event :=
  [.subscribe service, .firstFetchReturned 0 none, .start .registration, .registerReturned false,
    .retryDue 0, .start .registration, .registerReturned false, .unsubscribe service 0,
    .subscribe service, .firstFetchReturned 1 none, .start .registration, .retryDue 1,
    .registerReturned true, .start .registration]

theorem one_retry_chain_iff_reviving :
    let service : ServiceKey := ⟨"default", "pay"⟩
    let start := empty ⟨3, 10⟩ false
    let moments := start.moments (reviving service)
    (start.run (reviving service)).isShutdown = false ∧
      (start.happenings (reviving service)).filterMap Happening.attempted? = [0, 0, 0, 0, 1] ∧
      failures moments 0 = 2 ∧ OneChain ⟨3, 10⟩ moments 0 ∧ OnTime ⟨3, 10⟩ moments 0 ∧
      (start.run (reviving service)).isRegistered service = true ∧
      (start.run (reviving service)).registrations 1 = 0 := by
  have live : ((empty ⟨3, 10⟩ false).run (reviving ⟨"default", "pay"⟩)).isShutdown = false := by decide
  obtain ⟨⟨chains, now⟩, onTime⟩ := one_retry_chain_iff ⟨3, 10⟩ false live
  have twice : failures ((empty ⟨3, 10⟩ false).moments (reviving ⟨"default", "pay"⟩)) 0 = 2 := by decide
  have early : OnTime ⟨3, 10⟩ ((empty ⟨3, 10⟩ false).moments (reviving ⟨"default", "pay"⟩)) 0 := by
    refine (onTime 0).mpr fun k failed => ?_
    rw [twice] at failed
    rw [UInt32.toNat_ofNat_of_lt' (by rw [UInt32.size]; omega)]
  refine ⟨live, by decide, twice, chains 0, early, by decide, ?_⟩
  have returned : ∃ m ∈ (empty ⟨3, 10⟩ false).moments (reviving ⟨"default", "pay"⟩), m.FirstFetches 1 :=
    ⟨_, List.mem_of_getElem? (i := 9) rfl, _, List.mem_singleton_self _, rfl, _, rfl⟩
  rcases now 1 _ rfl rfl returned with ⟨_, done⟩ | ⟨unregistered, _⟩
  · exact done
  · cases unregistered

section Failing

variable (retry : RetryPolicy) (includeBroken : Bool) (service : ServiceKey)

def failing : Nat → List Event
  | 0 => [.subscribe service, .firstFetchReturned 0 none]
  | k + 1 => failing k ++ [.start .registration, .registerReturned false, .retryDue k]

def afterFailures (k : Nat) : Topology :=
  { empty retry includeBroken with
    subscriptions := [.opened service 0]
    dispatcher := ⟨⟨none, [.watch 0 (.ofNat k)]⟩, .empty, [], k, false⟩
    nextListener := 1 }

theorem afterFailures_run (k : Nat) :
    (afterFailures retry includeBroken service k).run
        [.start .registration, .registerReturned false, .retryDue k] =
      afterFailures retry includeBroken service (k + 1) := by
  let job : Job := .watch 0 (.ofNat (k + 1))
  have postponed : (afterFailures retry includeBroken service k).run
      [.start .registration, .registerReturned false] =
        { afterFailures retry includeBroken service k with
          dispatcher := ⟨.empty, .empty, [⟨k, .registration, job⟩], k + 1, false⟩ } := by
    simp only [job, UInt32.ofNat_add]
    rfl
  have expired : Dispatcher.expire ⟨.empty, .empty, [⟨k, .registration, job⟩], k + 1, false⟩ k =
      ⟨⟨none, [job]⟩, .empty, [], k + 1, false⟩ := by
    simp [Dispatcher.expire, Dispatcher.forget, Dispatcher.submit?]
    rfl
  calc (afterFailures retry includeBroken service k).run
        [.start .registration, .registerReturned false, .retryDue k]
      = (((afterFailures retry includeBroken service k).run
          [.start .registration, .registerReturned false]).turn (.retryDue k)).after := rfl
    _ = { afterFailures retry includeBroken service k with
          dispatcher := Dispatcher.expire
            ⟨.empty, .empty, [⟨k, .registration, job⟩], k + 1, false⟩ k } := by
      rw [postponed]
      rfl
    _ = afterFailures retry includeBroken service (k + 1) := by
      rw [expired]
      rfl

theorem failing_run (k : Nat) :
    (empty retry includeBroken).run (failing service k) =
      afterFailures retry includeBroken service k := by
  induction k with
  | zero => rfl
  | succ k ih => rw [failing, run_append, ih, afterFailures_run]

theorem failing_failures (k : Nat) :
    failures ((empty retry includeBroken).moments (failing service k)) 0 = k := by
  induction k with
  | zero => rfl
  | succ k ih =>
    rw [failing, moments_append, failures_append, ih, failing_run]
    rfl

end Failing

/-- The count of failures starts again, and with it the delay. -/
theorem wrapped_count_restarts_delay :
    let service : ServiceKey := ⟨"default", "pay"⟩
    let start := empty ⟨3, 10⟩ false
    let moments := start.moments (failing service 4294967297)
    (start.run (failing service 4294967297)).isShutdown = false ∧
      failures moments 0 = 4294967297 ∧
      (∃ (p : Nat) (m : Moment) (ticket : Nat), moments[p]? = some m ∧
        failures (moments.take p) 0 = 4294967296 ∧ m.happenings = [.retrying ticket 0 1 3]) ∧
      RetryPolicy.delay ⟨3, 10⟩ 4294967296 = 10 ∧ ¬OnTime ⟨3, 10⟩ moments 0 := by
  intro service start moments
  have after := failing_run ⟨3, 10⟩ false service 4294967297
  have live : (start.run (failing service 4294967297)).isShutdown = false := by
    rw [after]
    rfl
  have failed : failures moments 0 = 4294967297 := failing_failures ⟨3, 10⟩ false service 4294967297
  have chain := (Coherent.empty ⟨3, 10⟩ false).oneChain live (attempts_empty ⟨3, 10⟩ false 0)
  have bound : 4294967296 < failures moments 0 := by
    rw [failed]
    decide
  obtain ⟨p, m, at_p, tried, before⟩ := exists_failure bound
  have number : failures (moments.take (p + 1)) 0 = 4294967297 := by
    rw [failures_take_failed at_p tried, before]
  have told := (chain.retried p m at_p tried).1
  rw [number] at told
  refine ⟨live, failed, ⟨p, m, _, at_p, before, told⟩, by decide, fun onTime => ?_⟩
  have agree := chain.onTime_iff.mp onTime 4294967296 bound
  exact absurd agree (by decide)

end Topology

end TrafficControl
