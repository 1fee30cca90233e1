import TrafficControl.Proofs.Topology.Freshness

namespace TrafficControl

open WatchLedger

def Happening.attempted? : Happening → Option Nat
  | .registering n _ | .retrying _ n _ _ => some n
  | _ => none

namespace Topology

def tried? (t : Topology) : Event → Option (Nat × Bool)
  | .registerReturned succeeded =>
    match t.dispatcher.registration.running with
    | some (.watch n _) => some (n, succeeded)
    | _ => none
  | _ => none

def work (t : Topology) : List Job :=
  t.dispatcher.registration.tasks ++ t.dispatcher.delayed.map Delayed.task

def registrations (t : Topology) (n : Nat) : Nat := (t.work.filterMap Job.watched?).count n

inductive RegisterChange (t : Topology) : Event → Turn Unit → Prop where
  | still {e : Event} {turn : Turn Unit} (cancels : List Job)
      (running : turn.after.dispatcher.registration.running = t.dispatcher.registration.running)
      (queue : turn.after.dispatcher.registration.queue = t.dispatcher.registration.queue ++ cancels)
      (watchless : ∀ job ∈ cancels, job.watched? = none)
      (delayed : turn.after.dispatcher.delayed = t.dispatcher.delayed)
      (silent : ∀ happening ∈ turn.happenings, happening.attempted? = none)
      (untried : t.tried? e = none) : RegisterChange t e turn
  | queued {o : Opening} {fetched? : Option Instances} {turn : Turn Unit} (waiting : o ∈ t.openings)
      (lane : turn.after.dispatcher.registration = ⟨t.dispatcher.registration.running,
        t.dispatcher.registration.queue ++ [.watch o.subscription 0]⟩)
      (delayed : turn.after.dispatcher.delayed = t.dispatcher.delayed)
      (silent : ∀ happening ∈ turn.happenings, happening.attempted? = none) :
      RegisterChange t (.firstFetchReturned o.listener fetched?) turn
  | resumed {w : Delayed Job} {n : Nat} {attempt : UInt32} (waiting : w ∈ t.dispatcher.delayed)
      (task : w.task = .watch n attempt) :
      RegisterChange t (.retryDue w.ticket)
        (((t.forget w.ticket).occupy .registration t.dispatcher.registration.running
          (t.dispatcher.registration.queue ++ [.watch n attempt])).quietly ())
  | began {n : Nat} {attempt : UInt32} {rest : List Job} {s : Subscription}
      (free : t.dispatcher.registration.running = none)
      (head : t.dispatcher.registration.queue = .watch n attempt :: rest)
      (known : t.subscriptions[n]? = some s) (current : s.isCurrent = true) :
      RegisterChange t (.start .registration)
        ⟨(), t.occupy .registration (some (.watch n attempt)) rest, [.registering n s.service]⟩
  | passed {job : Job} {rest : List Job} {running? : Option Job} {turn : Turn Unit}
      (free : t.dispatcher.registration.running = none)
      (head : t.dispatcher.registration.queue = job :: rest)
      (lane : turn.after.dispatcher.registration = ⟨running?, rest⟩)
      (watchless : ∀ job ∈ running?, job.watched? = none)
      (delayed : turn.after.dispatcher.delayed = t.dispatcher.delayed)
      (silent : ∀ happening ∈ turn.happenings, happening.attempted? = none) :
      RegisterChange t (.start .registration) turn
  | succeeded {n : Nat} {attempt : UInt32} {running? : Option Job} {turn : Turn Unit}
      (running : t.dispatcher.registration.running = some (.watch n attempt))
      (lane : turn.after.dispatcher.registration = ⟨running?, t.dispatcher.registration.queue⟩)
      (watchless : ∀ job ∈ running?, job.watched? = none)
      (delayed : turn.after.dispatcher.delayed = t.dispatcher.delayed)
      (silent : ∀ happening ∈ turn.happenings, happening.attempted? = none) :
      RegisterChange t (.registerReturned true) turn
  | failed {n : Nat} {attempt : UInt32}
      (running : t.dispatcher.registration.running = some (.watch n attempt)) :
      RegisterChange t (.registerReturned false)
        ⟨(), t.postpone n (attempt + 1),
          [.retrying t.dispatcher.nextTicket n (attempt + 1) (t.retry.delay attempt.toNat)]⟩
  | freed {service : ServiceKey} {turn : Turn Unit}
      (running : t.dispatcher.registration.running = some (.cancel service))
      (lane : turn.after.dispatcher.registration = ⟨none, t.dispatcher.registration.queue⟩)
      (delayed : turn.after.dispatcher.delayed = t.dispatcher.delayed)
      (silent : ∀ happening ∈ turn.happenings, happening.attempted? = none) :
      RegisterChange t .cancelReturned turn

variable {t u : Topology} {n : Nat} {attempt : UInt32} {s : Subscription}

theorem scheduleFetch_registration (n : Nat) :
    (t.scheduleFetch n).dispatcher.registration = t.dispatcher.registration ∧
      (t.scheduleFetch n).dispatcher.delayed = t.dispatcher.delayed := by
  rcases scheduleFetch_cases (t := t) n with same | queued
  · rw [same]
    exact ⟨rfl, rfl⟩
  · rw [queued]
    exact ⟨rfl, rfl⟩

theorem submitJob_live (live : t.isShutdown = false) (job : Job) :
    t.submitJob job = t.occupy .registration t.dispatcher.registration.running
      (t.dispatcher.registration.queue ++ [job]) := by
  rw [submitJob_eq, accepted, live]
  rfl

theorem RegisterChange.closing {e : Event} (same : u.dispatcher = t.dispatcher)
    (untried : t.tried? e = none) (number : Nat) (order : List ServiceKey) :
    RegisterChange t e (u.continueClosing number order) := by
  have frame : (u.closeNext order).1.dispatcher = t.dispatcher := by
    rw [closeNext_frame]
    exact same
  have still {turn : Turn Unit} (dispatcher : turn.after.dispatcher = t.dispatcher)
      (silent : ∀ happening ∈ turn.happenings, happening.attempted? = none) :
      RegisterChange t e turn :=
    .still [] (by rw [dispatcher]) (by rw [dispatcher, List.append_nil]) (List.forall_mem_nil _)
      (by rw [dispatcher]) silent untried
  rcases continueClosing_cases (t := u) number order with ⟨service, left, _, waits⟩ | ⟨_, ends⟩
  · rw [waits]
    exact still frame (List.forall_mem_singleton.mpr rfl)
  · rw [ends]
    simp only [quietly, endClosing]
    split
    · exact still frame (List.forall_mem_nil _)
    · exact still frame (List.forall_mem_nil _)

theorem tried?_of_ignored {e : Event} (ignores : t.Ignores e) : t.tried? e = none := by
  cases e with
  | registerReturned succeeded =>
    simp only [tried?]
    split
    · next n attempt running => exact absurd running (ignores n attempt)
    · rfl
  | _ => rfl

theorem tried?_of_running (running : t.dispatcher.registration.running = some (.watch n attempt))
    (succeeded : Bool) : t.tried? (.registerReturned succeeded) = some (n, succeeded) := by
  simp only [tried?, running]

theorem running_of_tried? {e : Event} {succeeded : Bool}
    (tried : t.tried? e = some (n, succeeded)) :
    e = .registerReturned succeeded ∧
      ∃ attempt, t.dispatcher.registration.running = some (.watch n attempt) := by
  cases e with
  | registerReturned returned =>
    simp only [tried?] at tried
    split at tried
    · next m attempt running =>
      cases tried
      exact ⟨rfl, attempt, running⟩
    · cases tried
  | _ => cases tried

theorem delivered_silent (listeners : List Nat) (service : ServiceKey) (instances : Instances) :
    ∀ happening ∈ listeners.map fun l => Happening.delivered l service instances,
      happening.attempted? = none := by
  simp [Happening.attempted?]

theorem Step.registering {e : Event} {turn : Turn Unit} (step : Step t e turn)
    (live : t.isShutdown = false) : RegisterChange t e turn := by
  -- Most steps are of no concern to registrations.
  have still {e : Event} {turn : Turn Unit} (untried : t.tried? e = none)
      (lane : turn.after.dispatcher.registration = t.dispatcher.registration)
      (delayed : turn.after.dispatcher.delayed = t.dispatcher.delayed)
      (silent : ∀ happening ∈ turn.happenings, happening.attempted? = none) :
      RegisterChange t e turn :=
    .still [] (by rw [lane]) (by rw [lane, List.append_nil]) (List.forall_mem_nil _) delayed silent
      untried
  cases step with
  | ignored ignores => exact still (tried?_of_ignored ignores) rfl rfl (List.forall_mem_nil _)
  | @joined _ n s _ _ =>
    refine still rfl rfl rfl ?_
    cases known : s.snapshot? <;> simp [Turn.forget, join, known, Happening.attempted?]
  | opened _ _ => exact still rfl rfl rfl (List.forall_mem_singleton.mpr rfl)
  | left _ _ _ => exact still rfl rfl rfl (List.forall_mem_nil _)
  | removed _ _ _ _ => exact still rfl rfl rfl (List.forall_mem_nil _)
  | @cancelled service listener n _ _ _ _ _ =>
    have removed : ((t.dismiss n listener).remove n).2.isShutdown = false := live
    simp only [submitJob_live removed]
    exact .still [.cancel service] rfl rfl (List.forall_mem_singleton.mpr rfl) rfl
      (List.forall_mem_nil _) rfl
  | refreshed _ =>
    exact still rfl (scheduleFetch_registration _).1 (scheduleFetch_registration _).2
      (List.forall_mem_nil _)
  | watchStarted free head known current => exact .began free head known current
  | watchSkipped free head _ _ =>
    exact .passed free head rfl (by simp) rfl (List.forall_mem_nil _)
  | cancelStarted free head =>
    exact .passed free head rfl (by simp [Job.watched?]) rfl (List.forall_mem_singleton.mpr rfl)
  | fetchStarted _ _ _ _ => exact still rfl rfl rfl (List.forall_mem_singleton.mpr rfl)
  | fetchSkipped _ _ _ _ => exact still rfl rfl rfl (List.forall_mem_nil _)
  | @watchRegistered n _ _ running _ _ =>
    have lanes := scheduleFetch_registration (t := t.markRegistered n) n
    have lane : (((t.markRegistered n).scheduleFetch n).finish .registration).dispatcher.registration
        = ⟨none, t.dispatcher.registration.queue⟩ := by
      simp only [finish_eq, occupy, Dispatcher.withLane, Dispatcher.lane, lanes.1]
      rfl
    exact .succeeded running lane (by simp) lanes.2 (List.forall_mem_singleton.mpr rfl)
  | watchOutlived running _ _ =>
    exact .succeeded running rfl (by simp [Job.watched?]) rfl (by simp [Happening.attempted?])
  | watchRetried running _ =>
    rw [retryWatch_eq live]
    exact .failed running
  | watchGivenUp _ shut =>
    rw [live] at shut
    cases shut
  | cancelReturned running => exact .freed running rfl rfl (List.forall_mem_nil _)
  | fetchPublished _ _ _ => exact still rfl rfl rfl (delivered_silent _ _ _)
  | fetchFruitless _ _ _ => exact still rfl rfl rfl (List.forall_mem_nil _)
  | fetchBrokeOff _ => exact still rfl rfl rfl (List.forall_mem_nil _)
  | @openingPublished o s instances waiting _ _ =>
    have kept : ((t.settle o.listener).keep o.subscription instances).isShutdown = false := live
    simp only [submitJob_live kept]
    exact .queued waiting rfl rfl (delivered_silent _ _ _)
  | @openingFruitless o _ _ waiting _ _ =>
    have settled : (t.settle o.listener).isShutdown = false := live
    simp only [submitJob_live settled]
    exact .queued waiting rfl rfl (List.forall_mem_nil _)
  | openingBrokeOff _ => exact still rfl rfl rfl (List.forall_mem_nil _)
  | @retried w _ _ waiting task =>
    have forgotten : (t.forget w.ticket).isShutdown = false := live
    rw [submitJob_live forgotten]
    exact .resumed waiting task
  | closed order =>
    exact RegisterChange.closing (t := t) (e := .close order)
      (u := { t with nextClosing := t.nextClosing + 1 }) rfl rfl _ order
  | @closedOn c _ =>
    exact RegisterChange.closing (t := t) (e := .closeReturned c.number)
      (u := { t with closings := t.closings.filter fun d => d.number ≠ c.number }) rfl rfl _ _
  | shut => exact still rfl rfl rfl (List.forall_mem_nil _)
  | destroyed _ => exact still rfl rfl rfl (List.forall_mem_nil _)
  | @drained order _ _ =>
    exact RegisterChange.closing (t := t) (e := .drained order)
      (u := { t with destruction := .closing t.nextClosing, nextClosing := t.nextClosing + 1 })
      rfl rfl _ _

theorem mem_work {job : Job} :
    job ∈ t.work ↔ t.dispatcher.registration.running = some job ∨
      job ∈ t.dispatcher.registration.queue ∨ ∃ w ∈ t.dispatcher.delayed, w.task = job := by
  simp only [work, Lane.tasks, List.mem_append, Option.mem_toList, List.mem_map, or_assoc]

theorem mem_work_of_running {job : Job} (running : t.dispatcher.registration.running = some job) :
    job ∈ t.work := mem_work.mpr (.inl running)

theorem mem_work_of_queue {job : Job} (queued : job ∈ t.dispatcher.registration.queue) :
    job ∈ t.work := mem_work.mpr (.inr (.inl queued))

theorem mem_work_of_delayed {job : Job} (held : ∃ w ∈ t.dispatcher.delayed, w.task = job) :
    job ∈ t.work := mem_work.mpr (.inr (.inr held))

theorem mem_work_of_later {job first : Job} {rest : List Job}
    (head : t.dispatcher.registration.queue = first :: rest) (later : job ∈ rest) : job ∈ t.work := by
  apply mem_work_of_queue
  rw [head]
  exact List.mem_cons_of_mem _ later

theorem not_watched_of_count {jobs : List Job}
    (uncounted : (jobs.filterMap Job.watched?).count n = 0) :
    .watch n attempt ∉ jobs := fun member =>
  List.count_eq_zero.mp uncounted (List.mem_filterMap.mpr ⟨_, member, rfl⟩)

theorem count_underway_ledger (t : Topology) (n : Nat) :
    t.ledger.underway.count n =
      (t.openings.map Opening.subscription).count n + t.registrations n := by
  rw [underway, List.count_append]
  rfl

theorem mem_underway_iff :
    n ∈ t.ledger.underway ↔
      (∃ o ∈ t.openings, o.subscription = n) ∨ ∃ attempt, .watch n attempt ∈ t.work := by
  simp only [mem_underway, mem_work, exists_or]
  simp only [Topology.ledger, List.mem_map]

theorem not_underway_iff :
    n ∉ t.ledger.underway ↔ t.registrations n = 0 ∧ ∀ o ∈ t.openings, o.subscription ≠ n := by
  rw [← List.count_eq_zero, count_underway_ledger, Nat.add_eq_zero_iff, and_comm]
  simp [List.count_eq_zero]

theorem registrations_pos (task : .watch n attempt ∈ t.work) : 0 < t.registrations n :=
  List.count_pos_iff.mpr (List.mem_filterMap.mpr ⟨_, task, rfl⟩)

structure Alone (t : Topology) (n : Nat) : Prop where
  queue : ∀ attempt, .watch n attempt ∉ t.dispatcher.registration.queue
  delayed : ∀ w ∈ t.dispatcher.delayed, ∀ attempt, w.task ≠ .watch n attempt

theorem alone_of_running (ledger : t.ledger.Consistent)
    (running : t.dispatcher.registration.running = some (.watch n attempt)) : t.Alone n := by
  have runs : (t.ledger.running.toList.filterMap Job.watched?).count n = 1 := by
    simp [Topology.ledger, running, Job.watched?]
  have once := ledger.once n
  rw [count_underway, runs] at once
  have queue : (t.ledger.queue.filterMap Job.watched?).count n = 0 := by omega
  have waiting : (t.ledger.waiting.filterMap Job.watched?).count n = 0 := by omega
  constructor
  · exact fun _ => not_watched_of_count queue
  · intro w member other task
    have held : .watch n other ∈ t.ledger.waiting := task ▸ List.mem_map_of_mem member
    exact not_watched_of_count waiting held

section Facts

variable {e : Event} {turn : Turn Unit}

theorem RegisterChange.begins {service : ServiceKey} (change : RegisterChange t e turn)
    (begun : .registering n service ∈ turn.happenings) :
    t.isCurrent n = true ∧ t.dispatcher.registration.running = none ∧
      ∃ attempt, .watch n attempt ∈ t.dispatcher.registration.queue ∧
        turn.after.dispatcher.registration.running = some (.watch n attempt) := by
  cases change with
  | @began m attempt rest s free head known current =>
    cases List.mem_singleton.mp begun
    refine ⟨by simp [isCurrent, known, current], free, attempt, by simp [head], rfl⟩
  | resumed _ _ => cases begun
  | failed _ => cases List.mem_singleton.mp begun
  | still _ _ _ _ _ silent _ => cases silent _ begun
  | queued _ _ _ silent => cases silent _ begun
  | passed _ _ _ _ _ silent => cases silent _ begun
  | succeeded _ _ _ _ silent => cases silent _ begun
  | freed _ _ _ silent => cases silent _ begun

theorem RegisterChange.carries (change : RegisterChange t e turn)
    (running : t.dispatcher.registration.running = some (.watch n attempt))
    (unanswered : ∀ succeeded, t.tried? e ≠ some (n, succeeded)) :
    turn.after.dispatcher.registration.running = some (.watch n attempt) := by
  cases change with
  | still _ same _ _ _ _ _ => rw [same, running]
  | queued _ lane _ _ => rw [lane, running]
  | resumed _ _ => exact running
  | began free _ _ _ => cases free.symm.trans running
  | passed free _ _ _ _ _ => cases free.symm.trans running
  | succeeded _ _ _ _ _ => exact absurd (tried?_of_running running true) (unanswered true)
  | failed _ => exact absurd (tried?_of_running running false) (unanswered false)
  | freed other _ _ _ => cases other.symm.trans running

theorem RegisterChange.retries {ticket delay : Nat} (change : RegisterChange t e turn)
    (told : .retrying ticket n attempt delay ∈ turn.happenings) : t.tried? e = some (n, false) := by
  cases change with
  | failed running =>
    cases List.mem_singleton.mp told
    exact tried?_of_running running false
  | began _ _ _ _ => cases List.mem_singleton.mp told
  | resumed _ _ => cases told
  | still _ _ _ _ _ silent _ => cases silent _ told
  | queued _ _ _ silent => cases silent _ told
  | passed _ _ _ _ _ silent => cases silent _ told
  | succeeded _ _ _ _ silent => cases silent _ told
  | freed _ _ _ silent => cases silent _ told

theorem RegisterChange.fails (change : RegisterChange t e turn)
    (failed : t.tried? e = some (n, false)) :
    ∃ attempt, t.dispatcher.registration.running = some (.watch n attempt) ∧
      turn = ⟨(), t.postpone n (attempt + 1),
        [.retrying t.dispatcher.nextTicket n (attempt + 1) (t.retry.delay attempt.toNat)]⟩ := by
  obtain ⟨rfl, attempt, running⟩ := running_of_tried? failed
  cases change with
  | still _ _ _ _ _ _ untried => cases untried.symm.trans failed
  | failed runs =>
    cases running.symm.trans runs
    exact ⟨attempt, running, rfl⟩

/-- Where a task to register a watch comes from: it was there before, it is the first one of its
subscription, or it follows one that has just failed. -/
theorem RegisterChange.source (change : RegisterChange t e turn) (ledger : t.ledger.Consistent)
    (task : .watch n attempt ∈ turn.after.work) :
    (.watch n attempt ∈ t.work ∧ ∀ succeeded, t.tried? e ≠ some (n, succeeded)) ∨
      (attempt = 0 ∧ t.tried? e = none ∧ ∃ o ∈ t.openings, o.subscription = n) ∨
      ∃ before, attempt = before + 1 ∧ .watch n before ∈ t.work ∧ t.tried? e = some (n, false) := by
  -- No other task of its subscription is left beside the one that has returned.
  have old (untried : t.tried? e = none) (member : .watch n attempt ∈ t.work) :
      .watch n attempt ∈ t.work ∧ ∀ succeeded, t.tried? e ≠ some (n, succeeded) :=
    ⟨member, by simp [untried]⟩
  have other {m : Nat} {before : UInt32} {succeeded : Bool}
      (running : t.dispatcher.registration.running = some (.watch m before))
      (held : .watch n attempt ∈ t.dispatcher.registration.queue ∨
        ∃ w ∈ t.dispatcher.delayed, w.task = .watch n attempt) :
      .watch n attempt ∈ t.work ∧
        ∀ returned, t.tried? (.registerReturned succeeded) ≠ some (n, returned) := by
    have alone := alone_of_running ledger running
    have different : m ≠ n := by
      rintro rfl
      rcases held with queued | ⟨w, held, task⟩
      · exact alone.queue attempt queued
      · exact alone.delayed w held attempt task
    refine ⟨mem_work.mpr (.inr held), fun returned tried => ?_⟩
    rw [tried?_of_running running] at tried
    cases tried
    exact different rfl
  rw [mem_work] at task
  cases change with
  | still cancels running queue watchless delayed _ untried =>
    rw [running, queue, delayed, List.mem_append] at task
    rcases task with runs | (queued | pushed) | held
    · exact .inl (old untried (mem_work_of_running runs))
    · exact .inl (old untried (mem_work_of_queue queued))
    · cases watchless _ pushed
    · exact .inl (old untried (mem_work_of_delayed held))
  | queued waiting lane delayed _ =>
    rw [lane, delayed, List.mem_append] at task
    rcases task with runs | (queued | pushed) | held
    · exact .inl (old rfl (mem_work_of_running runs))
    · exact .inl (old rfl (mem_work_of_queue queued))
    · cases List.mem_singleton.mp pushed
      exact .inr (.inl ⟨rfl, rfl, _, waiting, rfl⟩)
    · exact .inl (old rfl (mem_work_of_delayed held))
  | resumed waiting resumed =>
    rcases task with runs | queued | ⟨w, held, task⟩
    · exact .inl (old rfl (mem_work_of_running runs))
    · rcases List.mem_append.mp queued with queued | pushed
      · exact .inl (old rfl (mem_work_of_queue queued))
      · cases List.mem_singleton.mp pushed
        exact .inl (old rfl (mem_work_of_delayed ⟨_, waiting, resumed⟩))
    · exact .inl (old rfl (mem_work_of_delayed ⟨w, (List.mem_filter.mp held).1, task⟩))
  | began free head _ _ =>
    rcases task with runs | later | held
    · cases runs
      exact .inl (old rfl (mem_work_of_queue (by simp [head])))
    · exact .inl (old rfl (mem_work_of_later head later))
    · exact .inl (old rfl (mem_work_of_delayed held))
  | passed _ head lane watchless delayed _ =>
    rw [lane, delayed] at task
    rcases task with runs | later | held
    · cases watchless _ runs
    · exact .inl (old rfl (mem_work_of_later head later))
    · exact .inl (old rfl (mem_work_of_delayed held))
  | succeeded running lane watchless delayed _ =>
    rw [lane, delayed] at task
    rcases task with runs | held
    · cases watchless _ runs
    · exact .inl (other running held)
  | @failed m before running =>
    rcases task with runs | queued | ⟨w, held, task⟩
    · cases runs
    · exact .inl (other running (.inl queued))
    · rcases List.mem_append.mp held with held | new
      · exact .inl (other running (.inr ⟨w, held, task⟩))
      · cases List.mem_singleton.mp new
        cases task
        exact .inr (.inr ⟨before, rfl, mem_work_of_running running, tried?_of_running running false⟩)
  | freed _ lane delayed _ =>
    rw [lane, delayed] at task
    rcases task with runs | held
    · cases runs
    · exact .inl (old rfl (mem_work.mpr (.inr held)))

end Facts

def FirstFetched (t : Topology) (n : Nat) : Prop :=
  (t.feed? n).isSome = true ∧ ∀ o ∈ t.openings, o.subscription ≠ n

namespace Coherent

theorem registering (coherent : t.Coherent) (live : t.isShutdown = false) (e : Event) :
    RegisterChange t e (t.turn e) :=
  (coherent.numbered.step e).registering live

theorem firstFetched_of_work (coherent : t.Coherent) (task : .watch n attempt ∈ t.work) :
    t.FirstFetched n := by
  have counts := registrations_pos task
  have once := coherent.ledger.once n
  have counted := count_underway_ledger t n
  constructor
  · have underway : n ∈ t.ledger.underway := List.count_pos_iff.mp (by omega)
    have bound := coherent.ledger.known n underway
    have bound : n < t.subscriptions.length := by simpa [Topology.ledger] using bound
    simp [feed?, List.getElem?_eq_getElem bound]
  · rintro o member rfl
    have opening : 0 < (t.openings.map Opening.subscription).count o.subscription :=
      List.count_pos_iff.mpr (List.mem_map_of_mem member)
    omega

theorem firstFetched_of_tried (coherent : t.Coherent) {e : Event} {succeeded : Bool}
    (tried : t.tried? e = some (n, succeeded)) : t.FirstFetched n := by
  obtain ⟨_, attempt, running⟩ := running_of_tried? tried
  exact coherent.firstFetched_of_work (mem_work_of_running running)

theorem stays_firstFetched (coherent : t.Coherent) (fetched : t.FirstFetched n) (e : Event) :
    (t.turn e).after.FirstFetched n := by
  obtain ⟨known, left⟩ := fetched
  obtain ⟨f, before⟩ := Option.isSome_iff_exists.mp known
  obtain ⟨g, after, _⟩ := (coherent.change e).evolves before
  exact ⟨by simp [after], (coherent.fetching e).no_opening known left⟩

theorem stays_off (coherent : t.Coherent) (known : n < t.subscriptions.length)
    (off : n ∉ t.ledger.underway) (e : Event) :
    n < (t.turn e).after.subscriptions.length ∧ n ∉ (t.turn e).after.ledger.underway := by
  have moved := (coherent.numbered.moves e).stays_off (m := n)
    (by simpa [Topology.ledger] using known) off
  simpa [Topology.ledger] using moved

theorem provides (coherent : t.Coherent) (live : t.isShutdown = false) {e : Event}
    (unbroken : ∀ listener, e = .firstFetchBrokeOff listener → ⟨listener, n⟩ ∉ t.openings)
    (provides : t.ledger.Provides n) : (t.turn e).after.ledger.Provides n := by
  cases strands : e.strands with
  | false =>
    have moves := coherent.numbered.moves e
    rw [live, strands] at moves
    exact moves.provides coherent.ledger provides
  | true =>
    cases e with
    | firstFetchBrokeOff listener =>
      have step := coherent.numbered.step (.firstFetchBrokeOff listener)
      generalize t.turn (.firstFetchBrokeOff listener) = turn at step
      cases step with
      | ignored _ => exact provides
      | @openingBrokeOff o waiting =>
        have other : n ≠ o.subscription := by
          rintro rfl
          exact unbroken o.listener rfl waiting
        obtain ⟨before, after, waits, same⟩ := coherent.numbered.ledger_settle waiting
        rw [show ((t.settle o.listener).quietly ()).after = t.settle o.listener from rfl, same]
        exact provides.settledLost waits other
    | _ => cases strands

theorem live_before (coherent : t.Coherent) {events : List Event}
    (live : (t.run events).isShutdown = false) : t.isShutdown = false := by
  induction events generalizing t with
  | nil => exact live
  | cons e rest ih =>
    have after := ih (coherent.turn e) live
    rcases (coherent.numbered.step e).isShutdown with same | ⟨shut, _⟩
    · exact same.symm.trans after
    · rw [shut] at after
      cases after

theorem live_take (coherent : t.Coherent) {events : List Event}
    (live : (t.run events).isShutdown = false) (p : Nat) :
    (t.run (events.take p)).isShutdown = false := by
  have rest : ((t.run (events.take p)).run (events.drop p)).isShutdown = false := by
    rw [← run_append, List.take_append_drop]
    exact live
  exact (coherent.run (events.take p)).live_before rest

theorem keeps_since (coherent : t.Coherent) {events : List Event} {Kept : Topology → Prop}
    (live : (t.run events).isShutdown = false)
    (step : ∀ u e, u.Coherent → u.isShutdown = false → Kept u → Kept (u.turn e).after) {first p : Nat}
    (order : first ≤ p) (bound : p ≤ events.length) (start : Kept (t.run (events.take first))) :
    Kept (t.run (events.take p)) := by
  refine holds_from events (fun p => Kept (t.run (events.take p))) first start ?_ p order bound
  intro q e _ at_q kept
  rw [run_take_succ at_q]
  exact step _ e (coherent.run _) (coherent.live_take live q) kept

end Coherent

end Topology

end TrafficControl
