import TrafficControl.Proofs.Topology.Run

namespace TrafficControl

namespace Topology

def Registers (t : Topology) (job : Job) : Prop :=
  (∃ n attempt, n < t.subscriptions.length ∧ job = .watch n attempt) ∨ ∃ service, job = .cancel service

def Fetches (t : Topology) (job : Job) : Prop := ∃ n, n < t.subscriptions.length ∧ job = .fetch n

/-- Tasks, openings and delays refer to subscriptions that there are, each lane has tasks of its own
kind only, and whatever is awaited has a number of its own. -/
structure Numbered (t : Topology) : Prop where
  registration : ∀ job ∈ t.dispatcher.registration.tasks, t.Registers job
  fetch : ∀ job ∈ t.dispatcher.fetch.tasks, t.Fetches job
  delayed : ∀ w ∈ t.dispatcher.delayed, w.ticket < t.dispatcher.nextTicket ∧
    w.lane = .registration ∧
      ∃ n attempt, n < t.subscriptions.length ∧ w.task = .watch n attempt
  tickets : (t.dispatcher.delayed.map Delayed.ticket).Nodup
  openings : ∀ o ∈ t.openings, o.subscription < t.subscriptions.length ∧ o.listener < t.nextListener
  openers : (t.openings.map Opening.listener).Nodup
  closings : ∀ c ∈ t.closings, c.number < t.nextClosing
  closers : (t.closings.map Closing.number).Nodup

def accepted (t : Topology) (job : Job) : List Job := if t.isShutdown then [] else [job]

def occupy (t : Topology) (name : LaneName) (running : Option Job) (queue : List Job) : Topology :=
  { t with dispatcher := t.dispatcher.withLane ⟨running, queue⟩ name }

def settle (t : Topology) (listener : Nat) : Topology :=
  { t with openings := t.openings.filter fun o => o.listener ≠ listener }

def forget (t : Topology) (ticket : Nat) : Topology :=
  { t with dispatcher := t.dispatcher.forget ticket }

def clearPending (t : Topology) (n : Nat) : Topology :=
  t.modify n fun s => { s with fetchPending := false }

def keep (t : Topology) (n : Nat) (instances : Instances) : Topology :=
  t.modify n fun s => { s with snapshot? := some instances }

def dismiss (t : Topology) (n : Nat) (listener : Nat) : Topology :=
  t.modify n fun s => { s with listeners := s.listeners.filter (· ≠ listener) }

def markRegistered (t : Topology) (n : Nat) : Topology :=
  t.modify n fun s => { s with registered := true }

def Ignores (t : Topology) : Event → Prop
  | .subscribe _ | .destroy => t.isShutdown = true
  | .unsubscribe service listener =>
    ∀ n s, t.current? service = some (n, s) → listener ∉ s.listeners
  | .refresh service => t.current? service = none
  | .start lane => t.dispatcher.start? lane = none
  | .registerReturned _ => ∀ n attempt, t.dispatcher.registration.running ≠ some (.watch n attempt)
  | .cancelReturned => ∀ service, t.dispatcher.registration.running ≠ some (.cancel service)
  | .fetchReturned _ | .fetchBrokeOff => ∀ n, t.dispatcher.fetch.running ≠ some (.fetch n)
  | .firstFetchReturned listener _ | .firstFetchBrokeOff listener =>
    ∀ o ∈ t.openings, o.listener ≠ listener
  | .retryDue ticket => ∀ w ∈ t.dispatcher.delayed, w.ticket ≠ ticket
  | .closeReturned number => ∀ c ∈ t.closings, c.number ≠ number
  | .drained _ => ¬(t.destruction = .draining ∧ t.dispatcher.isDrained = true)
  | .close _ | .shutdown => False

/-- What a step can do. The parameters are what holds before it. -/
inductive Step (t : Topology) : Event → Turn Unit → Prop where
  | ignored {e : Event} (ignores : t.Ignores e) : Step t e (t.quietly ())
  | joined {service : ServiceKey} {n : Nat} {s : Subscription} (live : t.isShutdown = false)
      (found : t.current? service = some (n, s)) : Step t (.subscribe service) (t.join n s).forget
  | opened {service : ServiceKey} (live : t.isShutdown = false)
      (absent : t.current? service = none) : Step t (.subscribe service) (t.openFor service).forget
  | left {service : ServiceKey} {listener n : Nat} {s : Subscription}
      (found : t.current? service = some (n, s)) (member : listener ∈ s.listeners)
      (others : s.listeners.filter (· ≠ listener) ≠ []) :
      Step t (.unsubscribe service listener) ((t.dismiss n listener).quietly ())
  | removed {service : ServiceKey} {listener n : Nat} {s : Subscription}
      (found : t.current? service = some (n, s)) (member : listener ∈ s.listeners)
      (alone : s.listeners.filter (· ≠ listener) = []) (unregistered : s.registered = false) :
      Step t (.unsubscribe service listener) (((t.dismiss n listener).remove n).2.quietly ())
  | cancelled {service : ServiceKey} {listener n : Nat} {s : Subscription}
      (found : t.current? service = some (n, s)) (member : listener ∈ s.listeners)
      (alone : s.listeners.filter (· ≠ listener) = []) (registered : s.registered = true) :
      Step t (.unsubscribe service listener)
        ((((t.dismiss n listener).remove n).2.submitJob (.cancel service)).quietly ())
  | refreshed {service : ServiceKey} {n : Nat} {s : Subscription}
      (found : t.current? service = some (n, s)) :
      Step t (.refresh service) ((t.scheduleFetch n).quietly ())
  | watchStarted {n : Nat} {attempt : UInt32} {rest : List Job} {s : Subscription}
      (free : t.dispatcher.registration.running = none)
      (head : t.dispatcher.registration.queue = .watch n attempt :: rest)
      (known : t.subscriptions[n]? = some s) (current : s.isCurrent = true) :
      Step t (.start .registration)
        ⟨(), t.occupy .registration (some (.watch n attempt)) rest, [.registering n s.service]⟩
  | watchSkipped {n : Nat} {attempt : UInt32} {rest : List Job} {s : Subscription}
      (free : t.dispatcher.registration.running = none)
      (head : t.dispatcher.registration.queue = .watch n attempt :: rest)
      (known : t.subscriptions[n]? = some s) (removed : s.isCurrent = false) :
      Step t (.start .registration) ((t.occupy .registration none rest).quietly ())
  | cancelStarted {service : ServiceKey} {rest : List Job}
      (free : t.dispatcher.registration.running = none)
      (head : t.dispatcher.registration.queue = .cancel service :: rest) :
      Step t (.start .registration)
        ⟨(), t.occupy .registration (some (.cancel service)) rest, [.cancelling .lane service]⟩
  | fetchStarted {n : Nat} {rest : List Job} {s : Subscription}
      (free : t.dispatcher.fetch.running = none) (head : t.dispatcher.fetch.queue = .fetch n :: rest)
      (known : t.subscriptions[n]? = some s) (current : s.isCurrent = true) :
      Step t (.start .fetch)
        ⟨(), (t.occupy .fetch (some (.fetch n)) rest).clearPending n, [.fetching .lane n s.service]⟩
  | fetchSkipped {n : Nat} {rest : List Job} {s : Subscription}
      (free : t.dispatcher.fetch.running = none) (head : t.dispatcher.fetch.queue = .fetch n :: rest)
      (known : t.subscriptions[n]? = some s) (removed : s.isCurrent = false) :
      Step t (.start .fetch) (((t.occupy .fetch none rest).clearPending n).quietly ())
  | watchRegistered {n : Nat} {attempt : UInt32} {s : Subscription}
      (running : t.dispatcher.registration.running = some (.watch n attempt))
      (known : t.subscriptions[n]? = some s) (current : s.isCurrent = true) :
      Step t (.registerReturned true)
        ⟨(), ((t.markRegistered n).scheduleFetch n).finish .registration,
          [.registered n s.service]⟩
  | watchOutlived {n : Nat} {attempt : UInt32} {s : Subscription}
      (running : t.dispatcher.registration.running = some (.watch n attempt))
      (known : t.subscriptions[n]? = some s) (removed : s.isCurrent = false) :
      Step t (.registerReturned true)
        ⟨(), t.occupy .registration (some (.cancel s.service)) t.dispatcher.registration.queue,
          [.registered n s.service, .cancelling .lane s.service]⟩
  | watchRetried {n : Nat} {attempt : UInt32}
      (running : t.dispatcher.registration.running = some (.watch n attempt))
      (live : t.isShutdown = false) :
      Step t (.registerReturned false) (t.retryWatch n attempt)
  | watchGivenUp {n : Nat} {attempt : UInt32}
      (running : t.dispatcher.registration.running = some (.watch n attempt))
      (shut : t.isShutdown = true) :
      Step t (.registerReturned false) ((t.finish .registration).quietly ())
  | cancelReturned {service : ServiceKey}
      (running : t.dispatcher.registration.running = some (.cancel service)) :
      Step t .cancelReturned ((t.finish .registration).quietly ())
  | fetchPublished {n : Nat} {s : Subscription} {instances : Instances}
      (running : t.dispatcher.fetch.running = some (.fetch n))
      (known : t.subscriptions[n]? = some s) (current : s.isCurrent = true) :
      Step t (.fetchReturned (some instances))
        ⟨(), (t.keep n instances).finish .fetch,
          s.listeners.map fun l => .delivered l s.service instances⟩
  | fetchFruitless {n : Nat} {s : Subscription} {fetched? : Option Instances}
      (running : t.dispatcher.fetch.running = some (.fetch n))
      (known : t.subscriptions[n]? = some s) (nothing : fetched? = none ∨ s.isCurrent = false) :
      Step t (.fetchReturned fetched?) ((t.finish .fetch).quietly ())
  | fetchBrokeOff {n : Nat} (running : t.dispatcher.fetch.running = some (.fetch n)) :
      Step t .fetchBrokeOff ((t.finish .fetch).quietly ())
  | openingPublished {o : Opening} {s : Subscription} {instances : Instances}
      (waiting : o ∈ t.openings) (known : t.subscriptions[o.subscription]? = some s)
      (current : s.isCurrent = true) :
      Step t (.firstFetchReturned o.listener (some instances))
        ⟨(), ((t.settle o.listener).keep o.subscription instances).submitJob
            (.watch o.subscription 0),
          s.listeners.map fun l => .delivered l s.service instances⟩
  | openingFruitless {o : Opening} {s : Subscription} {fetched? : Option Instances}
      (waiting : o ∈ t.openings) (known : t.subscriptions[o.subscription]? = some s)
      (nothing : fetched? = none ∨ s.isCurrent = false) :
      Step t (.firstFetchReturned o.listener fetched?)
        (((t.settle o.listener).submitJob (.watch o.subscription 0)).quietly ())
  | openingBrokeOff {o : Opening} (waiting : o ∈ t.openings) :
      Step t (.firstFetchBrokeOff o.listener) ((t.settle o.listener).quietly ())
  | retried {w : Delayed Job} {n : Nat} {attempt : UInt32} (waiting : w ∈ t.dispatcher.delayed)
      (task : w.task = .watch n attempt) :
      Step t (.retryDue w.ticket) (((t.forget w.ticket).submitJob (.watch n attempt)).quietly ())
  | closed (order : List ServiceKey) : Step t (.close order) (t.closeIn order).forget
  | closedOn {c : Closing} (waiting : c ∈ t.closings) :
      Step t (.closeReturned c.number)
        ({ t with closings := t.closings.filter fun d => d.number ≠ c.number }.continueClosing
          c.number c.left)
  | shut : Step t .shutdown (t.shutdown.quietly ())
  | destroyed (live : t.isShutdown = false) :
      Step t .destroy ({ t.shutdown with destruction := .draining }.quietly ())
  | drained {order : List ServiceKey} (draining : t.destruction = .draining)
      (idle : t.dispatcher.isDrained = true) :
      Step t (.drained order)
        ({ t with destruction := .closing t.nextClosing }.closeIn order).forget

variable {t : Topology}

theorem modify_congr {n : Nat} {s : Subscription} {f g : Subscription → Subscription}
    (known : t.subscriptions[n]? = some s) (same : f s = g s) : t.modify n f = t.modify n g := by
  have lists : t.subscriptions.modify n f = t.subscriptions.modify n g := by
    apply List.ext_getElem?
    intro m
    simp only [List.getElem?_modify]
    by_cases at_n : n = m
    · subst at_n
      simp [known, same]
    · simp [at_n]
  simp [modify, lists]

theorem subscribe_step (service : ServiceKey) :
    Step t (.subscribe service) (t.turn (.subscribe service)) := by
  simp only [turn, subscribe]
  split
  · next shut => exact .ignored shut
  · next live =>
    have live : t.isShutdown = false := by simpa using live
    split
    · next n s found => exact .joined live found
    · next absent => exact .opened live absent

theorem unsubscribe_step (service : ServiceKey) (listener : Nat) :
    Step t (.unsubscribe service listener) (t.turn (.unsubscribe service listener)) := by
  simp only [turn, unsubscribe]
  split
  · next n s found =>
    obtain ⟨known, _, _⟩ := subscription_of_current? found
    have dismissed : (t.modify n fun r => { r with listeners := s.listeners.filter (· ≠ listener) }) =
        t.dismiss n listener := modify_congr known rfl
    rw [dismissed]
    split
    · next member =>
      split
      · next alone =>
        have alone : s.listeners.filter (· ≠ listener) = [] := by simpa using alone
        have flag : ((t.dismiss n listener).remove n).1 = s.registered := by
          simp [remove, dismiss, modify, known]
        split
        · next u pair =>
          rw [pair] at flag
          have after : u = ((t.dismiss n listener).remove n).2 := by rw [pair]
          subst after
          exact .cancelled found member alone flag.symm
        · next u pair =>
          rw [pair] at flag
          have after : u = ((t.dismiss n listener).remove n).2 := by rw [pair]
          subst after
          exact .removed found member alone flag.symm
      · next others =>
        have others : s.listeners.filter (· ≠ listener) ≠ [] := by simpa using others
        exact .left found member others
    · next unknown =>
      apply Step.ignored
      intro m r also
      rw [found] at also
      cases also
      exact unknown
  · next absent =>
    apply Step.ignored
    intro m r found
    rw [absent] at found
    cases found

theorem refresh_step (service : ServiceKey) :
    Step t (.refresh service) (t.turn (.refresh service)) := by
  simp only [turn, refresh]
  split
  · next n s found => exact .refreshed found
  · next absent => exact .ignored absent

theorem Numbered.start_registration (numbered : t.Numbered) :
    Step t (.start .registration) (t.turn (.start .registration)) := by
  simp only [turn, start]
  split
  · next job d started =>
    obtain ⟨⟨task, lane⟩, taken, pair⟩ := Option.map_eq_some_iff.mp started
    cases pair
    obtain ⟨free, rest, head, rfl⟩ := Lane.start?_eq_some_iff.mp taken
    have free : t.dispatcher.registration.running = none := free
    have head : t.dispatcher.registration.queue = job :: rest := head
    rcases numbered.registration job (by simp [Lane.tasks, head]) with
      ⟨n, attempt, bound, rfl⟩ | ⟨service, rfl⟩
    · obtain ⟨s, known⟩ : ∃ s, t.subscriptions[n]? = some s := ⟨_, List.getElem?_eq_getElem bound⟩
      simp only [begin, known]
      cases current : s.isCurrent with
      | true => exact .watchStarted free head known current
      | false => exact .watchSkipped free head known current
    · exact .cancelStarted free head
  · next nothing => exact .ignored nothing

theorem Numbered.start_fetch (numbered : t.Numbered) :
    Step t (.start .fetch) (t.turn (.start .fetch)) := by
  simp only [turn, start]
  split
  · next job d started =>
    obtain ⟨⟨task, lane⟩, taken, pair⟩ := Option.map_eq_some_iff.mp started
    cases pair
    obtain ⟨free, rest, head, rfl⟩ := Lane.start?_eq_some_iff.mp taken
    have free : t.dispatcher.fetch.running = none := free
    have head : t.dispatcher.fetch.queue = job :: rest := head
    obtain ⟨n, bound, rfl⟩ := numbered.fetch job (by simp [Lane.tasks, head])
    obtain ⟨s, known⟩ : ∃ s, t.subscriptions[n]? = some s := ⟨_, List.getElem?_eq_getElem bound⟩
    simp only [begin, modify, List.getElem?_modify_eq, known, Option.map_eq_map, Option.map_some]
    cases current : s.isCurrent with
    | true => exact .fetchStarted free head known current
    | false => exact .fetchSkipped free head known current
  · next nothing => exact .ignored nothing

theorem Numbered.watched (numbered : t.Numbered) {n : Nat} {attempt : UInt32}
    (running : t.dispatcher.registration.running = some (.watch n attempt)) :
    ∃ s, t.subscriptions[n]? = some s := by
  rcases numbered.registration (.watch n attempt) (by simp [Lane.tasks, running]) with
    ⟨m, _, bound, same⟩ | ⟨_, different⟩
  · cases same
    exact ⟨_, List.getElem?_eq_getElem bound⟩
  · cases different

theorem Numbered.fetched (numbered : t.Numbered) {n : Nat}
    (running : t.dispatcher.fetch.running = some (.fetch n)) :
    ∃ s, t.subscriptions[n]? = some s := by
  obtain ⟨m, bound, same⟩ := numbered.fetch (.fetch n) (by simp [Lane.tasks, running])
  cases same
  exact ⟨_, List.getElem?_eq_getElem bound⟩

theorem Numbered.opening (numbered : t.Numbered) {o : Opening} (waiting : o ∈ t.openings) :
    ∃ s, t.subscriptions[o.subscription]? = some s :=
  ⟨_, List.getElem?_eq_getElem (numbered.openings o waiting).1⟩

theorem Numbered.registerReturned_step (numbered : t.Numbered) (succeeded : Bool) :
    Step t (.registerReturned succeeded) (t.turn (.registerReturned succeeded)) := by
  simp only [turn, registerReturned]
  split
  · next n attempt running =>
    split
    · next success =>
      subst success
      obtain ⟨s, known⟩ := numbered.watched running
      simp only [known, settleRegistered]
      cases current : s.isCurrent with
      | true => exact .watchRegistered running known current
      | false => exact .watchOutlived running known current
    · next failure =>
      have failure : succeeded = false := by simpa using failure
      subst failure
      cases live : t.isShutdown with
      | false => exact .watchRetried running live
      | true =>
        have refused : t.dispatcher.submitDelayed? .registration (.watch n (attempt + 1)) = none := by
          simp [Dispatcher.submitDelayed?, show t.dispatcher.isShutdown = true from live]
        simp only [retryWatch, refused]
        exact .watchGivenUp running live
  · next idle => exact .ignored idle

theorem cancelReturned_step : Step t .cancelReturned (t.turn .cancelReturned) := by
  simp only [turn, cancelReturned]
  split
  · next service running => exact .cancelReturned running
  · next idle => exact .ignored idle

theorem publishFetched_current {n : Nat} {s : Subscription} (known : t.subscriptions[n]? = some s)
    (current : s.isCurrent = true) (instances : Instances) :
    t.publishFetched n (some instances) =
      ⟨(), t.keep n instances, s.listeners.map fun l => .delivered l s.service instances⟩ := by
  simp [publishFetched, publish, known, current, keep]

theorem publishFetched_fruitless {n : Nat} {s : Subscription} {fetched? : Option Instances}
    (known : t.subscriptions[n]? = some s) (nothing : fetched? = none ∨ s.isCurrent = false) :
    t.publishFetched n fetched? = t.quietly () := by
  cases fetched? with
  | none => rfl
  | some instances =>
    have removed : s.isCurrent = false := by simpa using nothing
    simp [publishFetched, publish, known, removed]

theorem Numbered.fetchReturned_step (numbered : t.Numbered) (fetched? : Option Instances) :
    Step t (.fetchReturned fetched?) (t.turn (.fetchReturned fetched?)) := by
  simp only [turn, fetchReturned]
  split
  · next n running =>
    obtain ⟨s, known⟩ := numbered.fetched running
    by_cases nothing : fetched? = none ∨ s.isCurrent = false
    · rw [publishFetched_fruitless known nothing]
      exact .fetchFruitless running known nothing
    · obtain ⟨brought, current⟩ := not_or.mp nothing
      obtain ⟨instances, rfl⟩ := Option.ne_none_iff_exists'.mp brought
      have current : s.isCurrent = true := by simpa using current
      rw [publishFetched_current known current]
      exact .fetchPublished running known current
  · next idle => exact .ignored idle

theorem fetchBrokeOff_step : Step t .fetchBrokeOff (t.turn .fetchBrokeOff) := by
  simp only [turn, fetchBrokeOff]
  split
  · next n running => exact .fetchBrokeOff running
  · next idle => exact .ignored idle

theorem takeOpening?_some {listener n : Nat} {u : Topology}
    (taken : t.takeOpening? listener = some (n, u)) :
    ⟨listener, n⟩ ∈ t.openings ∧ u = t.settle listener := by
  obtain ⟨o, found, pair⟩ := Option.map_eq_some_iff.mp taken
  cases pair
  have same : o.listener = listener := by simpa using List.find?_some found
  subst same
  exact ⟨List.mem_of_find?_eq_some found, rfl⟩

theorem takeOpening?_none {listener : Nat} (untaken : t.takeOpening? listener = none) :
    ∀ o ∈ t.openings, o.listener ≠ listener := by
  simpa [takeOpening?] using untaken

theorem Numbered.firstFetchReturned_step (numbered : t.Numbered) (listener : Nat)
    (fetched? : Option Instances) :
    Step t (.firstFetchReturned listener fetched?) (t.turn (.firstFetchReturned listener fetched?)) := by
  simp only [turn, firstFetchReturned]
  split
  · next n u taken =>
    obtain ⟨waiting, rfl⟩ := takeOpening?_some taken
    obtain ⟨s, known⟩ := numbered.opening waiting
    have settled : (t.settle listener).subscriptions[n]? = some s := known
    by_cases nothing : fetched? = none ∨ s.isCurrent = false
    · rw [publishFetched_fruitless settled nothing]
      exact .openingFruitless waiting known nothing
    · obtain ⟨brought, current⟩ := not_or.mp nothing
      obtain ⟨instances, rfl⟩ := Option.ne_none_iff_exists'.mp brought
      have current : s.isCurrent = true := by simpa using current
      rw [publishFetched_current settled current]
      exact .openingPublished waiting known current
  · next untaken => exact .ignored (takeOpening?_none untaken)

theorem firstFetchBrokeOff_step (listener : Nat) :
    Step t (.firstFetchBrokeOff listener) (t.turn (.firstFetchBrokeOff listener)) := by
  simp only [turn, firstFetchBrokeOff]
  split
  · next n u taken =>
    obtain ⟨waiting, rfl⟩ := takeOpening?_some taken
    exact .openingBrokeOff waiting
  · next untaken => exact .ignored (takeOpening?_none untaken)

theorem Numbered.retryDue_step (numbered : t.Numbered) (ticket : Nat) :
    Step t (.retryDue ticket) (t.turn (.retryDue ticket)) := by
  cases found : t.dispatcher.delayed.find? fun w => w.ticket = ticket with
  | none =>
    simp only [turn, retryDue, Dispatcher.expire, found]
    apply Step.ignored
    simpa [Ignores] using found
  | some w =>
    have waiting := List.mem_of_find?_eq_some found
    have same : w.ticket = ticket := by simpa using List.find?_some found
    obtain ⟨_, lane, n, attempt, _, task⟩ := numbered.delayed w waiting
    have moved : t.turn (.retryDue ticket) =
        ((t.forget w.ticket).submitJob (.watch n attempt)).quietly () := by
      simp only [turn, retryDue, Dispatcher.expire, found, submitJob, forget, lane, task, same]
      cases submitted : (t.dispatcher.forget ticket).submit? .registration (.watch n attempt) <;> rfl
    rw [moved, ← same]
    exact .retried waiting task

theorem closeReturned_step (number : Nat) :
    Step t (.closeReturned number) (t.turn (.closeReturned number)) := by
  simp only [turn, closeReturned]
  split
  · next c found =>
    have waiting := List.mem_of_find?_eq_some found
    have same : c.number = number := by simpa using List.find?_some found
    subst same
    exact .closedOn waiting
  · next unknown =>
    apply Step.ignored
    simpa [Ignores] using unknown

theorem destroy_step : Step t .destroy (t.turn .destroy) := by
  simp only [turn, destroy]
  split
  · next shut => exact .ignored shut
  · next live => exact .destroyed (by simpa using live)

theorem drained_step (order : List ServiceKey) : Step t (.drained order) (t.turn (.drained order)) := by
  simp only [turn, drainedIn]
  split
  · next ready => exact .drained ready.1 ready.2
  · next unready => exact .ignored unready

theorem Numbered.step (numbered : t.Numbered) (e : Event) : Step t e (t.turn e) := by
  cases e with
  | subscribe service => exact subscribe_step service
  | unsubscribe service listener => exact unsubscribe_step service listener
  | refresh service => exact refresh_step service
  | start lane =>
    cases lane with
    | registration => exact numbered.start_registration
    | fetch => exact numbered.start_fetch
  | registerReturned succeeded => exact numbered.registerReturned_step succeeded
  | cancelReturned => exact cancelReturned_step
  | fetchReturned fetched? => exact numbered.fetchReturned_step fetched?
  | fetchBrokeOff => exact fetchBrokeOff_step
  | firstFetchReturned listener fetched? => exact numbered.firstFetchReturned_step listener fetched?
  | firstFetchBrokeOff listener => exact firstFetchBrokeOff_step listener
  | retryDue ticket => exact numbered.retryDue_step ticket
  | close order => exact .closed order
  | closeReturned number => exact closeReturned_step number
  | shutdown => exact .shut
  | destroy => exact destroy_step
  | drained order => exact drained_step order

end Topology

end TrafficControl
