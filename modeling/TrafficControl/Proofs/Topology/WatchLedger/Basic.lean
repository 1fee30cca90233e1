import TrafficControl.Topology.Basic

namespace TrafficControl

inductive WatchMark where
  | registered (subscription : Nat)
  | cancelled
  | abandoned
  deriving DecidableEq, Repr

namespace WatchMark

def isRegistered : WatchMark → Bool
  | .registered _ => true
  | .cancelled | .abandoned => false

/-- Whether there is a watch after the marks, given whether there was one before. A mark that does
not fit what was there before it has no result. -/
def replay : Bool → List WatchMark → Option Bool
  | there, [] => some there
  | false, .registered _ :: rest => replay true rest
  | true, .cancelled :: rest | true, .abandoned :: rest => replay false rest
  | _, _ => none

theorem replay_append (there : Bool) (marks more : List WatchMark) :
    replay there (marks ++ more) = (replay there marks).bind fun after => replay after more := by
  induction marks generalizing there with
  | nil => rfl
  | cons mark rest ih => cases there <;> cases mark <;> simp [replay, ih]

theorem count_of_replay {there after : Bool} {marks : List WatchMark}
    (replayed : replay there marks = some after) :
    there.toNat + marks.countP isRegistered =
      marks.count .cancelled + marks.count .abandoned + after.toNat := by
  induction marks generalizing there with
  | nil =>
    cases replayed
    simp
  | cons mark rest ih =>
    cases there <;> cases mark <;> simp only [replay, reduceCtorEq] at replayed
    all_goals
      have counted := ih replayed
      simp [List.countP_cons, isRegistered] at counted ⊢
      omega

theorem alternates_of_replay {there after : Bool} {marks : List WatchMark}
    (replayed : replay there marks = some after) (kept : .abandoned ∉ marks) (i : Nat)
    (bound : i < marks.length) :
    if (i % 2 = 0) = (there = false) then marks[i].isRegistered = true else marks[i] = .cancelled := by
  induction marks generalizing there i with
  | nil => simp at bound
  | cons mark rest ih =>
    have still : .abandoned ∉ rest := fun member => kept (List.mem_cons_of_mem _ member)
    cases there <;> cases mark <;> simp only [replay, reduceCtorEq] at replayed
    · cases i with
      | zero => simp [isRegistered]
      | succ i =>
        have later := ih replayed still i (by simpa using bound)
        rw [List.getElem_cons_succ]
        grind
    · cases i with
      | zero => simp
      | succ i =>
        have later := ih replayed still i (by simpa using bound)
        rw [List.getElem_cons_succ]
        grind
    · simp at kept

theorem getLast?_of_replay {after : Bool} {marks : List WatchMark}
    (replayed : replay false marks = some after) :
    (∃ n, marks.getLast? = some (.registered n)) ↔ after = true := by
  rcases List.eq_nil_or_concat marks with rfl | ⟨before, mark, rfl⟩
  · cases replayed
    simp
  · rw [List.concat_eq_append, replay_append] at replayed
    obtain ⟨there, _, last⟩ := Option.bind_eq_some_iff.mp replayed
    cases there <;> cases mark <;> simp only [replay, reduceCtorEq] at last
    all_goals
      cases last
      simp

end WatchMark

structure Standing where
  service : ServiceKey
  isCurrent : Bool
  registered : Bool

def Job.watched? : Job → Option Nat
  | .watch n _ => some n
  | .cancel _ | .fetch _ => none

structure WatchLedger where
  standings : List Standing
  running : Option Job
  queue : List Job
  waiting : List Job
  opening : List Nat

namespace WatchLedger

def holder? (L : WatchLedger) (service : ServiceKey) : Option Nat :=
  L.standings.findIdx? fun s => s.isCurrent && decide (s.service = service)

def isRegistered (L : WatchLedger) (service : ServiceKey) : Bool :=
  (L.holder? service).any fun n => (L.standings[n]?).any Standing.registered

def underway (L : WatchLedger) : List Nat :=
  L.opening ++ (L.running.toList ++ L.queue ++ L.waiting).filterMap Job.watched?

/-- There is a watch that someone still has to cancel. -/
def isOutstanding (L : WatchLedger) (service : ServiceKey) : Bool :=
  L.isRegistered service || decide (.cancel service ∈ L.queue)

def drop (L : WatchLedger) (n : Nat) : WatchLedger :=
  { L with standings := L.standings.modify n fun s =>
      { s with isCurrent := false, registered := false } }

def register (L : WatchLedger) (n : Nat) : WatchLedger :=
  { L with standings := L.standings.modify n fun s => { s with registered := true } }

/-- What can become of the ledger, and what befalls watches with it. Only a lossy move gives up work
that would be needed later. -/
inductive Move (L : WatchLedger) : Bool → List (ServiceKey × WatchMark) → WatchLedger → Prop where
  | opened {lossy : Bool} {service : ServiceKey} (absent : L.holder? service = none) :
      Move L lossy []
        { L with
          standings := L.standings ++ [⟨service, true, false⟩]
          opening := L.opening ++ [L.standings.length] }
  | settled {lossy : Bool} {before after : List Nat} {n : Nat} (waits : L.opening = before ++ n :: after) :
      Move L lossy [] { L with opening := before ++ after, queue := L.queue ++ [.watch n 0] }
  | settledLost {before after : List Nat} {n : Nat} (waits : L.opening = before ++ n :: after) :
      Move L true [] { L with opening := before ++ after }
  | dropped {lossy : Bool} {service : ServiceKey} {n : Nat} (holds : L.holder? service = some n)
      (unregistered : L.isRegistered service = false) : Move L lossy [] (L.drop n)
  | cancelQueued {lossy : Bool} {service : ServiceKey} {n : Nat} (holds : L.holder? service = some n)
      (registered : L.isRegistered service = true) :
      Move L lossy [] { L.drop n with queue := L.queue ++ [.cancel service] }
  | cancelledAtOnce {lossy : Bool} {service : ServiceKey} {n : Nat}
      (holds : L.holder? service = some n) (registered : L.isRegistered service = true) :
      Move L lossy [(service, .cancelled)] (L.drop n)
  | abandoned {service : ServiceKey} {n : Nat} (holds : L.holder? service = some n)
      (registered : L.isRegistered service = true) : Move L true [(service, .abandoned)] (L.drop n)
  | started {lossy : Bool} {n : Nat} {attempt : UInt32} {rest : List Job} {s : Standing}
      (free : L.running = none) (head : L.queue = .watch n attempt :: rest)
      (known : L.standings[n]? = some s) (current : s.isCurrent = true) :
      Move L lossy [] { L with running := some (.watch n attempt), queue := rest }
  | skipped {lossy : Bool} {n : Nat} {attempt : UInt32} {rest : List Job} {s : Standing}
      (free : L.running = none) (head : L.queue = .watch n attempt :: rest)
      (known : L.standings[n]? = some s) (removed : s.isCurrent = false) :
      Move L lossy [] { L with queue := rest }
  | cancelStarted {lossy : Bool} {service : ServiceKey} {rest : List Job}
      (free : L.running = none) (head : L.queue = .cancel service :: rest) :
      Move L lossy [(service, .cancelled)]
        { L with running := some (.cancel service), queue := rest }
  | registered {lossy : Bool} {n : Nat} {attempt : UInt32} {s : Standing}
      (running : L.running = some (.watch n attempt)) (known : L.standings[n]? = some s)
      (current : s.isCurrent = true) :
      Move L lossy [(s.service, .registered n)] { L.register n with running := none }
  | outlived {lossy : Bool} {n : Nat} {attempt : UInt32} {s : Standing}
      (running : L.running = some (.watch n attempt)) (known : L.standings[n]? = some s)
      (removed : s.isCurrent = false) :
      Move L lossy [(s.service, .registered n), (s.service, .cancelled)]
        { L with running := some (.cancel s.service) }
  | postponed {lossy : Bool} {n : Nat} {attempt next : UInt32}
      (running : L.running = some (.watch n attempt)) :
      Move L lossy [] { L with running := none, waiting := L.waiting ++ [.watch n next] }
  | givenUp {n : Nat} {attempt : UInt32} (running : L.running = some (.watch n attempt)) :
      Move L true [] { L with running := none }
  | cancelReturned {lossy : Bool} {service : ServiceKey} (running : L.running = some (.cancel service)) :
      Move L lossy [] { L with running := none }
  | resumed {lossy : Bool} {before after : List Job} {n : Nat} {attempt : UInt32}
      (waits : L.waiting = before ++ .watch n attempt :: after) :
      Move L lossy []
        { L with waiting := before ++ after, queue := L.queue ++ [.watch n attempt] }
  | resumedLost {before after : List Job} {n : Nat} {attempt : UInt32}
      (waits : L.waiting = before ++ .watch n attempt :: after) :
      Move L true [] { L with waiting := before ++ after }

def MayPrecede (L : WatchLedger) (earlier later : Job) : Prop :=
  ∀ n attempt service, earlier = .watch n attempt → L.holder? service = some n →
    later ≠ .cancel service

/-- Each subscription is on its way to a watch at most once, and no more once it has got there. What
cancels a watch comes before the registration of the next one for its service. -/
structure Consistent (L : WatchLedger) : Prop where
  unambiguous : ∀ {i j : Nat} {a b : Standing}, L.standings[i]? = some a → L.standings[j]? = some b →
    a.isCurrent = true → b.isCurrent = true → a.service = b.service → i = j
  once : ∀ n, L.underway.count n ≤ 1
  known : ∀ n ∈ L.underway, n < L.standings.length
  arrived : ∀ {service n}, L.holder? service = some n → L.isRegistered service = true →
    n ∉ L.underway
  wanted : ∀ {service}, L.isRegistered service = true → .cancel service ∉ L.queue
  ordered : L.queue.Pairwise L.MayPrecede
  calling : ∀ {n attempt s}, L.running = some (.watch n attempt) → L.standings[n]? = some s →
    L.isOutstanding s.service = false
  waits : ∀ {n attempt service}, .watch n attempt ∈ L.waiting → L.holder? service = some n →
    .cancel service ∉ L.queue
  single : ∀ service, L.queue.count (.cancel service) ≤ 1

theorem consistent_empty : Consistent ⟨[], none, [], [], []⟩ where
  unambiguous := by simp
  once := by simp [underway]
  known := by simp [underway]
  arrived := by simp [underway]
  wanted := by simp
  ordered := .nil
  calling := by simp
  waits := by simp
  single := by simp

variable {L : WatchLedger} {service other : ServiceKey} {n : Nat} {attempt : UInt32} {s : Standing}

theorem standing_of_holder? (holds : L.holder? service = some n) :
    ∃ s, L.standings[n]? = some s ∧ s.isCurrent = true ∧ s.service = service := by
  obtain ⟨bound, same, _⟩ := List.findIdx?_eq_some_iff_getElem.mp holds
  simp only [Bool.and_eq_true, decide_eq_true_eq] at same
  exact ⟨_, List.getElem?_eq_getElem bound, same.1, same.2⟩

theorem Consistent.holds_of_current (ledger : L.Consistent) (known : L.standings[n]? = some s)
    (current : s.isCurrent = true) : L.holder? s.service = some n := by
  cases held : L.holder? s.service with
  | none =>
    have absent := List.findIdx?_eq_none_iff.mp held s (List.mem_of_getElem? known)
    simp [current] at absent
  | some m =>
    obtain ⟨r, at_m, alive, same⟩ := standing_of_holder? held
    rw [ledger.unambiguous at_m known alive current same]

theorem holder?_ne (ne : service ≠ other) (holds : L.holder? service = some n) :
    L.holder? other ≠ some n := by
  intro also
  obtain ⟨a, at_n, _, rfl⟩ := standing_of_holder? holds
  obtain ⟨b, known, _, rfl⟩ := standing_of_holder? also
  rw [at_n] at known
  cases known
  exact ne rfl

theorem isRegistered_of_absent (absent : L.holder? service = none) :
    L.isRegistered service = false := by
  simp [isRegistered, absent]

section Changes

variable {M : WatchLedger}

theorem holder?_grown (grown : M.standings = L.standings ++ [⟨service, true, false⟩])
    (absent : L.holder? service = none) :
    M.holder? other = if other = service then some L.standings.length else L.holder? other := by
  simp only [holder?, grown, List.findIdx?_append, List.findIdx?_singleton, Bool.true_and]
  by_cases same : other = service
  · subst same
    simp only [holder?] at absent
    simp [absent]
  · simp [same, Ne.symm same]

theorem isRegistered_grown (grown : M.standings = L.standings ++ [⟨service, true, false⟩])
    (absent : L.holder? service = none) : M.isRegistered other = L.isRegistered other := by
  simp only [isRegistered, holder?_grown grown absent]
  by_cases same : other = service
  · subst same
    simp [absent, grown]
  · simp only [same, ↓reduceIte]
    cases held : L.holder? other with
    | none => rfl
    | some n =>
      obtain ⟨s, known, _⟩ := standing_of_holder? held
      obtain ⟨bound, _⟩ := List.getElem?_eq_some_iff.mp known
      simp [grown, List.getElem?_append_left bound]

theorem Consistent.holder?_dropped (ledger : L.Consistent) (holds : L.holder? service = some n)
    (fewer : M.standings = (L.drop n).standings) :
    M.holder? other = if other = service then none else L.holder? other := by
  obtain ⟨s, known, current, rfl⟩ := standing_of_holder? holds
  have at_m (m : Nat) : M.standings[m]? =
      if n = m then some { s with isCurrent := false, registered := false } else L.standings[m]? := by
    rw [fewer, drop, List.getElem?_modify]
    by_cases same : n = m
    · subst same
      simp [known]
    · simp [same]
  have alive {m : Nat} {service : ServiceKey} (held : M.holder? service = some m) :
      L.holder? service = some m ∧ n ≠ m := by
    obtain ⟨r, at_r, live, rfl⟩ := standing_of_holder? held
    rw [at_m] at at_r
    split at at_r
    · cases at_r
      cases live
    · next ne => exact ⟨ledger.holds_of_current at_r live, ne⟩
  split
  · next same =>
    subst same
    cases held : M.holder? s.service with
    | none => rfl
    | some m =>
      obtain ⟨still, ne⟩ := alive held
      rw [holds] at still
      cases still
      exact absurd rfl ne
  · next different =>
    cases held : M.holder? other with
    | some m => exact (alive held).1.symm
    | none =>
      cases was : L.holder? other with
      | none => rfl
      | some m =>
        obtain ⟨r, at_r, live, same⟩ := standing_of_holder? was
        have ne : n ≠ m := by
          intro equal
          subst equal
          rw [known] at at_r
          cases at_r
          exact different same.symm
        have kept : M.standings[m]? = some r := by simp [at_m, ne, at_r]
        have absent := List.findIdx?_eq_none_iff.mp held r (List.mem_of_getElem? kept)
        simp [live, same] at absent

theorem Consistent.isRegistered_dropped (ledger : L.Consistent) (holds : L.holder? service = some n)
    (fewer : M.standings = (L.drop n).standings) :
    M.isRegistered other = if other = service then false else L.isRegistered other := by
  simp only [isRegistered, ledger.holder?_dropped holds fewer]
  split
  · rfl
  · next different =>
    cases held : L.holder? other with
    | none => rfl
    | some m =>
      have ne : n ≠ m := by
        intro equal
        subst equal
        exact holder?_ne (Ne.symm different) holds held
      simp [fewer, drop, ne]

theorem holder?_register (gained : M.standings = (L.register n).standings) :
    M.holder? other = L.holder? other := by
  simp only [holder?, gained, register]
  apply Option.ext
  intro m
  simp only [List.findIdx?_eq_some_iff_getElem, List.length_modify, List.getElem_modify]
  constructor
  · rintro ⟨bound, holds, first⟩
    refine ⟨bound, ?_, ?_⟩
    · split at holds <;> exact holds
    · intro j below
      have := first j below
      split at this <;> exact this
  · rintro ⟨bound, holds, first⟩
    refine ⟨bound, ?_, ?_⟩
    · split <;> exact holds
    · intro j below
      split <;> exact first j below

theorem isRegistered_register (gained : M.standings = (L.register n).standings)
    (holds : L.holder? service = some n) :
    M.isRegistered other = if other = service then true else L.isRegistered other := by
  simp only [isRegistered, holder?_register gained]
  split
  · next same =>
    subst same
    obtain ⟨s, known, _⟩ := standing_of_holder? holds
    simp [holds, gained, register, known]
  · next different =>
    cases held : L.holder? other with
    | none => rfl
    | some m =>
      have ne : n ≠ m := by
        intro equal
        subst equal
        exact holder?_ne (Ne.symm different) holds held
      simp [gained, register, ne]

end Changes

theorem isOutstanding_eq_false :
    L.isOutstanding service = false ↔ L.isRegistered service = false ∧ .cancel service ∉ L.queue := by
  simp [isOutstanding]

theorem mem_underway {m : Nat} :
    m ∈ L.underway ↔ m ∈ L.opening ∨ (∃ attempt, L.running = some (.watch m attempt)) ∨
      (∃ attempt, .watch m attempt ∈ L.queue) ∨ ∃ attempt, .watch m attempt ∈ L.waiting := by
  have watched {job : Job} : job.watched? = some m ↔ ∃ attempt, job = .watch m attempt := by
    cases job <;> simp [Job.watched?]
  simp only [underway, List.mem_append, List.mem_filterMap, watched]
  grind

theorem mem_underway_of_queue (member : Job.watch n attempt ∈ L.queue) : n ∈ L.underway :=
  mem_underway.mpr (.inr (.inr (.inl ⟨attempt, member⟩)))

theorem mem_underway_of_waiting (member : Job.watch n attempt ∈ L.waiting) : n ∈ L.underway :=
  mem_underway.mpr (.inr (.inr (.inr ⟨attempt, member⟩)))

theorem mem_underway_of_running (running : L.running = some (.watch n attempt)) : n ∈ L.underway :=
  mem_underway.mpr (.inr (.inl ⟨attempt, running⟩))

theorem count_underway (L : WatchLedger) (m : Nat) :
    L.underway.count m = L.opening.count m + ((L.running.toList.filterMap Job.watched?).count m +
      ((L.queue.filterMap Job.watched?).count m + (L.waiting.filterMap Job.watched?).count m)) := by
  simp [underway, List.count_append]

end WatchLedger

end TrafficControl
