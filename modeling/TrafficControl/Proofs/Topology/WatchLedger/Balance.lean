import TrafficControl.Proofs.Topology.WatchLedger.Consistent

namespace TrafficControl

namespace WatchLedger

variable {L : WatchLedger} {service other : ServiceKey} {n : Nat} {attempt : UInt32} {s : Standing}

def marksOf (service : ServiceKey) (marks : List (ServiceKey × WatchMark)) : List WatchMark :=
  marks.filterMap fun m => if m.1 = service then some m.2 else none

@[simp]
theorem marksOf_nil : marksOf service [] = [] := rfl

@[simp]
theorem marksOf_append (marks more : List (ServiceKey × WatchMark)) :
    marksOf service (marks ++ more) = marksOf service marks ++ marksOf service more := by
  simp [marksOf]

@[simp]
theorem marksOf_cons (mark : ServiceKey × WatchMark) (marks : List (ServiceKey × WatchMark)) :
    marksOf service (mark :: marks) =
      if mark.1 = service then mark.2 :: marksOf service marks else marksOf service marks := by
  simp only [marksOf, List.filterMap_cons]
  split <;> simp_all

theorem mem_marksOf {marks : List (ServiceKey × WatchMark)} {mark : WatchMark} :
    mark ∈ marksOf service marks ↔ (service, mark) ∈ marks := by
  simp [marksOf]

theorem isOutstanding_congr {M : WatchLedger} (registered : M.isRegistered other = L.isRegistered other)
    (queued : Job.cancel other ∈ M.queue ↔ Job.cancel other ∈ L.queue) :
    M.isOutstanding other = L.isOutstanding other := by
  simp [isOutstanding, registered, queued]

theorem Consistent.isOutstanding_dropped (ledger : L.Consistent) (holds : L.holder? service = some n) :
    (L.drop n).isOutstanding other =
      if other = service then decide (Job.cancel service ∈ L.queue) else L.isOutstanding other := by
  simp only [isOutstanding, ledger.isRegistered_dropped holds rfl]
  split
  · next same =>
    subst same
    rfl
  · rfl

theorem Consistent.replay_ended (ledger : L.Consistent) (holds : L.holder? service = some n)
    (registered : L.isRegistered service = true) {mark : WatchMark}
    (ends : WatchMark.replay true [mark] = some false) :
    WatchMark.replay (L.isOutstanding other) (marksOf other [(service, mark)]) =
      some ((L.drop n).isOutstanding other) := by
  rw [ledger.isOutstanding_dropped holds]
  by_cases same : other = service
  · subst same
    have before : L.isOutstanding other = true := by simp [isOutstanding, registered]
    simpa [before, ledger.wanted registered] using ends
  · simp [same, Ne.symm same, WatchMark.replay]

theorem Move.replay {M : WatchLedger} {lossy : Bool} {marks : List (ServiceKey × WatchMark)}
    (move : Move L lossy marks M) (ledger : L.Consistent) (other : ServiceKey) :
    WatchMark.replay (L.isOutstanding other) (marksOf other marks) = some (M.isOutstanding other) := by
  have quiet {M : WatchLedger} (same : M.isOutstanding other = L.isOutstanding other) :
      WatchMark.replay (L.isOutstanding other) (marksOf other []) = some (M.isOutstanding other) := by
    rw [same]
    rfl
  cases move with
  | opened absent => exact quiet (isOutstanding_congr (isRegistered_grown rfl absent) .rfl)
  | settled _ => exact quiet (isOutstanding_congr rfl (by simp))
  | settledLost _ => exact quiet rfl
  | @dropped _ service n holds unregistered =>
    apply quiet
    rw [ledger.isOutstanding_dropped holds]
    split
    · next same =>
      subst same
      simp [isOutstanding, unregistered]
    · rfl
  | @cancelQueued _ service n holds registered =>
    have after : isRegistered { L.drop n with queue := L.queue ++ [.cancel service] } other =
        if other = service then false else L.isRegistered other := ledger.isRegistered_dropped holds rfl
    apply quiet
    simp only [isOutstanding, after]
    by_cases same : other = service
    · subst same
      simp [registered]
    · simp [same]
  | cancelledAtOnce holds registered => exact ledger.replay_ended holds registered rfl
  | abandoned holds registered => exact ledger.replay_ended holds registered rfl
  | started _ head _ _ => exact quiet (isOutstanding_congr rfl (by simp [head]))
  | skipped _ head _ _ => exact quiet (isOutstanding_congr rfl (by simp [head]))
  | @cancelStarted _ service rest _ head =>
    by_cases same : other = service
    · subst same
      have queued : Job.cancel other ∈ L.queue := by simp [head]
      have unregistered : L.isRegistered other = false := by
        cases registered : L.isRegistered other with
        | false => rfl
        | true => exact absurd queued (ledger.wanted registered)
      -- No cancellation is queued twice, so none is left behind the one that starts.
      have gone : Job.cancel other ∉ rest := by
        have single := ledger.single other
        simp only [head, List.count_cons_self] at single
        exact List.count_eq_zero.mp (by omega)
      have after : isOutstanding { L with running := some (.cancel other), queue := rest } other = false :=
        isOutstanding_eq_false.mpr ⟨unregistered, gone⟩
      rw [after]
      simp [isOutstanding, queued, WatchMark.replay]
    · simp only [marksOf_cons, Ne.symm same, ↓reduceIte]
      exact quiet (isOutstanding_congr rfl (by simp [head, same]))
  | @registered _ n attempt s running known current =>
    have holds := ledger.holds_of_current known current
    have before := ledger.calling running known
    have after : isOutstanding { L.register n with running := none } other =
        if other = s.service then true else L.isOutstanding other := by
      have gained : isRegistered { L.register n with running := none } other =
          if other = s.service then true else L.isRegistered other := isRegistered_register rfl holds
      simp only [isOutstanding, gained]
      split <;> rfl
    rw [after]
    by_cases same : other = s.service
    · subst same
      simp [before, WatchMark.replay]
    · simp [same, Ne.symm same, WatchMark.replay]
  | @outlived _ n attempt s running known removed =>
    have before := ledger.calling running known
    have after : isOutstanding { L with running := some (.cancel s.service) } other =
        L.isOutstanding other := rfl
    rw [after]
    by_cases same : other = s.service
    · subst same
      simp [before, WatchMark.replay]
    · simp [Ne.symm same, WatchMark.replay]
  | postponed _ => exact quiet rfl
  | givenUp _ => exact quiet rfl
  | cancelReturned _ => exact quiet rfl
  | resumed _ => exact quiet (isOutstanding_congr rfl (by simp))
  | resumedLost _ => exact quiet rfl

theorem Move.latest {M : WatchLedger} {lossy : Bool} {marks : List (ServiceKey × WatchMark)}
    (move : Move L lossy marks M) (ledger : L.Consistent) (holds : M.holder? service = some n)
    (registered : M.isRegistered service = true) :
    (L.holder? service = some n ∧ L.isRegistered service = true ∧ marksOf service marks = []) ∨
      marksOf service marks = [.registered n] := by
  have others {gone : ServiceKey} {m : Nat} (held : L.holder? gone = some m)
      (fewer : M.standings = (L.drop m).standings) :
      service ≠ gone ∧ L.holder? service = some n ∧ L.isRegistered service = true := by
    have holder : M.holder? service = _ := ledger.holder?_dropped held fewer
    have before : M.isRegistered service = _ := ledger.isRegistered_dropped held fewer
    rw [holds] at holder
    rw [registered] at before
    split at holder
    · cases holder
    · next different =>
      rw [if_neg different] at before
      exact ⟨different, holder.symm, before.symm⟩
  cases move with
  | @opened _ fresh absent =>
    have before : L.isRegistered service = true := by
      rw [← registered]
      exact (isRegistered_grown rfl absent).symm
    rw [holder?_grown (M := { L with standings := _, opening := _ }) rfl absent] at holds
    split at holds
    · next same =>
      subst same
      rw [isRegistered_of_absent absent] at before
      cases before
    · exact .inl ⟨holds, before, rfl⟩
  | settled _ => exact .inl ⟨holds, registered, rfl⟩
  | settledLost _ => exact .inl ⟨holds, registered, rfl⟩
  | dropped held _ =>
    obtain ⟨_, holder, before⟩ := others held rfl
    exact .inl ⟨holder, before, rfl⟩
  | cancelQueued held _ =>
    obtain ⟨_, holder, before⟩ := others held rfl
    exact .inl ⟨holder, before, rfl⟩
  | cancelledAtOnce held _ =>
    obtain ⟨ne, holder, before⟩ := others held rfl
    exact .inl ⟨holder, before, by simp [ne.symm]⟩
  | abandoned held _ =>
    obtain ⟨ne, holder, before⟩ := others held rfl
    exact .inl ⟨holder, before, by simp [ne.symm]⟩
  | started _ _ _ _ => exact .inl ⟨holds, registered, rfl⟩
  | skipped _ _ _ _ => exact .inl ⟨holds, registered, rfl⟩
  | @cancelStarted _ cancelled rest _ head =>
    have different : cancelled ≠ service := by
      rintro rfl
      exact ledger.wanted registered (by simp [head])
    exact .inl ⟨holds, registered, by simp [different]⟩
  | @registered _ m attempt s running known current =>
    have held := ledger.holds_of_current known current
    have gained : isRegistered { L.register m with running := none } service =
        if service = s.service then true else L.isRegistered service := isRegistered_register rfl held
    have kept : holder? { L.register m with running := none } service = L.holder? service :=
      holder?_register rfl
    rw [gained] at registered
    rw [kept] at holds
    split at registered
    · next same =>
      subst same
      rw [held] at holds
      cases holds
      exact .inr (by simp)
    · next different => exact .inl ⟨holds, registered, by simp [Ne.symm different]⟩
  | @outlived _ m attempt s running known removed =>
    have different : s.service ≠ service := by
      rintro rfl
      have quiet := (isOutstanding_eq_false.mp (ledger.calling running known)).1
      rw [show L.isRegistered s.service = true from registered] at quiet
      cases quiet
    exact .inl ⟨holds, registered, by simp [different]⟩
  | postponed _ => exact .inl ⟨holds, registered, rfl⟩
  | givenUp _ => exact .inl ⟨holds, registered, rfl⟩
  | cancelReturned _ => exact .inl ⟨holds, registered, rfl⟩
  | resumed _ => exact .inl ⟨holds, registered, rfl⟩
  | resumedLost _ => exact .inl ⟨holds, registered, rfl⟩

/-- The subscription has its watch or is on its way to it, if it is current. -/
def Provides (L : WatchLedger) (n : Nat) : Prop :=
  ∀ service, L.holder? service = some n → L.isRegistered service = false → n ∈ L.underway

def Complete (L : WatchLedger) : Prop :=
  ∀ service n, L.holder? service = some n → L.isRegistered service = false → n ∈ L.underway

theorem complete_iff : L.Complete ↔ ∀ n, L.Provides n :=
  ⟨fun complete n service => complete service n, fun provides service n => provides n service⟩

theorem complete_empty : Complete ⟨[], none, [], [], []⟩ := by
  intro service n holds
  obtain ⟨s, known, _⟩ := standing_of_holder? holds
  simp at known

section Provides

variable {M : WatchLedger} {m : Nat}

theorem Provides.moved (provides : L.Provides m) (same : M.standings = L.standings)
    (stays : ∀ service, L.holder? service = some m → m ∈ L.underway → m ∈ M.underway) :
    M.Provides m := by
  have holder (service : ServiceKey) : M.holder? service = L.holder? service := by
    simp only [holder?, same]
  intro service holds unregistered
  have unregistered : L.isRegistered service = false := by
    simpa [isRegistered, holder, same] using unregistered
  rw [holder] at holds
  exact stays service holds (provides service holds unregistered)

theorem Provides.dropped (provides : L.Provides m) (ledger : L.Consistent)
    (holds : L.holder? service = some n) (fewer : M.standings = (L.drop n).standings)
    (stays : m ∈ L.underway → m ∈ M.underway) : M.Provides m := by
  intro other still unregistered
  rw [ledger.holder?_dropped holds fewer] at still
  rw [ledger.isRegistered_dropped holds fewer] at unregistered
  split at still
  · cases still
  · next different =>
    rw [if_neg different] at unregistered
    exact stays (provides other still unregistered)

theorem Provides.registered (provides : L.Provides m) (ledger : L.Consistent)
    (running : L.running = some (.watch n attempt)) (known : L.standings[n]? = some s)
    (current : s.isCurrent = true) : Provides { L.register n with running := none } m := by
  have holds := ledger.holds_of_current known current
  intro other still unregistered
  have gained : isRegistered { L.register n with running := none } other =
      if other = s.service then true else L.isRegistered other := isRegistered_register rfl holds
  have kept : holder? { L.register n with running := none } other = L.holder? other :=
    holder?_register rfl
  rw [gained] at unregistered
  rw [kept] at still
  split at unregistered
  · cases unregistered
  · next different =>
    have ne : m ≠ n := by
      rintro rfl
      exact holder?_ne (Ne.symm different) holds still
    have was := provides other still unregistered
    simp only [mem_underway, running, register, reduceCtorEq, exists_false, false_or,
      Option.some.injEq, Job.watch.injEq] at was ⊢
    rcases was with opening | ⟨_, same, _⟩ | rest
    · exact .inl opening
    · exact absurd same.symm ne
    · exact .inr rest

theorem Provides.opened (provides : L.Provides m) (absent : L.holder? service = none) :
    Provides
      { L with
        standings := L.standings ++ [⟨service, true, false⟩]
        opening := L.opening ++ [L.standings.length] } m := by
  let M : WatchLedger :=
    { L with
      standings := L.standings ++ [⟨service, true, false⟩]
      opening := L.opening ++ [L.standings.length] }
  have holder (other : ServiceKey) :
      M.holder? other = if other = service then some L.standings.length else L.holder? other :=
    holder?_grown rfl absent
  have registered (other : ServiceKey) : M.isRegistered other = L.isRegistered other :=
    isRegistered_grown rfl absent
  intro other holds unregistered
  rw [holder] at holds
  rw [registered] at unregistered
  split at holds
  · cases holds
    exact mem_underway.mpr (.inl (by simp))
  · rcases mem_underway.mp (provides other holds unregistered) with opening | rest
    · exact mem_underway.mpr (.inl (List.mem_append_left _ opening))
    · exact mem_underway.mpr (.inr rest)

theorem Provides.took (provides : L.Provides m) {job : Job} {rest : List Job}
    (head : L.queue = job :: rest) (same : M.standings = L.standings)
    (opening : M.opening = L.opening) (queue : M.queue = rest) (waiting : M.waiting = L.waiting)
    (free : L.running = none)
    (taken : ∀ attempt service, job = .watch m attempt → L.holder? service = some m →
      ∃ attempt, M.running = some (.watch m attempt)) : M.Provides m := by
  apply provides.moved same
  intro service holds was
  rw [mem_underway, free, head] at was
  rw [mem_underway, opening, queue, waiting]
  rcases was with opening | ⟨_, impossible⟩ | ⟨attempt, queued⟩ | waiting
  · exact .inl opening
  · cases impossible
  · rcases List.mem_cons.mp queued with same | queued
    · exact .inr (.inl (taken attempt service same.symm holds))
    · exact .inr (.inr (.inl ⟨attempt, queued⟩))
  · exact .inr (.inr (.inr waiting))

theorem carried (was : m ∈ L.underway)
    (opening : ∀ m ∈ L.opening, m ∈ M.opening ∨ ∃ attempt, .watch m attempt ∈ M.queue)
    (running : ∀ m attempt, L.running = some (.watch m attempt) →
      M.running = some (.watch m attempt) ∨ ∃ attempt, .watch m attempt ∈ M.waiting)
    (queue : ∀ job ∈ L.queue, job ∈ M.queue)
    (waiting : ∀ job ∈ L.waiting, job ∈ M.waiting ∨ job ∈ M.queue) : m ∈ M.underway := by
  rw [mem_underway] at was ⊢
  rcases was with waits | ⟨attempt, runs⟩ | ⟨attempt, queued⟩ | ⟨attempt, delayed⟩
  · rcases opening m waits with still | queued
    · exact .inl still
    · exact .inr (.inr (.inl queued))
  · rcases running m attempt runs with still | delayed
    · exact .inr (.inl ⟨attempt, still⟩)
    · exact .inr (.inr (.inr delayed))
  · exact .inr (.inr (.inl ⟨attempt, queue _ queued⟩))
  · rcases waiting _ delayed with still | queued
    · exact .inr (.inr (.inr ⟨attempt, still⟩))
    · exact .inr (.inr (.inl ⟨attempt, queued⟩))

theorem Move.provides {marks : List (ServiceKey × WatchMark)} (move : Move L false marks M)
    (ledger : L.Consistent) (provides : L.Provides m) : M.Provides m := by
  cases move with
  | opened absent => exact provides.opened absent
  | @settled _ _ _ n waits =>
    refine provides.moved rfl fun service _ was =>
      carried was ?_ (fun _ _ => .inl) (by simp +contextual) (fun _ => .inl)
    intro m member
    simp only [waits, List.mem_append, List.mem_cons] at member ⊢
    rcases member with before | rfl | after
    · exact .inl (.inl before)
    · exact .inr ⟨0, .inr (.inl rfl)⟩
    · exact .inl (.inr after)
  | dropped holds _ => exact provides.dropped ledger holds rfl id
  | cancelQueued holds _ =>
    exact provides.dropped ledger holds rfl fun was =>
      carried was (fun _ => .inl) (fun _ _ => .inl) (by simp +contextual) (fun _ => .inl)
  | cancelledAtOnce holds _ => exact provides.dropped ledger holds rfl id
  | started free head known current =>
    refine provides.took head rfl rfl rfl rfl free ?_
    intro attempt service same _
    cases same
    exact ⟨_, rfl⟩
  | skipped free head known removed =>
    refine provides.took head rfl rfl rfl rfl free ?_
    intro attempt service same holds
    cases same
    obtain ⟨r, also, current, _⟩ := standing_of_holder? holds
    rw [known] at also
    cases also
    rw [removed] at current
    cases current
  | cancelStarted free head =>
    refine provides.took head rfl rfl rfl rfl free ?_
    intro attempt service same
    cases same
  | registered running known current => exact provides.registered ledger running known current
  | @outlived _ n _ s running known removed =>
    refine provides.moved rfl fun service holds was => ?_
    obtain ⟨r, also, current, _⟩ := standing_of_holder? holds
    rw [mem_underway, running] at was
    rw [mem_underway]
    rcases was with opening | ⟨_, same⟩ | rest
    · exact .inl opening
    · cases same
      rw [known] at also
      cases also
      rw [removed] at current
      cases current
    · exact .inr (.inr rest)
  | @postponed _ n _ next running =>
    refine provides.moved rfl fun service _ was =>
      carried was (fun _ => .inl) ?_ (fun _ => id) (by simp +contextual)
    intro m attempt runs
    rw [running] at runs
    cases runs
    exact .inr ⟨next, by simp⟩
  | cancelReturned running =>
    refine provides.moved rfl fun service _ was =>
      carried was (fun _ => .inl) ?_ (fun _ => id) (fun _ => .inl)
    intro m attempt runs
    rw [running] at runs
    cases runs
  | resumed waits =>
    refine provides.moved rfl fun service _ was =>
      carried was (fun _ => .inl) (fun _ _ => .inl) (by simp +contextual) ?_
    intro job member
    simp only [waits, List.mem_append, List.mem_cons] at member ⊢
    rcases member with before | rfl | after
    · exact .inl (.inl before)
    · exact .inr (.inr (.inl rfl))
    · exact .inl (.inr after)

theorem Provides.settledLost {before after : List Nat} (provides : L.Provides m)
    (waits : L.opening = before ++ n :: after) (other : m ≠ n) :
    Provides { L with opening := before ++ after } m := by
  refine provides.moved rfl fun service _ was => ?_
  rw [mem_underway, waits] at was
  rw [mem_underway]
  rcases was with opening | rest
  · simp only [List.mem_append, List.mem_cons] at opening ⊢
    rcases opening with earlier | same | later
    · exact .inl (.inl earlier)
    · exact absurd same other
    · exact .inl (.inr later)
  · exact .inr rest

end Provides

theorem Move.stays_off {M : WatchLedger} {lossy : Bool} {marks : List (ServiceKey × WatchMark)}
    {m : Nat} (move : Move L lossy marks M) (known : m < L.standings.length)
    (off : m ∉ L.underway) : m < M.standings.length ∧ m ∉ M.underway := by
  simp only [mem_underway, not_or, not_exists] at off ⊢
  obtain ⟨opening, running, queue, waiting⟩ := off
  cases move with
  | opened _ =>
    have new : m ≠ L.standings.length := Nat.ne_of_lt known
    exact ⟨by simp; omega, by simp [opening, new], running, queue, waiting⟩
  | dropped _ _ | cancelledAtOnce _ _ | abandoned _ _ =>
    exact ⟨by simpa [drop] using known, opening, running, queue, waiting⟩
  | cancelQueued _ _ =>
    exact ⟨by simpa [drop] using known, opening, running, by simpa [drop] using queue, waiting⟩
  | registered _ _ _ =>
    exact ⟨by simpa [register] using known, opening, by simp, queue, waiting⟩
  | @started _ n attempt rest _ free head _ _ =>
    have other : n ≠ m := by
      rintro rfl
      exact queue attempt (by simp [head])
    exact ⟨known, opening, by simp [other], fun a later => queue a (by simp [head, later]), waiting⟩
  | @postponed _ n attempt next runs =>
    have other : n ≠ m := by
      rintro rfl
      exact running attempt runs
    exact ⟨known, opening, by simp, queue, by simp [waiting, Ne.symm other]⟩
  | _ => exact ⟨known, by simp_all⟩

theorem Move.underway_of_mark {M : WatchLedger} {lossy : Bool} {marks : List (ServiceKey × WatchMark)}
    {m : Nat} (move : Move L lossy marks M) (marked : (service, .registered m) ∈ marks) :
    m ∈ L.underway := by
  cases move with
  | registered running _ _ =>
    cases List.mem_singleton.mp marked
    exact mem_underway_of_running running
  | outlived running _ _ =>
    rcases List.mem_cons.mp marked with same | cancelled
    · cases same
      exact mem_underway_of_running running
    · cases List.mem_singleton.mp cancelled
  | _ => simp at marked

inductive Moves (lossy : Bool) :
    WatchLedger → List (ServiceKey × WatchMark) → WatchLedger → Prop where
  | nil (L : WatchLedger) : Moves lossy L [] L
  | more {L M N : WatchLedger} {marks later : List (ServiceKey × WatchMark)}
      (move : Move L lossy marks M) (rest : Moves lossy M later N) : Moves lossy L (marks ++ later) N

namespace Moves

variable {M N : WatchLedger} {lossy : Bool} {marks later : List (ServiceKey × WatchMark)}

theorem one (move : Move L lossy marks M) : Moves lossy L marks M := by
  simpa using more move (nil M)

theorem append (first : Moves lossy L marks M) (second : Moves lossy M later N) :
    Moves lossy L (marks ++ later) N := by
  induction first with
  | nil _ => exact second
  | more move _ ih => simpa using more move (ih second)

theorem consistent (moves : Moves lossy L marks M) (ledger : L.Consistent) : M.Consistent := by
  induction moves with
  | nil _ => exact ledger
  | more move _ ih => exact ih (move.consistent ledger)

theorem replay (moves : Moves lossy L marks M) (ledger : L.Consistent) (service : ServiceKey) :
    WatchMark.replay (L.isOutstanding service) (marksOf service marks) =
      some (M.isOutstanding service) := by
  induction moves with
  | nil _ => rfl
  | more move _ ih =>
    rw [marksOf_append, WatchMark.replay_append, move.replay ledger service]
    exact ih (move.consistent ledger)

theorem latest (moves : Moves lossy L marks M) (ledger : L.Consistent)
    (holds : M.holder? service = some n) (registered : M.isRegistered service = true) :
    (L.holder? service = some n ∧ L.isRegistered service = true ∧ marksOf service marks = []) ∨
      (marksOf service marks).getLast? = some (.registered n) := by
  induction moves with
  | nil _ => exact .inl ⟨holds, registered, rfl⟩
  | more move _ ih =>
    rcases ih (move.consistent ledger) holds registered with ⟨held, before, nothing⟩ | last
    · rw [marksOf_append, nothing, List.append_nil]
      rcases move.latest ledger held before with still | now
      · exact .inl still
      · exact .inr (by simp [now])
    · exact .inr (by simp [List.getLast?_append, last])

theorem provides {m : Nat} (moves : Moves false L marks M) (ledger : L.Consistent)
    (provides : L.Provides m) : M.Provides m := by
  induction moves with
  | nil _ => exact provides
  | more move _ ih => exact ih (move.consistent ledger) (move.provides ledger provides)

theorem complete (moves : Moves false L marks M) (ledger : L.Consistent) (complete : L.Complete) :
    M.Complete :=
  complete_iff.mpr fun n => moves.provides ledger (complete_iff.mp complete n)

theorem stays_off {m : Nat} (moves : Moves lossy L marks M) (known : m < L.standings.length)
    (off : m ∉ L.underway) : m < M.standings.length ∧ m ∉ M.underway := by
  induction moves with
  | nil _ => exact ⟨known, off⟩
  | more move _ ih =>
    obtain ⟨known, off⟩ := move.stays_off known off
    exact ih known off

theorem unmarked {m : Nat} (moves : Moves lossy L marks M) (known : m < L.standings.length)
    (off : m ∉ L.underway) : (service, .registered m) ∉ marks := by
  induction moves with
  | nil _ => exact List.not_mem_nil
  | more move _ ih =>
    intro marked
    rcases List.mem_append.mp marked with now | later
    · exact off (move.underway_of_mark now)
    · obtain ⟨known, off⟩ := move.stays_off known off
      exact ih known off later

end Moves

end WatchLedger

end TrafficControl
