import TrafficControl.Proofs.Topology.WatchLedger.Basic

namespace TrafficControl

namespace WatchLedger

variable {L : WatchLedger} {service other : ServiceKey} {n : Nat} {attempt : UInt32} {s : Standing}

theorem Consistent.moved {M : WatchLedger} (ledger : L.Consistent) (same : M.standings = L.standings)
    (fewer : ∀ m, M.underway.count m ≤ L.underway.count m)
    (cancels : ∀ service, M.queue.count (.cancel service) ≤ L.queue.count (.cancel service))
    (ordered : M.queue.Pairwise L.MayPrecede)
    (calling : ∀ {n attempt s}, M.running = some (.watch n attempt) → L.standings[n]? = some s →
      L.isRegistered s.service = false ∧ .cancel s.service ∉ M.queue)
    (waits : ∀ {n attempt service}, .watch n attempt ∈ M.waiting → L.holder? service = some n →
      .cancel service ∉ L.queue) : M.Consistent := by
  have holder (service : ServiceKey) : M.holder? service = L.holder? service := by
    simp only [holder?, same]
  have registered (service : ServiceKey) : M.isRegistered service = L.isRegistered service := by
    simp [isRegistered, holder, same]
  have queued {service : ServiceKey} (absent : .cancel service ∉ L.queue) :
      .cancel service ∉ M.queue := by
    have := cancels service
    rw [List.count_eq_zero_of_not_mem absent] at this
    exact List.count_eq_zero.mp (by omega)
  have underway {m : Nat} (member : m ∈ M.underway) : m ∈ L.underway := by
    have positive := List.count_pos_iff.mpr member
    exact List.count_pos_iff.mp (Nat.lt_of_lt_of_le positive (fewer m))
  constructor
  case unambiguous =>
    rw [same]
    exact ledger.unambiguous
  case once => exact fun m => Nat.le_trans (fewer m) (ledger.once m)
  case known =>
    intro m member
    rw [same]
    exact ledger.known m (underway member)
  case arrived =>
    intro service m holds isRegistered member
    rw [holder] at holds
    rw [registered] at isRegistered
    exact ledger.arrived holds isRegistered (underway member)
  case wanted =>
    intro service isRegistered
    rw [registered] at isRegistered
    exact queued (ledger.wanted isRegistered)
  case ordered =>
    exact ordered.imp fun precedes n attempt service watch holds =>
      precedes n attempt service watch (by rwa [holder] at holds)
  case calling =>
    intro m attempt s running at_m
    rw [same] at at_m
    rw [isOutstanding_eq_false, registered]
    exact calling running at_m
  case waits =>
    intro m attempt service waiting holds
    rw [holder] at holds
    exact queued (waits waiting holds)
  case single => exact fun service => Nat.le_trans (cancels service) (ledger.single service)

theorem Consistent.ordered_tail (ledger : L.Consistent) {job : Job} {rest : List Job}
    (head : L.queue = job :: rest) : rest.Pairwise L.MayPrecede := by
  have ordered := ledger.ordered
  rw [head] at ordered
  exact (List.pairwise_cons.mp ordered).2

theorem Consistent.ordered_push (ledger : L.Consistent) (n : Nat) (attempt : UInt32) :
    (L.queue ++ [Job.watch n attempt]).Pairwise L.MayPrecede := by
  rw [List.pairwise_append]
  refine ⟨ledger.ordered, List.pairwise_singleton _ _, ?_⟩
  intro earlier _ later member
  rw [List.mem_singleton.mp member]
  simp [MayPrecede]

theorem Consistent.settled (ledger : L.Consistent) {before after : List Nat}
    (waits : L.opening = before ++ n :: after) :
    { L with opening := before ++ after, queue := L.queue ++ [Job.watch n 0] }.Consistent := by
  apply ledger.moved (M := { L with opening := before ++ after, queue := L.queue ++ [.watch n 0] }) rfl
  · intro m
    simp only [count_underway, waits, List.filterMap_append, List.count_append, List.filterMap_cons,
      Job.watched?, List.filterMap_nil, List.count_cons, List.count_nil]
    omega
  · simp
  · exact ledger.ordered_push n 0
  · intro m attempt s running known
    simpa using isOutstanding_eq_false.mp (ledger.calling running known)
  · exact ledger.waits

theorem Consistent.settledLost (ledger : L.Consistent) {before after : List Nat}
    (waits : L.opening = before ++ n :: after) : { L with opening := before ++ after }.Consistent := by
  apply ledger.moved (M := { L with opening := before ++ after }) rfl
  · intro m
    simp only [count_underway, waits, List.count_append, List.count_cons]
    omega
  · simp
  · exact ledger.ordered
  · exact fun running known => isOutstanding_eq_false.mp (ledger.calling running known)
  · exact ledger.waits

/-- A registration that begins finds nothing to cancel: neither a watch of its own service, nor a
cancellation that the lane has still to come to. -/
theorem Consistent.calls (ledger : L.Consistent) {rest : List Job}
    (head : L.queue = .watch n attempt :: rest) (known : L.standings[n]? = some s)
    (current : s.isCurrent = true) :
    L.isRegistered s.service = false ∧ .cancel s.service ∉ rest := by
  have holds := ledger.holds_of_current known current
  have queued : Job.watch n attempt ∈ L.queue := by simp [head]
  constructor
  · cases registered : L.isRegistered s.service with
    | false => rfl
    | true => exact absurd (mem_underway_of_queue queued) (ledger.arrived holds registered)
  · have ordered := ledger.ordered
    rw [head] at ordered
    intro member
    exact (List.pairwise_cons.mp ordered).1 _ member n attempt s.service rfl holds rfl

theorem Consistent.started (ledger : L.Consistent) {rest : List Job} (free : L.running = none)
    (head : L.queue = .watch n attempt :: rest) (known : L.standings[n]? = some s)
    (current : s.isCurrent = true) :
    { L with running := some (.watch n attempt), queue := rest }.Consistent := by
  apply ledger.moved (M := { L with running := some (.watch n attempt), queue := rest }) rfl
  · intro m
    simp only [count_underway, free, head, Option.toList_none, Option.toList_some,
      List.filterMap_cons, Job.watched?, List.filterMap_nil, List.count_cons, List.count_nil]
    omega
  · simp [head]
  · exact ledger.ordered_tail head
  · intro m other r running at_m
    cases running
    rw [known] at at_m
    cases at_m
    exact ledger.calls head known current
  · exact ledger.waits

theorem Consistent.skipped (ledger : L.Consistent) {rest : List Job} (free : L.running = none)
    (head : L.queue = .watch n attempt :: rest) : { L with queue := rest }.Consistent := by
  apply ledger.moved (M := { L with queue := rest }) rfl
  · intro m
    simp only [count_underway, head, List.filterMap_cons, Job.watched?, List.count_cons]
    omega
  · simp [head]
  · exact ledger.ordered_tail head
  · simp [free]
  · exact ledger.waits

theorem Consistent.cancelStarted (ledger : L.Consistent) {rest : List Job} (free : L.running = none)
    (head : L.queue = .cancel service :: rest) :
    { L with running := some (.cancel service), queue := rest }.Consistent := by
  apply ledger.moved (M := { L with running := some (.cancel service), queue := rest }) rfl
  · intro m
    simp [count_underway, free, head, List.filterMap_cons, Job.watched?]
  · intro other
    simp only [head, List.count_cons]
    omega
  · exact ledger.ordered_tail head
  · simp
  · exact ledger.waits

theorem Consistent.outlived (ledger : L.Consistent)
    (running : L.running = some (.watch n attempt)) :
    { L with running := some (.cancel service) }.Consistent := by
  apply ledger.moved (M := { L with running := some (.cancel service) }) rfl
  · intro m
    simp [count_underway, running, List.filterMap_cons, Job.watched?]
  · simp
  · exact ledger.ordered
  · simp
  · exact ledger.waits

theorem Consistent.finished (ledger : L.Consistent) : { L with running := none }.Consistent := by
  apply ledger.moved (M := { L with running := none }) rfl
  · intro m
    simp [count_underway]
  · simp
  · exact ledger.ordered
  · simp
  · exact ledger.waits

theorem Consistent.postponed (ledger : L.Consistent) (running : L.running = some (.watch n attempt))
    (next : UInt32) :
    { L with running := none, waiting := L.waiting ++ [Job.watch n next] }.Consistent := by
  apply ledger.moved
    (M := { L with running := none, waiting := L.waiting ++ [Job.watch n next] }) rfl
  · intro m
    simp only [count_underway, running, List.filterMap_append, List.count_append, Option.toList_none,
      Option.toList_some, List.filterMap_cons, Job.watched?, List.filterMap_nil, List.count_cons,
      List.count_nil]
    omega
  · simp
  · exact ledger.ordered
  · simp
  · intro m other service member holds
    rcases List.mem_append.mp member with member | member
    · exact ledger.waits member holds
    · cases List.mem_singleton.mp member
      obtain ⟨s, known, _, rfl⟩ := standing_of_holder? holds
      exact (isOutstanding_eq_false.mp (ledger.calling running known)).2

theorem Consistent.resumed (ledger : L.Consistent) {before after : List Job}
    (waits : L.waiting = before ++ .watch n attempt :: after) :
    { L with waiting := before ++ after, queue := L.queue ++ [Job.watch n attempt] }.Consistent := by
  apply ledger.moved
    (M := { L with waiting := before ++ after, queue := L.queue ++ [.watch n attempt] }) rfl
  · intro m
    simp only [count_underway, waits, List.filterMap_append, List.count_append, List.filterMap_cons,
      Job.watched?, List.filterMap_nil, List.count_cons, List.count_nil]
    omega
  · simp
  · exact ledger.ordered_push n attempt
  · intro m other s running known
    simpa using isOutstanding_eq_false.mp (ledger.calling running known)
  · intro m other service member holds
    have still : Job.watch m other ∈ L.waiting := by
      rw [waits]
      simp only [List.mem_append, List.mem_cons] at member ⊢
      exact member.imp_right .inr
    exact ledger.waits still holds

theorem Consistent.resumedLost (ledger : L.Consistent) {before after : List Job}
    (waits : L.waiting = before ++ .watch n attempt :: after) :
    { L with waiting := before ++ after }.Consistent := by
  apply ledger.moved (M := { L with waiting := before ++ after }) rfl
  · intro m
    simp only [count_underway, waits, List.filterMap_append, List.count_append, List.filterMap_cons,
      Job.watched?, List.count_cons]
    omega
  · simp
  · exact ledger.ordered
  · exact fun running known => isOutstanding_eq_false.mp (ledger.calling running known)
  · intro m other service member holds
    have still : Job.watch m other ∈ L.waiting := by
      rw [waits]
      simp only [List.mem_append, List.mem_cons] at member ⊢
      exact member.imp_right .inr
    exact ledger.waits still holds

theorem Consistent.opened (ledger : L.Consistent) (absent : L.holder? service = none) :
    { L with
      standings := L.standings ++ [Standing.mk service true false]
      opening := L.opening ++ [L.standings.length] }.Consistent := by
  let M : WatchLedger :=
    { L with
      standings := L.standings ++ [⟨service, true, false⟩]
      opening := L.opening ++ [L.standings.length] }
  have holder (other : ServiceKey) :
      M.holder? other = if other = service then some L.standings.length else L.holder? other :=
    holder?_grown rfl absent
  have registered (other : ServiceKey) : M.isRegistered other = L.isRegistered other :=
    isRegistered_grown rfl absent
  have underway (m : Nat) :
      M.underway.count m = L.underway.count m + if L.standings.length = m then 1 else 0 := by
    simp only [count_underway, M, List.count_append, List.count_singleton, beq_iff_eq]
    omega
  have old {m : Nat} (member : m ∈ L.underway) {other : ServiceKey} (holds : M.holder? other = some m) :
      L.holder? other = some m := by
    rw [holder] at holds
    split at holds
    · cases holds
      exact absurd (ledger.known _ member) (Nat.lt_irrefl _)
    · exact holds
  have nobody {i : Nat} {a : Standing} (known : L.standings[i]? = some a) (current : a.isCurrent = true) :
      a.service ≠ service := by
    intro same
    have holds := ledger.holds_of_current known current
    rw [same, absent] at holds
    cases holds
  have at_end {i : Nat} {a : Standing} (known : M.standings[i]? = some a) :
      L.standings[i]? = some a ∨ i = L.standings.length ∧ a = ⟨service, true, false⟩ := by
    rcases Nat.lt_trichotomy i L.standings.length with below | rfl | above
    · exact .inl (by simpa only [M, List.getElem?_append_left below] using known)
    · exact .inr ⟨rfl, by simpa [M, eq_comm] using known⟩
    · obtain ⟨bound, _⟩ := List.getElem?_eq_some_iff.mp known
      simp only [M, List.length_append, List.length_singleton] at bound
      omega
  constructor
  case unambiguous =>
    intro i j a b first second live alive same
    rcases at_end first with known | ⟨rfl, rfl⟩
    · rcases at_end second with also | ⟨rfl, rfl⟩
      · exact ledger.unambiguous known also live alive same
      · exact absurd same (nobody known live)
    · rcases at_end second with also | ⟨rfl, rfl⟩
      · exact absurd same.symm (nobody also alive)
      · rfl
  case once =>
    intro m
    have counted := underway m
    have before := ledger.once m
    split at counted
    · next same =>
      subst same
      have new : L.underway.count L.standings.length = 0 :=
        List.count_eq_zero.mpr fun member => absurd (ledger.known _ member) (Nat.lt_irrefl _)
      exact Nat.le_of_eq (by rw [counted, new])
    · exact Nat.le_trans (Nat.le_of_eq counted) before
  case known =>
    intro m member
    have positive : 0 < M.underway.count m := List.count_pos_iff.mpr member
    have counted := underway m
    simp only [List.length_append, List.length_singleton]
    split at counted
    · omega
    · have := ledger.known m (List.count_pos_iff.mp (by omega))
      omega
  case arrived =>
    intro other m holds isRegistered member
    rw [registered] at isRegistered
    rw [holder] at holds
    split at holds
    · next same =>
      subst same
      rw [isRegistered_of_absent absent] at isRegistered
      cases isRegistered
    · obtain ⟨s, known, _⟩ := standing_of_holder? holds
      obtain ⟨bound, _⟩ := List.getElem?_eq_some_iff.mp known
      have counted := underway m
      rw [if_neg (by omega)] at counted
      have positive : 0 < M.underway.count m := List.count_pos_iff.mpr member
      exact ledger.arrived holds isRegistered (List.count_pos_iff.mp (by omega))
  case wanted =>
    intro other isRegistered
    rw [registered] at isRegistered
    exact ledger.wanted isRegistered
  case ordered =>
    refine ledger.ordered.imp_of_mem ?_
    intro earlier later first _ precedes m attempt other watch holds
    subst watch
    exact precedes m attempt other rfl (old (mem_underway_of_queue first) holds)
  case calling =>
    intro m attempt s running known
    rw [isOutstanding_eq_false, registered]
    rcases at_end known with known | ⟨rfl, _⟩
    · exact isOutstanding_eq_false.mp (ledger.calling running known)
    · exact absurd (ledger.known _ (mem_underway_of_running running)) (Nat.lt_irrefl _)
  case waits =>
    intro m attempt other member holds
    exact ledger.waits member (old (mem_underway_of_waiting member) holds)
  case single => exact ledger.single

theorem Consistent.dropped (ledger : L.Consistent) (holds : L.holder? service = some n) :
    (L.drop n).Consistent := by
  have holder {other : ServiceKey} {m : Nat} (still : (L.drop n).holder? other = some m) :
      L.holder? other = some m := by
    rw [ledger.holder?_dropped holds rfl] at still
    split at still
    · cases still
    · exact still
  have registered {other : ServiceKey} (still : (L.drop n).isRegistered other = true) :
      L.isRegistered other = true := by
    rw [ledger.isRegistered_dropped holds rfl] at still
    split at still
    · cases still
    · exact still
  have before {m : Nat} {a : Standing} (known : (L.drop n).standings[m]? = some a) :
      ∃ b, L.standings[m]? = some b ∧ a.service = b.service ∧ (a.isCurrent = true → a = b) := by
    simp only [drop, List.getElem?_modify] at known
    obtain ⟨b, at_m, rfl⟩ := Option.map_eq_some_iff.mp known
    refine ⟨b, at_m, ?_, ?_⟩
    · split <;> rfl
    · split
      · intro impossible
        cases impossible
      · exact fun _ => rfl
  constructor
  case unambiguous =>
    intro i j a b first second live alive same
    obtain ⟨c, known, _, equal⟩ := before first
    obtain ⟨d, also, _, alike⟩ := before second
    cases equal live
    cases alike alive
    exact ledger.unambiguous known also live alive same
  case once => exact ledger.once
  case known =>
    intro m member
    simpa [drop] using ledger.known m member
  case arrived =>
    intro other m still isRegistered
    exact ledger.arrived (holder still) (registered isRegistered)
  case wanted =>
    intro other isRegistered
    exact ledger.wanted (registered isRegistered)
  case ordered =>
    exact ledger.ordered.imp fun precedes m attempt other watch still =>
      precedes m attempt other watch (holder still)
  case calling =>
    intro m attempt a running known
    obtain ⟨b, at_m, same, _⟩ := before known
    obtain ⟨unregistered, absent⟩ := isOutstanding_eq_false.mp (ledger.calling running at_m)
    rw [isOutstanding_eq_false, same]
    refine ⟨?_, absent⟩
    cases still : (L.drop n).isRegistered b.service with
    | false => rfl
    | true => rw [registered still] at unregistered; cases unregistered
  case waits =>
    intro m attempt other member still
    exact ledger.waits member (holder still)
  case single => exact ledger.single

theorem Consistent.cancelPushed (ledger : L.Consistent) (absent : L.holder? service = none)
    (fresh : Job.cancel service ∉ L.queue)
    (free : ∀ m attempt s, L.running = some (.watch m attempt) → L.standings[m]? = some s →
      s.service ≠ service) :
    { L with queue := L.queue ++ [Job.cancel service] }.Consistent := by
  have others {other : ServiceKey} {m : Nat} (holds : L.holder? other = some m) : other ≠ service := by
    rintro rfl
    rw [absent] at holds
    cases holds
  have pushed {other : ServiceKey} (ne : other ≠ service) (missing : Job.cancel other ∉ L.queue) :
      Job.cancel other ∉ L.queue ++ [Job.cancel service] := by
    simp [missing, ne]
  constructor
  case unambiguous => exact ledger.unambiguous
  case once =>
    intro m
    simpa [count_underway, List.filterMap_cons, Job.watched?] using ledger.once m
  case known =>
    intro m member
    exact ledger.known m (by simpa [underway, List.filterMap_cons, Job.watched?] using member)
  case arrived =>
    intro other m holds isRegistered member
    exact ledger.arrived holds isRegistered (by simpa [underway, List.filterMap_cons, Job.watched?] using member)
  case wanted =>
    intro other isRegistered
    obtain ⟨m, holds⟩ : ∃ m, L.holder? other = some m := by
      cases held : L.holder? other with
      | some m => exact ⟨m, rfl⟩
      | none =>
        have unregistered := isRegistered_of_absent held
        rw [show L.isRegistered other = true from isRegistered] at unregistered
        cases unregistered
    exact pushed (others holds) (ledger.wanted isRegistered)
  case ordered =>
    rw [List.pairwise_append]
    refine ⟨ledger.ordered, List.pairwise_singleton _ _, ?_⟩
    intro earlier _ later member m attempt other _ holds
    rw [List.mem_singleton.mp member]
    intro same
    cases same
    exact others holds rfl
  case calling =>
    intro m attempt s running known
    obtain ⟨unregistered, missing⟩ := isOutstanding_eq_false.mp (ledger.calling running known)
    exact isOutstanding_eq_false.mpr
      ⟨unregistered, pushed (free m attempt s running known) missing⟩
  case waits =>
    intro m attempt other member holds
    exact pushed (others holds) (ledger.waits member holds)
  case single =>
    intro other
    have before := ledger.single other
    simp only [List.count_append, List.count_singleton, beq_iff_eq, Job.cancel.injEq]
    split
    · next same =>
      subst same
      have uncounted := List.count_eq_zero_of_not_mem fresh
      omega
    · exact before

theorem Consistent.cancelQueued (ledger : L.Consistent) (holds : L.holder? service = some n)
    (registered : L.isRegistered service = true) :
    { L.drop n with queue := L.queue ++ [Job.cancel service] }.Consistent := by
  apply (ledger.dropped holds).cancelPushed
  · simp [ledger.holder?_dropped holds rfl]
  · exact ledger.wanted registered
  · intro m attempt s running known same
    simp only [drop, List.getElem?_modify] at known
    obtain ⟨b, at_m, rfl⟩ := Option.map_eq_some_iff.mp known
    have service : b.service = service := by
      rw [← same]
      split <;> rfl
    have quiet := (isOutstanding_eq_false.mp (ledger.calling running at_m)).1
    rw [service, registered] at quiet
    cases quiet

theorem Consistent.registered (ledger : L.Consistent) (running : L.running = some (.watch n attempt))
    (known : L.standings[n]? = some s) (current : s.isCurrent = true) :
    { L.register n with running := none }.Consistent := by
  let M : WatchLedger := { L.register n with running := none }
  have holds := ledger.holds_of_current known current
  obtain ⟨_, absent⟩ := isOutstanding_eq_false.mp (ledger.calling running known)
  have holder (other : ServiceKey) : M.holder? other = L.holder? other := holder?_register rfl
  have registered (other : ServiceKey) :
      M.isRegistered other = if other = s.service then true else L.isRegistered other :=
    isRegistered_register rfl holds
  have underway (m : Nat) : M.underway.count m + (if n = m then 1 else 0) = L.underway.count m := by
    simp only [count_underway, M, register, running, Option.toList_none, Option.toList_some,
      List.filterMap_cons, Job.watched?, List.filterMap_nil, List.count_nil, List.count_singleton,
      beq_iff_eq]
    omega
  have left {m : Nat} (member : m ∈ M.underway) : m ∈ L.underway ∧ n ≠ m := by
    have positive := List.count_pos_iff.mpr member
    have counted := underway m
    have before := ledger.once m
    constructor
    · exact List.count_pos_iff.mp (by omega)
    · intro same
      rw [if_pos same] at counted
      omega
  have standing {m : Nat} {a : Standing} (at_m : M.standings[m]? = some a) :
      ∃ b, L.standings[m]? = some b ∧ a.service = b.service ∧ a.isCurrent = b.isCurrent := by
    simp only [M, register, List.getElem?_modify] at at_m
    obtain ⟨b, known, rfl⟩ := Option.map_eq_some_iff.mp at_m
    refine ⟨b, known, ?_, ?_⟩ <;> split <;> rfl
  constructor
  case unambiguous =>
    intro i j a b first second live alive same
    obtain ⟨c, known, service, status⟩ := standing first
    obtain ⟨d, also, twin, standing⟩ := standing second
    exact ledger.unambiguous known also (status ▸ live) (standing ▸ alive) (service ▸ twin ▸ same)
  case once =>
    intro m
    have counted := underway m
    have before := ledger.once m
    exact Nat.le_trans (Nat.le_of_add_right_le (Nat.le_of_eq counted)) before
  case known =>
    intro m member
    simpa [M, register] using ledger.known m (left member).1
  case arrived =>
    intro other m still isRegistered member
    rw [holder] at still
    rw [registered] at isRegistered
    split at isRegistered
    · next same =>
      subst same
      rw [holds] at still
      cases still
      exact (left member).2 rfl
    · exact ledger.arrived still isRegistered (left member).1
  case wanted =>
    intro other isRegistered
    rw [registered] at isRegistered
    split at isRegistered
    · next same =>
      subst same
      exact absent
    · exact ledger.wanted isRegistered
  case ordered =>
    exact ledger.ordered.imp fun precedes m attempt other watch still =>
      precedes m attempt other watch (by rwa [holder] at still)
  case calling =>
    intro m attempt a impossible
    cases impossible
  case waits =>
    intro m attempt other member still
    rw [holder] at still
    exact ledger.waits member still
  case single => exact ledger.single

theorem Move.consistent {M : WatchLedger} {lossy : Bool} {marks : List (ServiceKey × WatchMark)}
    (move : Move L lossy marks M) (ledger : L.Consistent) : M.Consistent := by
  cases move with
  | opened absent => exact ledger.opened absent
  | settled waits => exact ledger.settled waits
  | settledLost waits => exact ledger.settledLost waits
  | dropped holds _ => exact ledger.dropped holds
  | cancelQueued holds registered => exact ledger.cancelQueued holds registered
  | cancelledAtOnce holds _ => exact ledger.dropped holds
  | abandoned holds _ => exact ledger.dropped holds
  | started free head known current => exact ledger.started free head known current
  | skipped free head _ _ => exact ledger.skipped free head
  | cancelStarted free head => exact ledger.cancelStarted free head
  | registered running known current => exact ledger.registered running known current
  | outlived running _ _ => exact ledger.outlived running
  | postponed running => exact ledger.postponed running _
  | givenUp _ => exact ledger.finished
  | cancelReturned _ => exact ledger.finished
  | resumed waits => exact ledger.resumed waits
  | resumedLost waits => exact ledger.resumedLost waits

end WatchLedger

end TrafficControl
