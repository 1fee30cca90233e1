import TrafficControl.Proofs.Dispatcher.Schedule
import Mathlib.Data.List.Infix

namespace TrafficControl

variable {τ : Type u}

inductive LaneStep : Lane τ → List τ → List τ → List τ → Lane τ → Prop where
  | still (l : Lane τ) : LaneStep l [] [] [] l
  | accept (l : Lane τ) (task : τ) : LaneStep l [task] [] [] (l.push task)
  | start {l : Lane τ} {task : τ} {rest : List τ} (free : l.running = none)
      (head : l.queue = task :: rest) : LaneStep l [] [task] [] ⟨some task, rest⟩
  | finish {l : Lane τ} {task : τ} (running : l.running = some task) :
      LaneStep l [] [] [task] l.finish

namespace LaneStep

variable {l after : Lane τ} {accepted started ended : List τ}

theorem account (step : LaneStep l accepted started ended after) {a b c : List τ}
    (queued : a = b ++ l.queue) (running : b = c ++ l.running.toList) :
    a ++ accepted = b ++ started ++ after.queue ∧
      b ++ started = c ++ ended ++ after.running.toList := by
  cases step with
  | still => simpa using ⟨queued, running⟩
  | accept task => simpa [Lane.push, queued] using running
  | start free head =>
    rw [free] at running
    rw [head] at queued
    simp [queued, running]
  | finish busy =>
    rw [busy] at running
    simp [Lane.finish, queued, running]

theorem stays_free (step : LaneStep l accepted [] ended after) (free : l.running = none) :
    after.running = none := by
  cases step with
  | still => exact free
  | accept task => exact free
  | finish busy => rfl

theorem stays_idle (step : LaneStep l [] started ended after) (free : l.running = none)
    (empty : l.queue = []) : after.running = none ∧ after.queue = [] := by
  cases step with
  | still => exact ⟨free, empty⟩
  | start _ head => rw [empty] at head; cases head
  | finish busy => rw [free] at busy; cases busy

end LaneStep

namespace Dispatching

variable (s : Dispatching τ)

theorem turn_lane (e : DispatchEvent τ) (lane : LaneName) :
    LaneStep (s.dispatcher.lane lane) ((s.turn e).2.filterMap (DispatchMark.accepted? lane))
      ((s.turn e).2.filterMap (DispatchMark.started? lane))
      ((s.turn e).2.filterMap (DispatchMark.ended? lane)) ((s.turn e).1.dispatcher.lane lane) := by
  cases e with
  | submit name task =>
    simp only [turn, Dispatcher.submit?_eq]
    by_cases shut : s.dispatcher.isShutdown = true
    · simpa [shut] using .still _
    · by_cases own : name = lane
      · subst own
        simpa [shut, Dispatcher.lane_withLane] using .accept _ task
      · simpa [shut, own, Dispatcher.lane_withLane] using .still _
  | submitDelayed name task =>
    simp only [turn, Dispatcher.submitDelayed?]
    by_cases shut : s.dispatcher.isShutdown = true
    · simpa [shut] using .still _
    · cases lane <;> simpa [shut] using .still _
  | expire ticket =>
    simp only [turn, arriving?, Dispatcher.expire_eq, Dispatcher.submit?_eq]
    cases found : s.dispatcher.delayed.find? fun w => w.ticket = ticket with
    | none => simpa using .still _
    | some w =>
      have forgets : (s.dispatcher.forget ticket).isShutdown = s.dispatcher.isShutdown := rfl
      by_cases shut : s.dispatcher.isShutdown = true
      · simpa [forgets, shut, Dispatcher.lane_forget] using .still _
      · by_cases own : w.lane = lane
        · subst own
          simpa [forgets, shut, Dispatcher.lane_withLane] using .accept _ w.task
        · simpa [forgets, shut, own, Dispatcher.lane_withLane, Dispatcher.lane_forget] using .still _
  | start name =>
    simp only [turn]
    cases taken : s.dispatcher.start? name with
    | none => simpa using .still _
    | some pair =>
      obtain ⟨task, after⟩ := pair
      obtain ⟨free, rest, head, rfl⟩ := Dispatcher.start?_eq_some taken
      by_cases own : name = lane
      · subst own
        simpa [Dispatcher.lane_withLane] using .start free head
      · simpa [own, Dispatcher.lane_withLane] using .still _
  | finish name brokeOff =>
    simp only [turn]
    cases running : (s.dispatcher.lane name).running with
    | none => simpa using .still _
    | some task =>
      by_cases own : name = lane
      · subst own
        simpa [Dispatcher.finish, Dispatcher.lane_withLane] using .finish running
      · simpa [own, Dispatcher.finish, Dispatcher.lane_withLane] using .still _
  | shutdown =>
    by_cases shut : s.dispatcher.isShutdown = true
    · simpa [turn, shut]
        using .still _
    · cases lane <;> simpa [turn, shut] using .still _
  | drained =>
    by_cases done : (s.isAwaited && s.dispatcher.isDrained) = true
    · simpa [turn, done]
        using .still _
    · simpa [turn, done] using .still _

theorem turn_isShutdown (e : DispatchEvent τ) :
    (s.turn e).1.dispatcher.isShutdown = (s.dispatcher.isShutdown || e.isShutdown) := by
  cases e with
  | submit name task =>
    by_cases shut : s.dispatcher.isShutdown = true <;>
      simp [turn, Dispatcher.submit?_eq, Dispatcher.isShutdown_withLane, shut]
  | submitDelayed name task =>
    by_cases shut : s.dispatcher.isShutdown = true <;>
      simp [turn, Dispatcher.submitDelayed?, shut]
  | expire ticket =>
    have forgets : (s.dispatcher.forget ticket).isShutdown = s.dispatcher.isShutdown := rfl
    simp only [turn, Dispatcher.expire_eq, DispatchEvent.isShutdown, Bool.or_false]
    cases s.dispatcher.delayed.find? fun w => w.ticket = ticket with
    | none => rfl
    | some w =>
      by_cases shut : s.dispatcher.isShutdown = true <;>
        simp [forgets, shut, Dispatcher.isShutdown_withLane]
  | start name =>
    cases taken : s.dispatcher.start? name with
    | none => simp [turn, taken]
    | some pair =>
      obtain ⟨task, after⟩ := pair
      obtain ⟨_, rest, _, rfl⟩ := Dispatcher.start?_eq_some taken
      simp [turn, taken, Dispatcher.isShutdown_withLane]
  | finish name brokeOff =>
    cases running : (s.dispatcher.lane name).running <;>
      simp [turn, running, Dispatcher.finish, Dispatcher.isShutdown_withLane]
  | shutdown =>
    by_cases shut : s.dispatcher.isShutdown = true <;> simp [turn, Dispatcher.shutdown, shut]
  | drained =>
    by_cases done : (s.isAwaited && s.dispatcher.isDrained) = true <;> simp [turn, done]

theorem turn_accepted (e : DispatchEvent τ) (lane : LaneName) :
    (s.turn e).2.filterMap (DispatchMark.accepted? lane) =
      if s.dispatcher.isShutdown then []
      else ((s.arriving? e).filter fun a => a.1 = lane).toList.map Prod.snd := by
  cases e with
  | submit name task =>
    by_cases shut : s.dispatcher.isShutdown = true
    · simp [turn, Dispatcher.submit?_eq, shut]
    · by_cases own : name = lane <;>
        simp [turn, Dispatcher.submit?_eq, arriving?, Option.filter, shut, own]
  | submitDelayed name task =>
    by_cases shut : s.dispatcher.isShutdown = true <;>
      simp [turn, Dispatcher.submitDelayed?, arriving?, shut]
  | expire ticket =>
    have forgets : (s.dispatcher.forget ticket).isShutdown = s.dispatcher.isShutdown := rfl
    simp only [turn, Dispatcher.submit?_eq, forgets]
    cases arrived : s.arriving? (.expire ticket) with
    | none => simp
    | some pair =>
      by_cases shut : s.dispatcher.isShutdown = true
      · simp [shut]
      · by_cases own : pair.1 = lane <;> simp [Option.filter, shut, own]
  | start name =>
    cases taken : s.dispatcher.start? name <;> simp [turn, arriving?, taken]
  | finish name brokeOff =>
    cases running : (s.dispatcher.lane name).running <;> simp [turn, arriving?, running]
  | shutdown =>
    by_cases shut : s.dispatcher.isShutdown = true <;> simp [turn, arriving?, shut]
  | drained =>
    by_cases done : (s.isAwaited && s.dispatcher.isDrained) = true <;> simp [turn, arriving?, done]

theorem turn_start {lane : LaneName} {task : τ} {rest : List τ}
    (free : (s.dispatcher.lane lane).running = none)
    (head : (s.dispatcher.lane lane).queue = task :: rest) :
    (s.turn (.start lane)).2 = [.started lane task] := by
  have taken : (s.dispatcher.lane lane).start? = some (task, ⟨some task, rest⟩) :=
    Lane.start?_eq_some_iff.mpr ⟨free, rest, head, rfl⟩
  simp [turn, Dispatcher.start?, taken]

theorem turn_finish (lane : LaneName) (brokeOff : Bool) :
    ((s.turn (.finish lane brokeOff)).1.dispatcher.lane lane).running = none := by
  cases running : (s.dispatcher.lane lane).running <;>
    simp [turn, running, Dispatcher.finish, Dispatcher.lane_withLane, Lane.finish]

theorem turn_tornDown {e : DispatchEvent τ} (returned : .tornDown ∈ (s.turn e).2) :
    s.isAwaited = true ∧ s.dispatcher.isDrained = true ∧
      (s.turn e).1.dispatcher = s.dispatcher := by
  cases e with
  | submit name task =>
    simp only [turn] at returned
    split at returned <;> simp at returned
  | submitDelayed name task =>
    simp only [turn] at returned
    split at returned <;> simp at returned
  | expire ticket =>
    simp only [turn] at returned
    split at returned
    · split at returned <;> simp at returned
    · simp at returned
  | start name =>
    simp only [turn] at returned
    split at returned <;> simp at returned
  | finish name brokeOff =>
    simp only [turn] at returned
    split at returned <;> simp at returned
  | shutdown =>
    simp only [turn] at returned
    split at returned <;> simp at returned
  | drained =>
    by_cases done : (s.isAwaited && s.dispatcher.isDrained) = true
    · obtain ⟨awaited, drained⟩ := (Bool.and_eq_true _ _).mp done
      exact ⟨awaited, drained, by simp [turn, done]⟩
    · simp [turn, done] at returned

theorem turn_isAwaited {e : DispatchEvent τ} (awaited : (s.turn e).1.isAwaited = true) :
    s.isAwaited = true ∨ e = .shutdown := by
  cases e with
  | shutdown => exact .inr rfl
  | expire ticket => exact .inl awaited
  | drained =>
    by_cases done : (s.isAwaited && s.dispatcher.isDrained) = true
    · simp [turn, done] at awaited
    · simpa [turn, done] using awaited
  | submit name task =>
    simp only [turn] at awaited
    split at awaited <;> exact .inl awaited
  | submitDelayed name task =>
    simp only [turn] at awaited
    split at awaited <;> exact .inl awaited
  | start name =>
    simp only [turn] at awaited
    split at awaited <;> exact .inl awaited
  | finish name brokeOff =>
    simp only [turn] at awaited
    split at awaited <;> exact .inl awaited

end Dispatching

namespace Schedule

variable {σ : Schedule τ} {lane : LaneName} {n m : Nat}

theorem step (σ : Schedule τ) (lane : LaneName) (n : Nat) :
    ∃ accepted started ended,
      LaneStep (σ.lane lane n) accepted started ended (σ.lane lane (n + 1)) ∧
      σ.accepted lane (n + 1) = σ.accepted lane n ++ accepted ∧
      σ.started lane (n + 1) = σ.started lane n ++ started ∧
      σ.ended lane (n + 1) = σ.ended lane n ++ ended :=
  ⟨_, _, _, (σ.state n).turn_lane (σ n) lane, by simp [accepted, history], by simp [started, history],
    by simp [ended, history]⟩

theorem account (σ : Schedule τ) (lane : LaneName) (n : Nat) :
    σ.accepted lane n = σ.started lane n ++ (σ.lane lane n).queue ∧
      σ.started lane n = σ.ended lane n ++ (σ.lane lane n).running.toList := by
  induction n with
  | zero => cases lane <;> exact ⟨rfl, rfl⟩
  | succ n ih =>
    obtain ⟨_, _, _, step, accepted, started, ended⟩ := σ.step lane n
    rw [accepted, started, ended]
    exact step.account ih.1 ih.2

theorem started_prefix (σ : Schedule τ) (lane : LaneName) (n : Nat) :
    σ.started lane n <+: σ.accepted lane n := by
  rw [(σ.account lane n).1]
  exact List.prefix_append _ _

theorem started_mono (later : n ≤ m) : σ.started lane n <+: σ.started lane m := by
  induction later with
  | refl => exact List.prefix_refl _
  | @step m _ ih =>
    obtain ⟨_, more, _, _, _, started, _⟩ := σ.step lane m
    rw [started]
    exact ih.trans (List.prefix_append _ _)

theorem accepted_mono (later : n ≤ m) : σ.accepted lane n <+: σ.accepted lane m := by
  induction later with
  | refl => exact List.prefix_refl _
  | @step m _ ih =>
    obtain ⟨more, _, _, _, accepted, _, _⟩ := σ.step lane m
    rw [accepted]
    exact ih.trans (List.prefix_append _ _)

theorem isShutdown_state (σ : Schedule τ) (n : Nat) :
    (σ.state n).dispatcher.isShutdown = !σ.isOpen n := by
  induction n with
  | zero => rfl
  | succ n ih =>
    show ((σ.state n).turn (σ n)).1.dispatcher.isShutdown = _
    rw [Dispatching.turn_isShutdown, ih, isOpen, isOpen, List.range_succ, List.all_append]
    simp

theorem accepted_eq_intake (σ : Schedule τ) (lane : LaneName) (n : Nat) :
    σ.accepted lane n = σ.intake lane n := by
  induction n with
  | zero => rfl
  | succ n ih =>
    have arrived := (σ.state n).turn_accepted (σ n) lane
    rw [isShutdown_state] at arrived
    simp only [accepted] at ih ⊢
    rw [history, List.filterMap_append, ih, arrived, intake]
    cases σ.isOpen n <;> rfl

theorem stays_free (later : n ≤ m) (unstarted : σ.started lane m = σ.started lane n)
    (free : (σ.lane lane n).running = none) : (σ.lane lane m).running = none := by
  induction later with
  | refl => exact free
  | @step m later ih =>
    obtain ⟨_, more, _, step, _, started, _⟩ := σ.step lane m
    have between : σ.started lane m <+: σ.started lane n := by
      rw [← unstarted]
      exact started_mono (Nat.le_succ m)
    have same : σ.started lane m = σ.started lane n :=
      between.eq_of_length_le (started_mono later).length_le
    have still : more = [] := by
      rw [unstarted, same] at started
      simpa using started
    subst still
    exact step.stays_free (ih same)

theorem Fair.comes_free (fair : σ.Fair lane) (n : Nat) :
    ∃ m, n ≤ m ∧ (σ.lane lane m).running = none := by
  cases running : (σ.lane lane n).running with
  | none => exact ⟨n, Nat.le_refl n, running⟩
  | some task =>
    obtain ⟨m, later, brokeOff, finishes⟩ := fair.ends n (by simp [running])
    refine ⟨m + 1, by omega, ?_⟩
    show (((σ.state m).turn (σ m)).1.dispatcher.lane lane).running = none
    rw [finishes]
    exact Dispatching.turn_finish _ lane brokeOff

theorem Fair.starts_next (fair : σ.Fair lane) (queued : (σ.lane lane n).queue ≠ []) :
    ∃ m, (σ.started lane n).length < (σ.started lane m).length := by
  by_contra stuck
  have unstarted : ∀ m, n ≤ m → σ.started lane m = σ.started lane n := by
    intro m later
    have bound : (σ.started lane m).length ≤ (σ.started lane n).length :=
      Nat.le_of_not_lt fun more => stuck ⟨m, more⟩
    exact ((started_mono later).eq_of_length_le bound).symm
  have still_queued : ∀ m, n ≤ m → (σ.lane lane m).queue ≠ [] := by
    intro m later emptied
    have grown : σ.accepted lane n <+: σ.accepted lane m := accepted_mono later
    rw [(σ.account lane m).1, (σ.account lane n).1, emptied, unstarted m later,
      List.prefix_append_right_inj, List.prefix_nil] at grown
    exact queued grown
  obtain ⟨k, reached, free⟩ := fair.comes_free n
  obtain ⟨task, rest, head⟩ := List.exists_cons_of_ne_nil (still_queued k reached)
  have startable : (σ.lane lane k).start? = some (task, ⟨some task, rest⟩) :=
    Lane.start?_eq_some_iff.mpr ⟨free, rest, head, rfl⟩
  obtain ⟨m, later, starts⟩ := fair.starts k (by simp [startable])
  have from_n : n ≤ m := Nat.le_trans reached later
  have same : σ.started lane m = σ.started lane k := by rw [unstarted m from_n, unstarted k reached]
  obtain ⟨next, more, head⟩ := List.exists_cons_of_ne_nil (still_queued m from_n)
  have started : σ.started lane (m + 1) = σ.started lane m ++ [next] := by
    have mark := (σ.state m).turn_start (stays_free later same free) head
    simp [Schedule.started, history, starts, mark]
  have impossible := unstarted (m + 1) (by omega)
  rw [started, unstarted m from_n] at impossible
  simp at impossible

theorem Fair.starts_all (fair : σ.Fair lane) (n : Nat) :
    ∃ m, σ.accepted lane n <+: σ.started lane m := by
  have counted : ∀ k, k ≤ (σ.accepted lane n).length →
      ∃ m, n ≤ m ∧ k ≤ (σ.started lane m).length := by
    intro k
    induction k with
    | zero => exact fun _ => ⟨n, Nat.le_refl n, Nat.zero_le _⟩
    | succ k ih =>
      intro bound
      obtain ⟨m, later, reached⟩ := ih (by omega)
      by_cases enough : k + 1 ≤ (σ.started lane m).length
      · exact ⟨m, later, enough⟩
      · have queued : (σ.lane lane m).queue ≠ [] := by
          intro emptied
          have kept : σ.accepted lane n <+: σ.accepted lane m := accepted_mono later
          have grown := kept.length_le
          rw [(σ.account lane m).1, emptied, List.append_nil] at grown
          omega
        obtain ⟨p, more⟩ := fair.starts_next queued
        have further : (σ.started lane p).length ≤ (σ.started lane (max p m)).length :=
          (started_mono (Nat.le_max_left p m)).length_le
        exact ⟨max p m, by omega, by omega⟩
  obtain ⟨m, later, reached⟩ := counted _ (Nat.le_refl _)
  exact ⟨m, List.prefix_of_prefix_length_le (accepted_mono later) (σ.started_prefix lane m) reached⟩

theorem isShutdown_of_isAwaited (awaited : (σ.state n).isAwaited = true) : σ.isOpen n = false := by
  induction n with
  | zero => cases awaited
  | succ n ih =>
    rw [isOpen, List.range_succ, List.all_append]
    rcases Dispatching.turn_isAwaited _ awaited with before | now
    · rw [← isOpen, ih before, Bool.false_and]
    · simp [now]

theorem drained_of_tornDown (returned : .tornDown ∈ σ.history n) :
    σ.isOpen n = false ∧
      ∀ lane, (σ.lane lane n).running = none ∧ (σ.lane lane n).queue = [] := by
  induction n with
  | zero => cases returned
  | succ n ih =>
    have closed : σ.isOpen n = false → σ.isOpen (n + 1) = false := by
      intro shut
      rw [isOpen, List.range_succ, List.all_append, ← isOpen, shut, Bool.false_and]
    rcases List.mem_append.mp returned with before | now
    · obtain ⟨shut, idle⟩ := ih before
      refine ⟨closed shut, fun lane => ?_⟩
      have step := (σ.state n).turn_lane (σ n) lane
      rw [Dispatching.turn_accepted, isShutdown_state, shut] at step
      exact step.stays_idle (idle lane).1 (idle lane).2
    · obtain ⟨awaited, drained, same⟩ := Dispatching.turn_tornDown _ now
      refine ⟨closed (isShutdown_of_isAwaited awaited), fun lane => ?_⟩
      have idle := Dispatcher.isDrained_iff.mp drained lane
      rw [← same] at idle
      exact idle

/-- A lane runs one task at a time, in the order of acceptance, and nothing that was not accepted. If
it gets its turns, every accepted task starts, whatever becomes of the other lane. The call that shuts
the dispatcher down returns when all has ended, and what a lane does depends on its intake alone. -/
theorem queues_are_reliable (σ : Schedule τ) (lane : LaneName) :
    (∀ n, σ.started lane n = σ.ended lane n ∨
      ∃ task, σ.started lane n = σ.ended lane n ++ [task]) ∧
    (∀ n, σ.started lane n <+: σ.accepted lane n) ∧
    (∀ n, σ.accepted lane n = σ.intake lane n) ∧
    (∀ n task, σ.started lane n = σ.ended lane n → σ.started lane n ++ [task] <+: σ.accepted lane n →
      σ n = .start lane → σ.started lane (n + 1) = σ.started lane n ++ [task]) ∧
    (σ.Fair lane → ∀ n, ∃ m, σ.accepted lane n <+: σ.started lane m) ∧
    (∀ n, .tornDown ∈ σ.history n → ∀ name, σ.ended name n = σ.accepted name n) ∧
    (∀ n, σ n = .shutdown → σ.isOpen n = false →
      σ.state (n + 1) = σ.state n ∧ σ.history (n + 1) = σ.history n ++ [.passed]) ∧
    (∀ (other : Schedule τ) (n m : Nat), σ.intake lane n = other.intake lane m →
      (σ.started lane n <+: other.started lane m ∨ other.started lane m <+: σ.started lane n) ∧
      ((σ.lane lane n).isIdle = true → (other.lane lane m).isIdle = true →
        σ.ended lane n = other.ended lane m)) := by
  refine ⟨?_, σ.started_prefix lane, σ.accepted_eq_intake lane, ?_, fun fair => fair.starts_all,
    ?_, ?_, ?_⟩
  · intro n
    rw [(σ.account lane n).2]
    cases (σ.lane lane n).running with
    | none => exact .inl (List.append_nil _)
    | some task => exact .inr ⟨task, rfl⟩
  · intro n task none_running next starts
    obtain ⟨accepted, started⟩ := σ.account lane n
    have free : (σ.lane lane n).running = none := by
      rw [none_running] at started
      simpa using started
    rw [accepted, List.prefix_append_right_inj] at next
    obtain ⟨rest, head⟩ := next
    have mark := (σ.state n).turn_start free head.symm
    simp [Schedule.started, history, starts, mark]
  · intro n returned name
    obtain ⟨accepted, started⟩ := σ.account name n
    obtain ⟨free, empty⟩ := (drained_of_tornDown returned).2 name
    rw [accepted, started, free, empty]
    simp
  · intro n call shut
    have down : (σ.state n).dispatcher.isShutdown = true := by
      rw [isShutdown_state, shut, Bool.not_false]
    simp [state, history, call, Dispatching.turn, down]
  · intro other n m same
    have accepted : σ.accepted lane n = other.accepted lane m := by
      rw [accepted_eq_intake, accepted_eq_intake, same]
    refine ⟨?_, ?_⟩
    · have first := σ.started_prefix lane n
      rw [accepted] at first
      exact List.prefix_or_prefix_of_prefix first (other.started_prefix lane m)
    · intro idle idle'
      obtain ⟨free, empty⟩ := Lane.isIdle_iff.mp idle
      obtain ⟨free', empty'⟩ := Lane.isIdle_iff.mp idle'
      have all := σ.account lane n
      have all' := other.account lane m
      rw [free, empty] at all
      rw [free', empty'] at all'
      simpa [all.1, all.2, all'.1, all'.2] using accepted

def blocked : Schedule Nat := fun n =>
  [.submit .registration 0, .start .registration, .submit .fetch 1, .submit .fetch 2, .start .fetch,
    .finish .fetch true, .start .fetch, .finish .fetch false].getD n .drained

theorem blocked_rests (k : Nat) : blocked.state (8 + k) = blocked.state 8 := by
  induction k with
  | zero => rfl
  | succ k ih =>
    have last : blocked (8 + k) = .drained := by simp [blocked]
    show ((blocked.state (8 + k)).turn (blocked (8 + k))).1 = _
    rw [ih, last]
    rfl

theorem blocked_fair : blocked.Fair .fetch := by
  have idle : ∀ n, 8 ≤ n → blocked.lane .fetch n = .empty := by
    intro n late
    obtain ⟨k, rfl⟩ := Nat.exists_eq_add_of_le late
    unfold Schedule.lane
    rw [blocked_rests k]
    rfl
  constructor
  · intro n startable
    by_cases early : n ≤ 6
    · exact ⟨6, early, rfl⟩
    · by_cases last : n = 7
      · subst last
        cases startable
      · rw [idle n (by omega)] at startable
        cases startable
  · intro n running
    by_cases early : n ≤ 7
    · exact ⟨7, early, false, rfl⟩
    · rw [idle n (by omega)] at running
      cases running

theorem queues_are_reliable_blocked :
    blocked.Fair .fetch ∧ blocked.accepted .fetch 4 = [1, 2] ∧
      (∃ m, [1, 2] <+: blocked.started .fetch m) ∧
      (∀ n, 8 ≤ n → (blocked.lane .registration n).running = some 0) := by
  obtain ⟨_, _, _, _, starts, _⟩ := queues_are_reliable blocked .fetch
  refine ⟨blocked_fair, rfl, starts blocked_fair 4, ?_⟩
  intro n late
  obtain ⟨k, rfl⟩ := Nat.exists_eq_add_of_le late
  unfold Schedule.lane
  rw [blocked_rests k]
  rfl

end Schedule

end TrafficControl
