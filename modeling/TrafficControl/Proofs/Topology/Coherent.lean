import TrafficControl.Proofs.Topology.Fetching
import TrafficControl.Proofs.Topology.Roster
import TrafficControl.Proofs.Topology.WatchAlternation

namespace TrafficControl

namespace Topology

variable {t : Topology} {n : Nat}

section Steps

variable {e : Event} {turn : Turn Unit} {f : Feed}

theorem isCurrent_eq (t : Topology) (n : Nat) : t.isCurrent n = (t.feed? n).any Feed.isCurrent := by
  simp only [isCurrent, feed?, Option.any_map]
  rfl

theorem published?_of_brought {m : Nat} {instances : Instances}
    (brought : t.brought? e = some (m, instances)) (n : Nat) :
    t.published? e n = if m = n ∧ t.isCurrent n = true then some instances else none := by
  simp [published?, brought]

theorem Change.evolves (change : Change t e turn) (known : t.feed? n = some f) :
    ∃ g, turn.after.feed? n = some g ∧ (g.isCurrent = true → f.isCurrent = true) ∧
      g.service = f.service ∧ g.snapshot? = (t.published? e n).or f.snapshot? ∧
      ∀ l ∈ g.listeners, l ∈ f.listeners ∨ l = t.nextListener := by
  cases change with
  | still feeds _ _ fruitless _ =>
    refine ⟨f, by rw [feeds, known], id, rfl, ?_, fun _ => .inl⟩
    rw [fruitless]
    rfl
  | @joined service m s found =>
    simp only [Turn.forget, feed?_join, known]
    by_cases at_n : m = n
    · refine ⟨{ f with listeners := f.listeners ++ [t.nextListener] }, by simp [at_n], id, rfl, rfl, ?_⟩
      simp
    · exact ⟨f, by simp [at_n], id, rfl, rfl, fun _ => .inl⟩
  | opened _ =>
    have older : t.subscriptions.length ≠ n := by
      rintro rfl
      rw [feed?_length] at known
      cases known
    simp only [Turn.forget, feed?_openFor, if_neg older]
    exact ⟨f, known, id, rfl, rfl, fun _ => .inl⟩
  | @left service listener m s _ _ _ feeds _ _ _ =>
    simp only [feeds, feed?_dismiss, known]
    by_cases at_n : m = n
    · refine ⟨{ f with listeners := f.listeners.filter (· ≠ listener) }, by simp [at_n], id, rfl, rfl, ?_⟩
      exact fun l member => .inl (List.mem_filter.mp member).1
    · exact ⟨f, by simp [at_n], id, rfl, rfl, fun _ => .inl⟩
  | @removed service listener m s _ _ _ feeds _ _ =>
    simp only [feeds, feed?_remove, feed?_dismiss, known]
    by_cases at_n : m = n
    · refine ⟨{ f with listeners := f.listeners.filter (· ≠ listener), isCurrent := false },
        by simp [at_n], by simp, rfl, rfl, ?_⟩
      exact fun l member => .inl (List.mem_filter.mp member).1
    · exact ⟨f, by simp [at_n], id, rfl, rfl, fun _ => .inl⟩
  | @published _ m s instances _ at_m current brought feeds _ _ =>
    rw [published?_of_brought brought]
    simp only [feeds, feed?_keep, known]
    by_cases at_n : m = n
    · subst at_n
      have alive : t.isCurrent m = true := by simp [isCurrent, at_m, current]
      exact ⟨{ f with snapshot? := some instances }, by simp, id, rfl, by simp [alive], fun _ => .inl⟩
    · exact ⟨f, by simp [at_n], id, rfl, by simp [at_n], fun _ => .inl⟩
  | closed feeds _ _ closes =>
    rw [published?_of_nothing (brought?_of_closes closes)]
    rcases feeds n with same | gone
    · exact ⟨f, by rw [same, known], id, rfl, rfl, fun _ => .inl⟩
    · exact ⟨{ f with isCurrent := false }, by rw [gone, known]; rfl, by simp, rfl, rfl, fun _ => .inl⟩

theorem Change.fades (change : Change t e turn) (known : (t.feed? n).isSome = true)
    (gone : t.isCurrent n = false) :
    (turn.after.feed? n).isSome = true ∧ turn.after.isCurrent n = false := by
  obtain ⟨f, before⟩ := Option.isSome_iff_exists.mp known
  obtain ⟨g, after, alive, _⟩ := change.evolves before
  rw [isCurrent_eq, before, Option.any_some] at gone
  refine ⟨by simp [after], ?_⟩
  rw [isCurrent_eq, after, Option.any_some]
  cases current : g.isCurrent with
  | false => rfl
  | true =>
    rw [alive current] at gone
    cases gone

/-- A fetch is queued as long as it counts as pending, and never twice. -/
def Queued (t : Topology) : Prop :=
  ∀ n, t.dispatcher.fetch.queue.count (.fetch n) = (t.pending n).toNat

theorem FetchChange.keeps_queued (change : FetchChange t e turn) (queued : t.Queued) :
    turn.after.Queued := by
  -- The head of the queue is the only one of its kind.
  have taken {m : Nat} {rest : List Job} (head : t.dispatcher.fetch.queue = .fetch m :: rest) (k : Nat) :
      rest.count (.fetch k) = if m = k then 0 else (t.pending k).toNat := by
    have before := queued k
    rw [head, List.count_cons] at before
    by_cases at_m : m = k
    · subst at_m
      have := Bool.toNat_le (t.pending m)
      simp only [beq_self_eq_true, if_true] at before ⊢
      omega
    · simpa [at_m] using before
  intro k
  cases change with
  | still lane _ pending _ _ =>
    rw [lane, pending]
    exact queued k
  | @queued _ _ m unset lane _ pending _ _ =>
    have before := queued k
    rw [lane, pending, List.count_append, before]
    by_cases at_m : m = k
    · subst at_m
      simp [unset]
    · simp [at_m]
  | @opened service =>
    have pending : (t.openFor service).after.pending k = t.pending k := by
      simp only [Topology.pending, openFor, List.getElem?_append, List.getElem?_singleton]
      grind [Subscription.opened]
    rw [Turn.forget, pending]
    exact queued k
  | @began m rest s _ head known _ =>
    have pending : ((t.occupy .fetch (some (.fetch m)) rest).clearPending m).pending k =
        if m = k then false else t.pending k := by
      rw [clearPending, pending_modify]
      simp [Topology.pending, occupy]
    rw [pending]
    refine (taken head k).trans ?_
    split <;> rfl
  | @skipped m rest s _ head known _ =>
    have pending : ((t.occupy .fetch none rest).clearPending m).pending k =
        if m = k then false else t.pending k := by
      rw [clearPending, pending_modify]
      simp [Topology.pending, occupy]
    rw [quietly, pending]
    refine (taken head k).trans ?_
    split <;> rfl
  | ended _ _ lane _ pending _ =>
    rw [lane, pending]
    exact queued k
  | settled _ _ lane _ pending _ =>
    rw [lane, pending]
    exact queued k

theorem FetchChange.due (change : FetchChange t e turn)
    (due : .fetch n ∈ t.dispatcher.fetch.queue) :
    .fetch n ∈ turn.after.dispatcher.fetch.queue ∨
      (∃ service, .fetching .lane n service ∈ turn.happenings) ∨ t.isCurrent n = false := by
  cases change with
  | still lane _ _ _ _ =>
    rw [lane]
    exact .inl due
  | queued _ lane _ _ _ _ =>
    rw [lane]
    exact .inl (List.mem_append_left _ due)
  | opened => exact .inl due
  | @began m rest s _ head _ _ =>
    rw [head] at due
    rcases List.mem_cons.mp due with same | later
    · cases same
      exact .inr (.inl ⟨s.service, List.mem_singleton_self _⟩)
    · exact .inl later
  | @skipped m rest s _ head known removed =>
    rw [head] at due
    rcases List.mem_cons.mp due with same | later
    · cases same
      exact .inr (.inr (by simp [isCurrent, known, removed]))
    · exact .inl later
  | ended _ _ lane _ _ _ =>
    rw [lane]
    exact .inl due
  | settled _ _ lane _ _ _ =>
    rw [lane]
    exact .inl due

end Steps

structure Coherent (t : Topology) : Prop where
  numbered : t.Numbered
  ledger : t.ledger.Consistent
  rostered : t.Rostered
  queued : t.Queued

namespace Coherent

theorem empty (retry : RetryPolicy) (includeBroken : Bool) :
    (Topology.empty retry includeBroken).Coherent :=
  ⟨.empty retry includeBroken, WatchLedger.consistent_empty, .empty retry includeBroken, fun _ => rfl⟩

theorem change (coherent : t.Coherent) (e : Event) : Change t e (t.turn e) :=
  (coherent.numbered.step e).change coherent.numbered

theorem fetching (coherent : t.Coherent) (e : Event) : FetchChange t e (t.turn e) :=
  (coherent.numbered.step e).fetching

theorem turn (coherent : t.Coherent) (e : Event) : (t.turn e).after.Coherent where
  numbered := coherent.numbered.turn e
  ledger := (coherent.numbered.moves e).consistent coherent.ledger
  rostered := (coherent.change e).rostered coherent.rostered
  queued := (coherent.fetching e).keeps_queued coherent.queued

theorem run (coherent : t.Coherent) (events : List Event) : (t.run events).Coherent :=
  run_keeps (fun _ e kept => kept.turn e) coherent

end Coherent

end Topology

end TrafficControl
