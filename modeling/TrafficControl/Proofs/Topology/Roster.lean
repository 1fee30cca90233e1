import TrafficControl.Proofs.Topology.Feed

namespace TrafficControl

namespace Topology

structure Rostered (t : Topology) : Prop where
  old : ∀ {n f listener}, t.feed? n = some f → listener ∈ f.listeners → listener < t.nextListener
  apart : ∀ {n m f g listener}, t.feed? n = some f → t.feed? m = some g → listener ∈ f.listeners →
    listener ∈ g.listeners → n = m
  distinct : ∀ {n f}, t.feed? n = some f → f.listeners.Nodup
  present : ∀ {n f}, t.feed? n = some f → f.isCurrent = true → f.listeners ≠ []

variable {t u : Topology} {n : Nat} {s : Subscription}

theorem feed?_of_known (known : t.subscriptions[n]? = some s) : t.feed? n = some s.feed := by
  simp [feed?, known]

theorem feed?_length : t.feed? t.subscriptions.length = none := by
  simp [feed?]

theorem feed?_of_current? {service : ServiceKey} (found : t.current? service = some (n, s)) :
    t.feed? n = some s.feed :=
  feed?_of_known (subscription_of_current? found).1

namespace Rostered

theorem empty (retry : RetryPolicy) (includeBroken : Bool) :
    (Topology.empty retry includeBroken).Rostered := by
  constructor <;> simp [Topology.empty, feed?]

theorem thinned (rostered : t.Rostered) (next : u.nextListener = t.nextListener)
    (feeds : ∀ {m g}, u.feed? m = some g →
      ∃ f, t.feed? m = some f ∧ g.listeners.Sublist f.listeners ∧
        (g.isCurrent = true → g.listeners ≠ [])) : u.Rostered where
  old := by
    intro m g listener known member
    obtain ⟨f, before, fewer, _⟩ := feeds known
    rw [next]
    exact rostered.old before (fewer.mem member)
  apart := by
    intro m k g h listener first second one other
    obtain ⟨f, before, fewer, _⟩ := feeds first
    obtain ⟨e, also, less, _⟩ := feeds second
    exact rostered.apart before also (fewer.mem one) (less.mem other)
  distinct := by
    intro m g known
    obtain ⟨f, before, fewer, _⟩ := feeds known
    exact (rostered.distinct before).sublist fewer
  present := by
    intro m g known current
    obtain ⟨f, _, _, present⟩ := feeds known
    exact present current

theorem join (rostered : t.Rostered) (n : Nat) (s : Subscription) : (t.join n s).after.Rostered := by
  have at_m {m : Nat} {g : Feed} (known : (t.join n s).after.feed? m = some g) :
      ∃ f, t.feed? m = some f ∧ g.isCurrent = f.isCurrent ∧
        g.listeners = if n = m then f.listeners ++ [t.nextListener] else f.listeners := by
    rw [feed?_join] at known
    split at known
    · next same =>
      obtain ⟨f, before, rfl⟩ := Option.map_eq_some_iff.mp known
      exact ⟨f, before, rfl, by simp [same]⟩
    · next different => exact ⟨g, known, rfl, by simp [different]⟩
  have split {m : Nat} {f g : Feed} {listener : Nat} (before : t.feed? m = some f)
      (listeners : g.listeners = if n = m then f.listeners ++ [t.nextListener] else f.listeners)
      (member : listener ∈ g.listeners) :
      (listener ∈ f.listeners ∧ listener < t.nextListener) ∨ (listener = t.nextListener ∧ m = n) := by
    rw [listeners] at member
    split at member
    · next same =>
      rcases List.mem_append.mp member with old | new
      · exact .inl ⟨old, rostered.old before old⟩
      · exact .inr ⟨List.mem_singleton.mp new, same.symm⟩
    · exact .inl ⟨member, rostered.old before member⟩
  constructor
  case old =>
    intro m g listener known member
    obtain ⟨f, before, _, listeners⟩ := at_m known
    rcases split before listeners member with ⟨_, old⟩ | ⟨rfl, _⟩
    · exact Nat.lt_succ_of_lt old
    · exact Nat.lt_succ_self _
  case apart =>
    intro m k g h listener first second one other
    obtain ⟨f, before, _, listeners⟩ := at_m first
    obtain ⟨e, also, _, others⟩ := at_m second
    rcases split before listeners one with ⟨inside, old⟩ | ⟨rfl, rfl⟩
    · rcases split also others other with ⟨also_inside, _⟩ | ⟨rfl, _⟩
      · exact rostered.apart before also inside also_inside
      · exact absurd old (Nat.lt_irrefl _)
    · rcases split also others other with ⟨_, old⟩ | ⟨_, rfl⟩
      · exact absurd old (Nat.lt_irrefl _)
      · rfl
  case distinct =>
    intro m g known
    obtain ⟨f, before, _, listeners⟩ := at_m known
    have fresh : t.nextListener ∉ f.listeners := fun member =>
      absurd (rostered.old before member) (Nat.lt_irrefl _)
    rw [listeners]
    split
    · exact List.nodup_append.mpr ⟨rostered.distinct before, List.nodup_singleton _, by
        intro a member b new same
        rw [List.mem_singleton.mp new] at same
        exact fresh (same ▸ member)⟩
    · exact rostered.distinct before
  case present =>
    intro m g known current
    obtain ⟨f, before, status, listeners⟩ := at_m known
    rw [listeners]
    split
    · simp
    · exact rostered.present before (status ▸ current)

theorem openFor (rostered : t.Rostered) (service : ServiceKey) :
    (t.openFor service).after.Rostered := by
  have at_m {m : Nat} {g : Feed} (known : (t.openFor service).after.feed? m = some g) :
      (m = t.subscriptions.length ∧ g = ⟨service, true, [t.nextListener], none⟩) ∨
        t.feed? m = some g := by
    rw [feed?_openFor] at known
    split at known
    · next same =>
      cases known
      exact .inl ⟨same.symm, rfl⟩
    · exact .inr known
  have fresh {m : Nat} {g : Feed} (known : t.feed? m = some g) : t.nextListener ∉ g.listeners :=
    fun member => absurd (rostered.old known member) (Nat.lt_irrefl _)
  constructor
  case old =>
    intro m g listener known member
    rcases at_m known with ⟨_, rfl⟩ | before
    · rw [List.mem_singleton.mp member]
      exact Nat.lt_succ_self _
    · exact Nat.lt_succ_of_lt (rostered.old before member)
  case apart =>
    intro m k g h listener first second one other
    rcases at_m first with ⟨rfl, rfl⟩ | before
    · rcases at_m second with ⟨rfl, rfl⟩ | also
      · rfl
      · rw [List.mem_singleton.mp one] at other
        exact absurd other (fresh also)
    · rcases at_m second with ⟨rfl, rfl⟩ | also
      · rw [List.mem_singleton.mp other] at one
        exact absurd one (fresh before)
      · exact rostered.apart before also one other
  case distinct =>
    intro m g known
    rcases at_m known with ⟨_, rfl⟩ | before
    · exact List.nodup_singleton _
    · exact rostered.distinct before
  case present =>
    intro m g known current
    rcases at_m known with ⟨_, rfl⟩ | before
    · simp
    · exact rostered.present before current

end Rostered

theorem Change.rostered {e : Event} {turn : Turn Unit} (change : Change t e turn)
    (rostered : t.Rostered) : turn.after.Rostered := by
  have same {m : Nat} {g : Feed} (known : t.feed? m = some g) :
      ∃ f, t.feed? m = some f ∧ g.listeners.Sublist f.listeners ∧
        (g.isCurrent = true → g.listeners ≠ []) :=
    ⟨g, known, .refl _, rostered.present known⟩
  cases change with
  | still feeds next _ _ _ =>
    exact rostered.thinned next fun known => same (by rwa [← feeds])
  | @joined _ n s _ => exact rostered.join n s
  | opened _ => exact rostered.openFor _
  | @left service listener n s _ found _ feeds others next _ =>
    refine rostered.thinned next fun {m g} known => ?_
    rw [feeds, feed?_dismiss] at known
    split at known
    · next at_n =>
      subst at_n
      rw [feed?_of_current? found] at known
      cases known
      exact ⟨_, feed?_of_current? found, List.filter_sublist, fun _ => others⟩
    · exact same known
  | @removed service listener n s _ found _ feeds next _ =>
    refine rostered.thinned next fun {m g} known => ?_
    rw [feeds, feed?_remove, feed?_dismiss] at known
    split at known
    · next at_n =>
      subst at_n
      rw [feed?_of_current? found] at known
      simp only [Option.map_some, Option.some.injEq] at known
      subst known
      exact ⟨_, feed?_of_current? found, List.filter_sublist, by simp⟩
    · exact same known
  | @published e n s instances _ known current _ feeds next _ =>
    refine rostered.thinned next fun {m g} at_m => ?_
    rw [feeds, feed?_keep] at at_m
    split at at_m
    · next at_n =>
      obtain ⟨f, before, rfl⟩ := Option.map_eq_some_iff.mp at_m
      exact ⟨f, before, .refl _, rostered.present (f := f) before⟩
    · exact same at_m
  | closed feeds next _ _ =>
    refine rostered.thinned next fun {m g} known => ?_
    rcases feeds m with kept | gone
    · exact same (kept ▸ known)
    · rw [gone] at known
      obtain ⟨f, before, rfl⟩ := Option.map_eq_some_iff.mp known
      exact ⟨f, before, .refl _, by simp⟩

end Topology

end TrafficControl
