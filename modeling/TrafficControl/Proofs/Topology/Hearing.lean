import TrafficControl.Proofs.Topology.Coherent

namespace TrafficControl

theorem heard_delivered {listeners : List Nat} (distinct : listeners.Nodup) (service : ServiceKey)
    (instances : Instances) (listener : Nat) :
    heard listener (listeners.map fun l => .delivered l service instances) =
      if listener ∈ listeners then [instances] else [] := by
  induction listeners with
  | nil => rfl
  | cons first rest ih =>
    obtain ⟨fresh, distinct⟩ := List.nodup_cons.mp distinct
    have later := ih distinct
    simp only [heard] at later
    simp only [List.map_cons, heard, List.filterMap_cons, Happening.heard?]
    by_cases same : first = listener
    · subst same
      simp [later, fresh]
    · simp [later, same, Ne.symm same]

namespace Topology

variable {t : Topology} {n listener : Nat}

def hears (t : Topology) (n listener : Nat) : Bool :=
  t.subscriptions[n]?.any fun s => s.isCurrent && s.listeners.contains listener

/-- An event takes a listener off the service that it listens to. -/
def Releases (t : Topology) (e : Event) (listener : Nat) : Prop :=
  ∃ service, e = .unsubscribe service listener ∧ (t.unsubscribe service listener).result = true

theorem hears_iff :
    t.hears n listener = true ↔
      ∃ f, t.feed? n = some f ∧ f.isCurrent = true ∧ listener ∈ f.listeners := by
  simp only [hears, feed?, Option.any_eq_true, Option.map_eq_some_iff, Bool.and_eq_true,
    List.contains_eq_mem, decide_eq_true_eq]
  constructor
  · rintro ⟨s, known, current, member⟩
    exact ⟨s.feed, ⟨s, known, rfl⟩, current, member⟩
  · rintro ⟨_, ⟨s, known, rfl⟩, current, member⟩
    exact ⟨s, known, current, member⟩

theorem unsubscribe_result {service : ServiceKey} :
    (t.unsubscribe service listener).result = true ↔
      ∃ n s, t.current? service = some (n, s) ∧ listener ∈ s.listeners := by
  unfold unsubscribe
  cases found : t.current? service with
  | none => simp [quietly]
  | some pair =>
    obtain ⟨n, s⟩ := pair
    by_cases member : listener ∈ s.listeners
    · simp only [member, if_true]
      constructor
      · exact fun _ => ⟨n, s, rfl, member⟩
      · intro _
        split
        · split <;> rfl
        · rfl
    · simp only [member, if_false, quietly]
      constructor
      · intro impossible
        cases impossible
      · rintro ⟨m, r, same, inside⟩
        cases same
        exact absurd inside member

structure Settled (t : Topology) (n listener : Nat) : Prop where
  known : (t.feed? n).isSome = true
  old : listener < t.nextListener
  own : ∀ {m f}, t.feed? m = some f → listener ∈ f.listeners → m = n

theorem Rostered.settled (rostered : t.Rostered) {f : Feed} (known : t.feed? n = some f)
    (member : listener ∈ f.listeners) : t.Settled n listener where
  known := by simp [known]
  old := rostered.old known member
  own also inside := rostered.apart also known inside member

section Steps

variable {e : Event} {turn : Turn Unit}

theorem Change.nextListener_le (change : Change t e turn) : t.nextListener ≤ turn.after.nextListener := by
  cases change with
  | still _ next _ _ _ => exact Nat.le_of_eq next.symm
  | joined _ => exact Nat.le_succ _
  | opened _ => exact Nat.le_succ _
  | left _ _ _ _ next _ => exact Nat.le_of_eq next.symm
  | removed _ _ _ next _ => exact Nat.le_of_eq next.symm
  | published _ _ _ _ next _ => exact Nat.le_of_eq next.symm
  | closed _ next _ _ => exact Nat.le_of_eq next.symm

theorem Change.newcomer (change : Change t e turn) {g : Feed} (after : turn.after.feed? n = some g)
    (before : t.feed? n = none) : g.listeners = [t.nextListener] := by
  cases change with
  | still feeds _ _ _ _ =>
    rw [feeds, before] at after
    cases after
  | joined _ =>
    simp only [Turn.forget, feed?_join, before] at after
    split at after <;> cases after
  | opened _ =>
    simp only [Turn.forget, feed?_openFor, before] at after
    split at after
    · cases after
      rfl
    · cases after
  | left _ _ feeds _ _ _ =>
    rw [feeds, feed?_dismiss, before] at after
    split at after <;> cases after
  | removed _ _ feeds _ _ =>
    rw [feeds, feed?_remove, feed?_dismiss, before] at after
    split at after <;> cases after
  | published _ _ _ feeds _ _ =>
    rw [feeds, feed?_keep, before] at after
    split at after <;> cases after
  | closed feeds _ _ _ =>
    rcases feeds n with same | gone
    · rw [same, before] at after
      cases after
    · rw [gone, before] at after
      cases after

theorem Change.settled (change : Change t e turn) (settled : t.Settled n listener) :
    turn.after.Settled n listener where
  known := by
    obtain ⟨f, before⟩ := Option.isSome_iff_exists.mp settled.known
    obtain ⟨g, after, _⟩ := change.evolves before
    simp [after]
  old := Nat.lt_of_lt_of_le settled.old change.nextListener_le
  own := by
    intro m g after member
    have older : listener ≠ t.nextListener := Nat.ne_of_lt settled.old
    cases before : t.feed? m with
    | none =>
      rw [change.newcomer after before] at member
      exact absurd (List.mem_singleton.mp member) older
    | some f =>
      obtain ⟨h, also, _, _, _, listeners⟩ := change.evolves before
      rw [after] at also
      cases also
      exact settled.own before ((listeners listener member).resolve_right older)

theorem Change.heard_eq (change : Change t e turn) (rostered : t.Rostered)
    (settled : t.Settled n listener) :
    heard listener turn.happenings =
      if t.hears n listener = true then (t.published? e n).toList else [] := by
  have nothing (unpublished : t.published? e n = none) (silent : heard listener turn.happenings = []) :
      heard listener turn.happenings =
        if t.hears n listener = true then (t.published? e n).toList else [] := by
    rw [silent, unpublished]
    split <;> rfl
  cases change with
  | still _ _ silent fruitless _ => exact nothing (fruitless n) (silent listener)
  | @joined service m s _ =>
    refine nothing rfl ?_
    have older : t.nextListener ≠ listener := Ne.symm (Nat.ne_of_lt settled.old)
    simp only [Turn.forget, Topology.join]
    cases s.snapshot? <;> simp [heard, Happening.heard?, older]
  | opened _ => exact nothing rfl rfl
  | left _ _ _ _ _ silent => exact nothing rfl (by rw [silent]; rfl)
  | removed _ _ _ _ silent => exact nothing rfl (by rw [silent]; rfl)
  | @published _ m s instances _ known current brought _ _ told =>
    have at_m := feed?_of_known known
    have distinct : s.listeners.Nodup := rostered.distinct at_m
    rw [told, heard_delivered distinct, published?_of_brought brought]
    -- Whoever is on the list that is published to listens to nothing else.
    by_cases member : listener ∈ s.listeners
    · have same : m = n := settled.own at_m member
      subst same
      have alive : t.isCurrent m = true := by simp [isCurrent, known, current]
      have hearing : t.hears m listener = true := hears_iff.mpr ⟨_, at_m, current, member⟩
      simp [member, alive, hearing]
    · rw [if_neg member]
      by_cases hearing : t.hears n listener = true
      · obtain ⟨f, at_n, _, inside⟩ := hears_iff.mp hearing
        have different : m ≠ n := by
          rintro rfl
          rw [at_m] at at_n
          cases at_n
          exact member inside
        simp [hearing, different]
      · simp [hearing]
  | closed _ _ silent closes =>
    exact nothing (published?_of_nothing (brought?_of_closes closes) n) (silent listener)

theorem Change.released (change : Change t e turn) (rostered : t.Rostered)
    (releases : t.Releases e listener) {g : Feed} (after : turn.after.feed? n = some g) :
    listener ∉ g.listeners := by
  obtain ⟨service, rfl, result⟩ := releases
  obtain ⟨m, s, found, member⟩ := unsubscribe_result.mp result
  have at_m := feed?_of_current? found
  -- The listener was on this list only, and has been taken off it.
  have gone {u : Topology} {k : Nat} {f : Feed} (feeds : u.feed? = (t.dismiss k listener).feed?)
      (held : t.feed? k = some f) (inside : listener ∈ f.listeners) (at_n : u.feed? n = some g) :
      listener ∉ g.listeners := by
    rw [feeds, feed?_dismiss] at at_n
    split at at_n
    · obtain ⟨h, _, rfl⟩ := Option.map_eq_some_iff.mp at_n
      simp
    · next different => exact fun also => different (rostered.apart held at_n inside also)
  cases change with
  | still _ _ _ _ stays => exact absurd member (stays service listener rfl m s found)
  | left found _ feeds _ _ _ =>
    exact gone feeds (feed?_of_current? found) ‹_› after
  | @removed _ _ k r _ also inside feeds _ _ =>
    rw [feeds, feed?_remove] at after
    split at after
    · obtain ⟨h, dismissed, rfl⟩ := Option.map_eq_some_iff.mp after
      next at_k =>
        subst at_k
        rw [feed?_dismiss, if_pos rfl] at dismissed
        obtain ⟨f, _, rfl⟩ := Option.map_eq_some_iff.mp dismissed
        simp
    · exact gone rfl (feed?_of_current? also) inside after
  | published _ _ brought _ _ _ => cases brought
  | closed _ _ _ closes => cases closes

theorem Change.remains (change : Change t e turn) {f g : Feed} (before : t.feed? n = some f)
    (after : turn.after.feed? n = some g) (member : listener ∈ f.listeners)
    (kept : ¬t.Releases e listener) : listener ∈ g.listeners := by
  cases change with
  | still feeds _ _ _ _ =>
    rw [feeds, before] at after
    cases after
    exact member
  | joined _ =>
    simp only [Turn.forget, feed?_join, before] at after
    split at after
    · cases after
      exact List.mem_append_left _ member
    · cases after
      exact member
  | opened _ =>
    simp only [Turn.forget, feed?_openFor, before] at after
    split at after
    · next same =>
      rw [← same, feed?_length] at before
      cases before
    · cases after
      exact member
  | @left service l m s _ found inside feeds _ _ _ =>
    have different : listener ≠ l := by
      rintro rfl
      exact kept ⟨service, rfl, unsubscribe_result.mpr ⟨m, s, found, inside⟩⟩
    rw [feeds, feed?_dismiss, before] at after
    split at after
    · cases after
      simp [member, different]
    · cases after
      exact member
  | @removed service l m s _ found inside feeds _ _ =>
    have different : listener ≠ l := by
      rintro rfl
      exact kept ⟨service, rfl, unsubscribe_result.mpr ⟨m, s, found, inside⟩⟩
    rw [feeds, feed?_remove, feed?_dismiss, before] at after
    split at after
    · cases after
      simp [member, different]
    · cases after
      exact member
  | published _ _ _ feeds _ _ =>
    rw [feeds, feed?_keep, before] at after
    split at after
    · cases after
      exact member
    · cases after
      exact member
  | closed feeds _ _ _ =>
    rcases feeds n with same | gone
    · rw [same, before] at after
      cases after
      exact member
    · rw [gone, before] at after
      cases after
      exact member

theorem Change.hears_after (change : Change t e turn) (rostered : t.Rostered)
    (settled : t.Settled n listener) :
    turn.after.hears n listener = true ↔
      t.hears n listener = true ∧ turn.after.isCurrent n = true ∧ ¬t.Releases e listener := by
  constructor
  · intro hearing
    obtain ⟨g, after, current, member⟩ := hears_iff.mp hearing
    obtain ⟨f, before⟩ := Option.isSome_iff_exists.mp settled.known
    obtain ⟨h, also, alive, _, _, listeners⟩ := change.evolves before
    rw [after] at also
    cases also
    have inside := (listeners listener member).resolve_right (Nat.ne_of_lt settled.old)
    refine ⟨hears_iff.mpr ⟨f, before, alive current, inside⟩, ?_, ?_⟩
    · simp [isCurrent_eq, after, current]
    · exact fun releases => change.released rostered releases after member
  · rintro ⟨hearing, alive, kept⟩
    obtain ⟨f, before, _, member⟩ := hears_iff.mp hearing
    obtain ⟨g, after, _⟩ := change.evolves before
    have current : g.isCurrent = true := by simpa [isCurrent_eq, after] using alive
    exact hears_iff.mpr ⟨g, after, current, change.remains before after member kept⟩

theorem Change.welcomed (change : Change t e turn) (rostered : t.Rostered) {g : Feed}
    (after : turn.after.feed? n = some g) (member : t.nextListener ∈ g.listeners) :
    heard t.nextListener turn.happenings = g.snapshot?.toList := by
  have old := (change.rostered rostered).old after member
  have nobody (next : turn.after.nextListener = t.nextListener) :
      heard t.nextListener turn.happenings = g.snapshot?.toList := by
    rw [next] at old
    exact absurd old (Nat.lt_irrefl _)
  have absent {m : Nat} (before : t.feed? m = some g) : False :=
    absurd (rostered.old before member) (Nat.lt_irrefl _)
  cases change with
  | still _ next _ _ _ => exact nobody next
  | @joined service m s found =>
    simp only [Turn.forget, feed?_join] at after
    split at after
    · next at_n =>
      rw [← at_n, feed?_of_current? found] at after
      cases after
      simp only [Turn.forget, Topology.join, Subscription.feed]
      cases s.snapshot? <;> simp [heard, Happening.heard?]
    · exact (absent after).elim
  | opened _ =>
    simp only [Turn.forget, feed?_openFor] at after
    split at after
    · cases after
      rfl
    · exact (absent after).elim
  | left _ _ _ _ next _ => exact nobody next
  | removed _ _ _ next _ => exact nobody next
  | published _ _ _ _ next _ => exact nobody next
  | closed _ next _ _ => exact nobody next

theorem Change.unheard (change : Change t e turn) (rostered : t.Rostered)
    (later : turn.after.nextListener ≤ listener) : heard listener turn.happenings = [] := by
  cases change with
  | still _ _ silent _ _ => exact silent listener
  | @joined service m s _ =>
    have earlier : t.nextListener ≠ listener := Nat.ne_of_lt later
    simp only [Turn.forget, Topology.join]
    cases s.snapshot? <;> simp [heard, Happening.heard?, earlier]
  | opened _ => rfl
  | left _ _ _ _ _ silent => rw [silent, heard_nil]
  | removed _ _ _ _ silent => rw [silent, heard_nil]
  | @published _ m s _ _ known _ _ _ next told =>
    have at_m := feed?_of_known known
    have outside : listener ∉ s.listeners := fun member =>
      absurd (Nat.lt_of_lt_of_le (rostered.old at_m member) (next ▸ later)) (Nat.lt_irrefl _)
    have distinct : s.listeners.Nodup := rostered.distinct at_m
    rw [told, heard_delivered distinct, if_neg outside]
  | closed _ _ silent _ => exact silent listener

theorem Change.heard_member (change : Change t e turn) (rostered : t.Rostered) {f : Feed}
    (known : t.feed? n = some f) (member : listener ∈ f.listeners) :
    heard listener turn.happenings = (t.published? e n).toList := by
  rw [change.heard_eq rostered (rostered.settled known member)]
  cases current : f.isCurrent with
  | true => exact if_pos (hears_iff.mpr ⟨f, known, current, member⟩)
  | false =>
    have nothing : t.published? e n = none := by
      apply Option.eq_none_iff_forall_ne_some.mpr
      intro x published
      have alive := (published?_eq_some.mp published).2
      simp [isCurrent_eq, known, current] at alive
    rw [nothing]
    split <;> rfl

theorem Change.heard_after (change : Change t e turn) (rostered : t.Rostered) {g : Feed}
    (after : turn.after.feed? n = some g) (member : listener ∈ g.listeners) :
    (listener = t.nextListener ∧ heard listener turn.happenings = g.snapshot?.toList) ∨
      ∃ f, t.feed? n = some f ∧ listener ∈ f.listeners ∧
        heard listener turn.happenings = (t.published? e n).toList ∧
        g.snapshot? = (t.published? e n).or f.snapshot? := by
  cases before : t.feed? n with
  | none =>
    have newcomer := member
    rw [change.newcomer after before] at newcomer
    have new := List.mem_singleton.mp newcomer
    subst new
    exact .inl ⟨rfl, change.welcomed rostered after member⟩
  | some f =>
    obtain ⟨h, also, _, _, snapshot, listeners⟩ := change.evolves before
    rw [after] at also
    cases also
    rcases listeners listener member with inside | rfl
    · exact .inr ⟨f, rfl, inside, change.heard_member rostered before inside, snapshot⟩
    · exact .inl ⟨rfl, change.welcomed rostered after member⟩

theorem Change.delivered (change : Change t e turn) (rostered : t.Rostered) {key : ServiceKey}
    {instances : Instances} {g : Feed} (delivered : .delivered listener key instances ∈ turn.happenings)
    (after : turn.after.feed? n = some g) (member : listener ∈ g.listeners) :
    g.snapshot? = some instances := by
  have told := mem_heard delivered
  rcases change.heard_after rostered after member with ⟨_, heard⟩ | ⟨f, _, _, heard, snapshot⟩
  · rw [heard] at told
    exact Option.mem_toList.mp told
  · rw [heard] at told
    rw [snapshot, Option.mem_toList.mp told, Option.some_or]

theorem Change.undisturbed (change : Change t e turn) (rostered : t.Rostered)
    (nothing : t.published? e n = none) {f : Feed} (known : t.feed? n = some f) :
    (∃ g, turn.after.feed? n = some g ∧ g.snapshot? = f.snapshot?) ∧
      ∀ listener ∈ f.listeners, heard listener turn.happenings = [] := by
  obtain ⟨g, after, _, _, snapshot, _⟩ := change.evolves known
  rw [nothing, Option.none_or] at snapshot
  refine ⟨⟨g, after, snapshot⟩, fun listener member => ?_⟩
  rw [change.heard_member rostered known member, nothing, Option.toList_none]

theorem Change.fruitless (change : Change t e turn) {caller : Caller}
    (answer : e.answer? = some (caller, none)) :
    turn.after.feed? = t.feed? ∧ ∀ listener, heard listener turn.happenings = [] := by
  cases change with
  | still feeds _ silent _ _ => exact ⟨feeds, silent⟩
  | joined _ => cases answer
  | opened _ => cases answer
  | left _ _ _ _ _ _ => cases answer
  | removed _ _ _ _ _ => cases answer
  | published _ _ brought _ _ _ =>
    obtain ⟨_, _, also⟩ := calling_of_brought? brought
    rw [answer] at also
    cases also
  | closed _ _ _ closes =>
    cases e with
    | close _ | closeReturned _ | drained _ => cases answer
    | _ => cases closes

end Steps

end Topology

end TrafficControl
