import Mathlib.Data.List.Induction
import TrafficControl.Naming.Discovery

namespace TrafficControl

inductive NamingExchange (α : Type u) where
  | register (service : ServiceKey) (listener : α) (answer : Except Failure Unit)
  | unregister (service : ServiceKey) (answer : Except Failure Unit)

/-- The discovery, and the entries that the naming service reports changes of. -/
structure NamingSession (α : Type u) where
  discovery : NamingDiscovery α
  held : List (NamingEntry α)

namespace NamingSession

variable {α : Type u} {s : NamingSession α} {x : NamingExchange α} {xs : List (NamingExchange α)}
  {e : NamingEntry α}

def empty : NamingSession α := ⟨.empty, []⟩

def turn (s : NamingSession α) : NamingExchange α → NamingTurn α
  | .register service listener answer => s.discovery.register service listener answer
  | .unregister service answer => s.discovery.unregister service answer

def accepting (s : NamingSession α) (x : NamingExchange α) (held : List (NamingEntry α)) :
    NamingCall → List (NamingEntry α)
  | .fetch _ => held
  | .subscribe _ =>
    match x with
    | .register service listener _ => held ++ [s.discovery.nextEntry service listener]
    | .unregister _ _ => held
  | .unsubscribe name number =>
    held.filter fun e => !(decide (e.service.service = name) && decide (e.number = number))

def next (s : NamingSession α) (x : NamingExchange α) : NamingSession α where
  discovery := (s.turn x).after
  held :=
    match (s.turn x).result with
    | .ok () => (s.turn x).calls.foldl (s.accepting x) s.held
    | .error _ => s.held

def run (xs : List (NamingExchange α)) : NamingSession α := xs.foldl next empty

theorem run_snoc : run (xs ++ [x]) = (run xs).next x := by
  simp only [run, List.foldl_append, List.foldl_cons, List.foldl_nil]

def RefusesCancel (s : NamingSession α) (x : NamingExchange α) : Prop :=
  ∃ name number f, .unsubscribe name number ∈ (s.turn x).calls ∧ (s.turn x).result = .error f

def Outstanding (xs : List (NamingExchange α)) (service : ServiceKey) : Prop :=
  ∃ before listener later, xs = before ++ .register service listener (.ok ()) :: later ∧
    ∀ answer, .unregister service answer ∉ later

def InTurn (xs : List (NamingExchange α)) : Prop :=
  ∀ before service listener answer later,
    xs = before ++ .register service listener answer :: later → ¬ Outstanding before service

inductive Ends (s : NamingSession α) : NamingExchange α → NamingSession α → Prop
  | accepted (service : ServiceKey) (listener : α) :
    Ends s (.register service listener (.ok ()))
      ⟨s.discovery.accept (s.discovery.nextEntry service listener),
        s.held ++ [s.discovery.nextEntry service listener]⟩
  | unaccepted (service : ServiceKey) (listener : α) (f : Failure) :
    Ends s (.register service listener (.error f)) s
  | unknown (service : ServiceKey) (answer : Except Failure Unit)
    (unknown : s.discovery.entry? service = none) : Ends s (.unregister service answer) s
  | cancelled (service : ServiceKey) (entry : NamingEntry α)
    (known : s.discovery.entry? service = some entry) :
    Ends s (.unregister service (.ok ()))
      ⟨s.discovery.forget service, s.held.filter fun e =>
        !(decide (e.service.service = service.service) && decide (e.number = entry.number))⟩
  | lost (service : ServiceKey) (entry : NamingEntry α) (f : Failure)
    (known : s.discovery.entry? service = some entry) :
    Ends s (.unregister service (.error f)) ⟨s.discovery.forget service, s.held⟩

theorem ends : s.Ends x (s.next x) := by
  cases x with
  | register service listener answer =>
    cases answer with
    | ok => exact .accepted service listener
    | error f => exact .unaccepted service listener f
  | unregister service answer =>
    cases known : s.discovery.entry? service with
    | none =>
      have same : s.next (.unregister service answer) = s := by
        simp only [next, turn, NamingDiscovery.unregister, known, List.foldl_nil]
      rw [same]
      exact .unknown service answer known
    | some entry =>
      cases answer with
      | ok =>
        have ending := Ends.cancelled service entry known
        simpa only [next, turn, NamingDiscovery.unregister, known, accepting, List.foldl_cons,
          List.foldl_nil] using ending
      | error f =>
        have ending := Ends.lost service entry f known
        simpa only [next, turn, NamingDiscovery.unregister, known] using ending

theorem refusesCancel_iff : s.RefusesCancel x ↔
    ∃ service entry f, x = .unregister service (.error f) ∧
      s.discovery.entry? service = some entry := by
  constructor
  · rintro ⟨name, number, f, asked, refused⟩
    cases x with
    | register service listener answer =>
      simp [turn, NamingDiscovery.register] at asked
    | unregister service answer =>
      cases known : s.discovery.entry? service with
      | none => simp [turn, NamingDiscovery.unregister, known] at asked
      | some entry =>
        have answered : answer = .error f := by
          simpa only [turn, NamingDiscovery.unregister, known] using refused
        exact ⟨service, entry, f, by rw [answered], known⟩
  · rintro ⟨service, entry, f, rfl, known⟩
    refine ⟨service.service, entry.number, f, ?_, ?_⟩
    · simp [turn, NamingDiscovery.unregister, known]
    · simp only [turn, NamingDiscovery.unregister, known]

end NamingSession

namespace NamingDiscovery

variable {α : Type u} {d : NamingDiscovery α} {service : ServiceKey} {e entry : NamingEntry α}

theorem mem_of_entry? (known : d.entry? service = some entry) :
    entry ∈ d.entries ∧ entry.service = service :=
  ⟨List.mem_of_find?_eq_some known, by simpa using List.find?_some known⟩

@[simp] theorem mem_forget :
    e ∈ (d.forget service).entries ↔ e ∈ d.entries ∧ e.service ≠ service := by
  simp [forget]

@[simp] theorem mem_accept :
    e ∈ (d.accept entry).entries ↔ e ∈ d.entries ∧ e.service ≠ entry.service ∨ e = entry := by
  simp [accept, forget]

theorem forget_eq_self (absent : ∀ e ∈ d.entries, e.service ≠ service) : d.forget service = d := by
  have all : d.entries.filter (fun e => decide (e.service ≠ service)) = d.entries :=
    List.filter_eq_self.mpr fun e member => decide_eq_true (absent e member)
  simp only [forget, all]

end NamingDiscovery

namespace NamingSession

variable {α : Type u} {s s' : NamingSession α} {x : NamingExchange α} {xs : List (NamingExchange α)}
  {e entry : NamingEntry α} {service : ServiceKey}

structure Tracked (s : NamingSession α) : Prop where
  kept_held : ∀ e ∈ s.discovery.entries, e ∈ s.held
  numbered : ∀ e ∈ s.held, e.number < s.discovery.accepted
  by_number : ∀ e ∈ s.held, ∀ e' ∈ s.held, e.number = e'.number → e = e'
  by_service : ∀ e ∈ s.discovery.entries, ∀ e' ∈ s.discovery.entries,
    e.service = e'.service → e = e'

theorem tracked_empty : (empty : NamingSession α).Tracked :=
  ⟨nofun, nofun, nofun, nofun⟩

theorem Tracked.cancels_iff (tracked : s.Tracked)
    (known : s.discovery.entry? service = some entry) (held : e ∈ s.held) :
    (!(decide (e.service.service = service.service) && decide (e.number = entry.number))) = true ↔
      e ≠ entry := by
  obtain ⟨kept, same⟩ := NamingDiscovery.mem_of_entry? known
  simp only [Bool.not_eq_true', Bool.and_eq_false_iff, decide_eq_false_iff_not]
  constructor
  · rintro (name | number) rfl
    · exact name (congrArg _ same)
    · exact number rfl
  · intro other
    exact .inr fun number =>
      other (tracked.by_number e held entry (tracked.kept_held entry kept) number)

theorem Tracked.forgotten_iff (tracked : s.Tracked)
    (known : s.discovery.entry? service = some entry) (kept : e ∈ s.discovery.entries) :
    e.service ≠ service ↔ e ≠ entry := by
  obtain ⟨member, same⟩ := NamingDiscovery.mem_of_entry? known
  constructor
  · rintro other rfl
    exact other same
  · intro other again
    exact other (tracked.by_service e kept entry member (again.trans same.symm))

theorem Ends.tracked (ending : s.Ends x s') (tracked : s.Tracked) : s'.Tracked := by
  cases ending with
  | accepted service listener =>
    have offered : ∀ e ∈ s.held, e.number ≠ s.discovery.accepted := fun e held =>
      Nat.ne_of_lt (tracked.numbered e held)
    constructor
    · intro e kept
      rcases NamingDiscovery.mem_accept.mp kept with ⟨kept, -⟩ | rfl
      · exact List.mem_append_left _ (tracked.kept_held e kept)
      · exact List.mem_append_right _ (List.mem_singleton.mpr rfl)
    · intro e held
      rcases List.mem_append.mp held with held | new
      · exact Nat.lt_succ_of_lt (tracked.numbered e held)
      · rw [List.mem_singleton.mp new]
        exact Nat.lt_succ_self _
    · intro e held e' held' number
      rcases List.mem_append.mp held with held | new <;>
        rcases List.mem_append.mp held' with held' | new'
      · exact tracked.by_number e held e' held' number
      · rw [List.mem_singleton.mp new'] at number
        exact absurd number (offered e held)
      · rw [List.mem_singleton.mp new] at number
        exact absurd number.symm (offered e' held')
      · rw [List.mem_singleton.mp new, List.mem_singleton.mp new']
    · intro e kept e' kept' same
      rcases NamingDiscovery.mem_accept.mp kept with ⟨kept, other⟩ | rfl <;>
        rcases NamingDiscovery.mem_accept.mp kept' with ⟨kept', other'⟩ | rfl
      · exact tracked.by_service e kept e' kept' same
      · exact absurd same other
      · exact absurd same.symm other'
      · rfl
  | unaccepted _ _ _ => exact tracked
  | unknown _ _ _ => exact tracked
  | cancelled service entry known =>
    constructor
    · intro e kept
      obtain ⟨kept, other⟩ := NamingDiscovery.mem_forget.mp kept
      have held := tracked.kept_held e kept
      have different := (tracked.forgotten_iff known kept).mp other
      exact List.mem_filter.mpr ⟨held, (tracked.cancels_iff known held).mpr different⟩
    · intro e held
      exact tracked.numbered e (List.mem_filter.mp held).1
    · intro e held e' held'
      exact tracked.by_number e (List.mem_filter.mp held).1 e' (List.mem_filter.mp held').1
    · intro e kept e' kept'
      exact tracked.by_service e (NamingDiscovery.mem_forget.mp kept).1 e'
        (NamingDiscovery.mem_forget.mp kept').1
  | lost service entry f known =>
    constructor
    · intro e kept
      exact tracked.kept_held e (NamingDiscovery.mem_forget.mp kept).1
    · exact tracked.numbered
    · exact tracked.by_number
    · intro e kept e' kept'
      exact tracked.by_service e (NamingDiscovery.mem_forget.mp kept).1 e'
        (NamingDiscovery.mem_forget.mp kept').1

theorem tracked_run (xs : List (NamingExchange α)) : (run xs).Tracked := by
  induction xs using List.reverseRecOn with
  | nil => exact tracked_empty
  | append_singleton xs x ih =>
    rw [run_snoc]
    exact ends.tracked ih

/-- An entry that is held, with nothing kept here to cancel it by. -/
def Lost (s : NamingSession α) (e : NamingEntry α) : Prop :=
  e ∈ s.held ∧ e ∉ s.discovery.entries

theorem RefusesCancel.loses (refuses : s.RefusesCancel x) (tracked : s.Tracked) :
    ∃ e ∈ s.discovery.entries, (s.next x).Lost e := by
  obtain ⟨service, entry, f, rfl, known⟩ := refusesCancel_iff.mp refuses
  obtain ⟨kept, same⟩ := NamingDiscovery.mem_of_entry? known
  have after : s.next (.unregister service (.error f)) = ⟨s.discovery.forget service, s.held⟩ := by
    simp only [next, turn, NamingDiscovery.unregister, known]
  rw [after]
  exact ⟨entry, kept, tracked.kept_held entry kept, fun still =>
    (NamingDiscovery.mem_forget.mp still).2 same⟩

theorem Ends.lost_stays (ending : s.Ends x s') (tracked : s.Tracked) (lost : s.Lost e) :
    s'.Lost e := by
  obtain ⟨held, gone⟩ := lost
  cases ending with
  | accepted service listener =>
    refine ⟨List.mem_append_left _ held, fun kept => ?_⟩
    rcases NamingDiscovery.mem_accept.mp kept with ⟨kept, -⟩ | rfl
    · exact gone kept
    · exact Nat.lt_irrefl _ (tracked.numbered _ held)
  | unaccepted _ _ _ => exact ⟨held, gone⟩
  | unknown _ _ _ => exact ⟨held, gone⟩
  | cancelled service entry known =>
    have other : e ≠ entry := by
      rintro rfl
      exact gone (NamingDiscovery.mem_of_entry? known).1
    exact ⟨List.mem_filter.mpr ⟨held, (tracked.cancels_iff known held).mpr other⟩,
      fun kept => gone (NamingDiscovery.mem_forget.mp kept).1⟩
  | lost service entry f known =>
    exact ⟨held, fun kept => gone (NamingDiscovery.mem_forget.mp kept).1⟩

theorem Lost.stays (lost : (run xs).Lost e) (later : List (NamingExchange α)) :
    (run (xs ++ later)).Lost e := by
  induction later using List.reverseRecOn with
  | nil => rwa [List.append_nil]
  | append_singleton later x ih =>
    rw [← List.append_assoc, run_snoc]
    exact ends.lost_stays (tracked_run _) ih

theorem outstanding_registered {listener : α} :
    Outstanding (xs ++ [.register service listener (.ok ())]) service :=
  ⟨xs, listener, [], rfl, fun _ => List.not_mem_nil⟩

theorem Outstanding.snoc (outstanding : Outstanding xs service)
    (other : ∀ answer, x ≠ .unregister service answer) : Outstanding (xs ++ [x]) service := by
  obtain ⟨before, listener, later, rfl, uncancelled⟩ := outstanding
  refine ⟨before, listener, later ++ [x], by simp, fun answer cancelled => ?_⟩
  rcases List.mem_append.mp cancelled with earlier | last
  · exact uncancelled answer earlier
  · exact other answer (List.mem_singleton.mp last).symm

theorem outstanding_of_kept (kept : e ∈ (run xs).discovery.entries) :
    Outstanding xs e.service := by
  induction xs using List.reverseRecOn with
  | nil => exact absurd kept List.not_mem_nil
  | append_singleton xs x ih =>
    rw [run_snoc] at kept
    have ending : (run xs).Ends x ((run xs).next x) := ends
    generalize (run xs).next x = s' at ending kept
    cases ending with
    | accepted service listener =>
      rcases NamingDiscovery.mem_accept.mp kept with ⟨kept, -⟩ | rfl
      · exact (ih kept).snoc fun _ => nofun
      · exact outstanding_registered
    | unaccepted _ _ _ => exact (ih kept).snoc fun _ => nofun
    | unknown service answer unknown =>
      have other : e.service ≠ service := by
        simpa using List.find?_eq_none.mp unknown e kept
      exact (ih kept).snoc (by rintro _ ⟨⟩; exact other rfl)
    | cancelled service entry known =>
      obtain ⟨kept, other⟩ := NamingDiscovery.mem_forget.mp kept
      exact (ih kept).snoc (by rintro _ ⟨⟩; exact other rfl)
    | lost service entry f known =>
      obtain ⟨kept, other⟩ := NamingDiscovery.mem_forget.mp kept
      exact (ih kept).snoc (by rintro _ ⟨⟩; exact other rfl)

theorem InTurn.left {later : List (NamingExchange α)} (inTurn : InTurn (xs ++ later)) :
    InTurn xs := by
  rintro before service listener answer after rfl
  exact inTurn before service listener answer (after ++ later) (by simp)

theorem InTurn.accept_eq {listener : α} {answer : Except Failure Unit}
    (inTurn : InTurn (xs ++ [.register service listener answer])) :
    ((run xs).discovery.accept ((run xs).discovery.nextEntry service listener)).entries =
      (run xs).discovery.entries ++ [(run xs).discovery.nextEntry service listener] := by
  have absent : ∀ e ∈ (run xs).discovery.entries, e.service ≠ service := by
    rintro e kept rfl
    exact inTurn xs e.service listener answer [] rfl (outstanding_of_kept kept)
  simp only [NamingDiscovery.accept]
  rw [show ((run xs).discovery.nextEntry service listener).service = service from rfl,
    NamingDiscovery.forget_eq_self absent]

theorem Tracked.cancelled_eq (tracked : s.Tracked) (known : s.discovery.entry? service = some entry)
    (same : s.discovery.entries = s.held) :
    (s.discovery.forget service).entries = s.held.filter fun e =>
      !(decide (e.service.service = service.service) && decide (e.number = entry.number)) := by
  rw [← same]
  refine List.filter_congr fun e kept => ?_
  rw [Bool.eq_iff_iff, decide_eq_true_eq, tracked.forgotten_iff known kept,
    tracked.cancels_iff known (tracked.kept_held e kept)]

theorem kept_eq_held (inTurn : InTurn xs)
    (answered : ∀ before x later, xs = before ++ x :: later → ¬ (run before).RefusesCancel x) :
    (run xs).discovery.entries = (run xs).held := by
  induction xs using List.reverseRecOn with
  | nil => rfl
  | append_singleton xs x ih =>
    have same := ih inTurn.left fun before y later whole =>
      answered before y (later ++ [x]) (by simp [whole])
    have unrefused := answered xs x [] rfl
    rw [run_snoc]
    have ending : (run xs).Ends x ((run xs).next x) := ends
    generalize (run xs).next x = s' at ending
    cases ending with
    | accepted service listener => rw [inTurn.accept_eq, same]
    | unaccepted _ _ _ => exact same
    | unknown _ _ _ => exact same
    | cancelled service entry known => exact (tracked_run xs).cancelled_eq known same
    | lost service entry f known =>
      exact absurd (refusesCancel_iff.mpr ⟨service, entry, f, rfl, known⟩) unrefused

theorem Tracked.next_eq_self_iff {f : Failure} (tracked : s.Tracked)
    (failed : (s.turn x).result = .error f) : s.next x = s ↔ ¬ s.RefusesCancel x := by
  constructor
  · intro same refuses
    obtain ⟨e, kept, lost⟩ := refuses.loses tracked
    rw [same] at lost
    exact lost.2 kept
  · intro unrefused
    have ending : s.Ends x (s.next x) := ends
    generalize s.next x = s' at ending
    cases ending with
    | accepted service listener => cases failed
    | unaccepted _ _ _ => rfl
    | unknown _ _ _ => rfl
    | cancelled service entry known =>
      simp [turn, NamingDiscovery.unregister, known] at failed
    | lost service entry f known =>
      exact absurd (refusesCancel_iff.mpr ⟨service, entry, f, rfl, known⟩) unrefused

/-- As long as services are registered in turn, the entries kept here are those that the naming
service holds, exactly if it never refused to cancel one. A call that fails changes nothing, exactly
if it is not such a refusal. -/
theorem kept_eq_held_iff (xs : List (NamingExchange α)) (inTurn : InTurn xs) :
    ((run xs).discovery.entries = (run xs).held ↔
        ∀ before x later, xs = before ++ x :: later → ¬ (run before).RefusesCancel x) ∧
      ∀ before x later, xs = before ++ x :: later →
        ∀ f, ((run before).turn x).result = .error f →
          (run (before ++ [x]) = run before ↔ ¬ (run before).RefusesCancel x) := by
  refine ⟨⟨?_, kept_eq_held inTurn⟩, ?_⟩
  · rintro same before x later rfl refuses
    obtain ⟨e, -, lost⟩ := refuses.loses (tracked_run before)
    rw [← run_snoc] at lost
    obtain ⟨held, gone⟩ := lost.stays later
    rw [List.append_assoc, List.singleton_append] at held gone
    exact gone (same ▸ held)
  · rintro before x later - f failed
    rw [run_snoc]
    exact (tracked_run before).next_eq_self_iff failed

def orders : ServiceKey := ⟨"ns", "orders"⟩

def refusal : Failure := .other "get result failed: unsubscribe refused"

def reregistered : List (NamingExchange String) :=
  [.register orders "a" (.error refusal), .register orders "a" (.ok ()), .unregister orders (.ok ()),
    .register orders "b" (.ok ())]

theorem inTurn_reregistered : InTurn reregistered := by
  rintro before service listener answer later whole ⟨first, other, rest, rfl, uncancelled⟩
  rcases first with _ | ⟨_, _ | ⟨_, _ | ⟨_, _ | ⟨_, first⟩⟩⟩⟩ <;>
    rcases rest with _ | ⟨_, _ | ⟨_, _ | ⟨_, rest⟩⟩⟩ <;>
    simp [reregistered] at whole
  obtain ⟨-, ⟨rfl, -⟩, rfl, -⟩ := whole
  exact uncancelled (.ok ()) List.mem_cons_self

theorem kept_eq_held_iff_reregistered :
    InTurn reregistered ∧
      (run reregistered).discovery.entries = [⟨1, orders, "b"⟩] ∧
      ((run reregistered).discovery.entries = (run reregistered).held ↔
        ∀ before x later, reregistered = before ++ x :: later →
          ¬ (run before).RefusesCancel x) ∧
      ∀ before x later, reregistered = before ++ x :: later →
        ∀ f, ((run before).turn x).result = .error f →
          (run (before ++ [x]) = run before ↔ ¬ (run before).RefusesCancel x) :=
  ⟨inTurn_reregistered, by decide, kept_eq_held_iff reregistered inTurn_reregistered⟩

/-- The entry of a refused cancellation is gone here and still held there, and the next cancellation
succeeds without a call. -/
theorem refused_cancellation_loses_entry :
    let xs : List (NamingExchange String) :=
      [.register orders "a" (.ok ()), .unregister orders (.error refusal)]
    InTurn xs ∧ ((run xs.dropLast).turn (.unregister orders (.error refusal))).result.isOk = false ∧
      (run xs).discovery.entries = [] ∧ (run xs).held = [⟨0, orders, "a"⟩] ∧
      ((run xs).turn (.unregister orders (.ok ()))).calls = [] ∧
      ((run xs).turn (.unregister orders (.ok ()))).result.isOk = true := by
  intro xs
  refine ⟨?_, rfl, by decide, by decide, by decide, by decide⟩
  rintro before service listener answer later whole ⟨first, other, rest, rfl, uncancelled⟩
  rcases first with _ | ⟨_, _ | ⟨_, first⟩⟩ <;> rcases rest with _ | ⟨_, _ | ⟨_, rest⟩⟩ <;>
    simp [xs] at whole

end NamingSession

end TrafficControl
