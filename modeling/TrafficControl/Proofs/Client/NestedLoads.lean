import Mathlib.Data.List.Induction
import TrafficControl.Proofs.Client.Sharing

namespace TrafficControl.Registry

/-- A factory, step by step. It uses the registry, goes on from what it was told, and in the end
makes a client or fails. -/
inductive Plan where
  | make
  | fail (f : Failure)
  | get (config : Config) (next : Option Nat → Plan)
  | size (next : Nat → Plan)
  | load (config : Config) (factory : Plan) (next : Except Failure Nat → Plan)

inductive Command where
  | load (config : Config) (factory : Plan)
  | get (config : Config)
  | size
  | remove (config : Config)
  | destroyAll

/-- What is done with the registry. A load that calls its factory begins before and ends after what
the factory does. -/
inductive Deed where
  | counted (size : Nat)
  | got (config : Config) (client? : Option Nat)
  | found (config : Config) (result : Except Failure Nat)
  | began (config : Config)
  | ended (config : Config) (built result : Except Failure Nat)
  | removed (config : Config) (wasStored : Bool)
  | cleared

structure Record where
  before : Registry Nat
  deed : Deed
  after : Registry Nat

structure Course where
  result : Except Failure Nat
  registry : Registry Nat
  made : Nat
  log : List Record

def Course.toFactory (factory : Registry Nat → Course) : Factory Nat := fun r =>
  ((factory r).result, (factory r).registry)

def Course.ofLoad (config : Config) (factory : Registry Nat → Course) (made : Nat)
    (r : Registry Nat) : Course :=
  let (result, after) := r.loadOrStore config (Course.toFactory factory)
  match r.get? config with
  | some _ => ⟨result, after, made, [⟨r, .found config result, after⟩]⟩
  | none =>
    let inner := factory r
    ⟨result, after, inner.made, ⟨r, .began config, r⟩ ::
      (inner.log ++ [⟨inner.registry, .ended config inner.result result, after⟩])⟩

def Plan.run : Plan → Nat → Registry Nat → Course
  | .make, made, r => ⟨.ok made, r, made + 1, []⟩
  | .fail f, made, r => ⟨.error f, r, made, []⟩
  | .get config next, made, r =>
    let rest := (next (r.get? config)).run made r
    { rest with log := ⟨r, .got config (r.get? config), r⟩ :: rest.log }
  | .size next, made, r =>
    let rest := (next r.size).run made r
    { rest with log := ⟨r, .counted r.size, r⟩ :: rest.log }
  | .load config factory next, made, r =>
    let load := Course.ofLoad config (fun r => factory.run made r) made r
    let rest := (next load.result).run load.made load.registry
    { rest with log := load.log ++ rest.log }

structure Session where
  registry : Registry Nat
  made : Nat
  log : List Record

namespace Session

def empty : Session := ⟨.empty, 0, []⟩

def note (s : Session) (deed : Deed) (after : Registry Nat) : Session :=
  { s with registry := after, log := s.log ++ [⟨s.registry, deed, after⟩] }

def step (s : Session) : Command → Session
  | .load config factory =>
    let load := Course.ofLoad config (factory.run s.made) s.made s.registry
    ⟨load.registry, load.made, s.log ++ load.log⟩
  | .get config => s.note (.got config (s.registry.get? config)) s.registry
  | .size => s.note (.counted s.registry.size) s.registry
  | .remove config =>
    let (found, after) := s.registry.remove config
    s.note (.removed config found) after
  | .destroyAll => s.note .cleared s.registry.destroyAll

def run (commands : List Command) : Session := commands.foldl step empty

end Session

structure Lacks (r : Registry Nat) (client : Nat) : Prop where
  unstored : ¬ r.Holds client
  undestroyed : client ∉ r.destroyed

def SameBut (key : String) (before after : Registry Nat) : Prop :=
  ∀ other, other ≠ key → after.stored.get? other = before.stored.get? other

def Deed.Exact (before after : Registry Nat) : Deed → Prop
  | .counted size => after = before ∧ size = before.stored.keys.length
  | .got config client? => after = before ∧ client? = before.stored.get? config.clientKey
  | .found config result =>
    after = before ∧ ∃ client, before.stored.get? config.clientKey = some client ∧
      result = .ok client ∧ ∀ factory, before.loadOrStore config factory = (result, before)
  | .began config =>
    after = before ∧ before.stored.get? config.clientKey = none ∧
      ∀ factory f, (factory before).1 = .error f → (before.loadOrStore config factory).1 = .error f
  | .ended _ (.error f) result => after = before ∧ result = .error f
  | .ended config (.ok built) result =>
    before.Lacks built ∧ after.destroyed = before.destroyed ∧
      SameBut config.clientKey before after ∧
      ∃ client, result = .ok client ∧ after.stored.get? config.clientKey = some client ∧
        client = (before.stored.get? config.clientKey).getD built
  | .removed config wasStored =>
    wasStored = (before.stored.get? config.clientKey).isSome ∧
      after.stored.get? config.clientKey = none ∧ SameBut config.clientKey before after ∧
      after.destroyed = before.destroyed ++ (before.stored.get? config.clientKey).toList
  | .cleared =>
    (∀ key, after.stored.get? key = none) ∧
      ∀ client, client ∈ after.destroyed ↔ client ∈ before.destroyed ∨ before.Holds client

def Record.Exact (e : Record) : Prop := e.deed.Exact e.before e.after

def Linked : Registry Nat → List Record → Registry Nat → Prop
  | first, [], last => first = last
  | first, e :: log, last => e.before = first ∧ Linked e.after log last

namespace Deed

def Gives (key : String) (client : Nat) : Deed → Prop
  | .found config result => config.clientKey = key ∧ result = .ok client
  | .ended config _ result => config.clientKey = key ∧ result = .ok client
  | _ => False

def Takes (key : String) : Deed → Prop
  | .removed config _ => config.clientKey = key
  | .cleared => True
  | _ => False

/-- If it asks for the key, it is told the client; if it loads, it does not call its factory. A load
whose factory was already running gets the client unless the factory fails. -/
def Confirms (key : String) (client : Nat) : Deed → Prop
  | .got config client? => config.clientKey = key → client? = some client
  | .found config result => config.clientKey = key → result = .ok client
  | .began config => config.clientKey ≠ key
  | .ended config (.ok _) result => config.clientKey = key → result = .ok client
  | _ => True

end Deed

variable {r r' before after first middle last : Registry Nat} {config : Config} {client made : Nat}
  {key : String} {e : Record} {log log' : List Record}

theorem Linked.append (linked : Linked first log middle) (linked' : Linked middle log' last) :
    Linked first (log ++ log') last := by
  induction log generalizing first with
  | nil => exact (show first = middle from linked) ▸ linked'
  | cons e log ih => exact ⟨linked.1, ih linked.2⟩

theorem loadOrStore_of_stored (stored : r.get? config = some client) (factory : Factory Nat) :
    r.loadOrStore config factory = (.ok client, r) := by
  simp only [loadOrStore, stored]

theorem loadOrStore_of_failed {factory : Factory Nat} {f : Failure} (unknown : r.get? config = none)
    (failed : (factory r).1 = .error f) :
    r.loadOrStore config factory = (.error f, (factory r).2) := by
  rcases run : factory r with ⟨result, left⟩
  rw [run] at failed
  subst failed
  simp only [loadOrStore, unknown, run]

def settle (r : Registry Nat) (config : Config) (built : Nat) : Registry Nat :=
  match r.get? config with
  | some _ => r
  | none => { r with stored := r.stored.insert config.clientKey built }

theorem loadOrStore_of_made {factory : Factory Nat} {built : Nat} (unknown : r.get? config = none)
    (made : (factory r).1 = .ok built) :
    r.loadOrStore config factory =
      (.ok (((factory r).2.get? config).getD built), (factory r).2.settle config built) := by
  rcases run : factory r with ⟨result, left⟩
  rw [run] at made
  subst made
  cases stored : left.get? config <;> simp only [loadOrStore, settle, unknown, run, stored] <;> rfl

theorem settle_exact (config : Config) {built : Nat} (new : r.Lacks built) :
    Deed.Exact r (r.settle config built)
      (.ended config (.ok built) (.ok ((r.get? config).getD built))) := by
  refine ⟨new, ?_, ?_, _, rfl, ?_, rfl⟩ <;> cases stored : r.get? config
  · simp only [settle, stored]
  · simp only [settle, stored]
  · intro other different
    simp only [settle, stored, Table.get?_insert, Ne.symm different, if_false]
  · intro other _
    simp only [settle, stored]
  · simp only [settle, stored, Table.get?_insert, if_true, Option.getD_none]
  · simp only [settle, stored, Option.getD_some]
    exact stored

theorem remove_exact (r : Registry Nat) (config : Config) :
    Deed.Exact r (r.remove config).2 (.removed config (r.remove config).1) := by
  cases stored : r.get? config with
  | none =>
    have absent : r.stored.get? config.clientKey = none := stored
    simp only [remove, stored]
    refine ⟨by simp [absent], absent, fun _ _ => rfl, by simp [absent]⟩
  | some client =>
    have held : r.stored.get? config.clientKey = some client := stored
    simp only [remove, stored]
    refine ⟨by simp [held], ?_, ?_, by simp [held]⟩
    · simp only [Table.get?_erase, if_true]
    · intro other different
      simp only [Table.get?_erase, Ne.symm different, if_false]

theorem mem_values_iff : client ∈ r.stored.entries.map Prod.snd ↔ r.Holds client := by
  simp only [Holds, Table.get?_eq_some_iff, List.mem_map, Prod.exists, exists_eq_right]

theorem destroyAll_exact (r : Registry Nat) : Deed.Exact r r.destroyAll .cleared := by
  refine ⟨fun _ => rfl, fun client => ?_⟩
  simp only [destroyAll, List.mem_append, mem_values_iff]

structure Numbered (made : Nat) (r : Registry Nat) : Prop where
  stored : ∀ client, r.Holds client → client < made
  destroyed : ∀ client ∈ r.destroyed, client < made

theorem numbered_empty : (empty : Registry Nat).Numbered made where
  stored _ := by rintro ⟨_, ⟨⟩⟩
  destroyed := List.forall_mem_nil _

theorem Numbered.lacks (numbered : r.Numbered made) : r.Lacks made where
  unstored held := Nat.lt_irrefl _ (numbered.stored made held)
  undestroyed member := Nat.lt_irrefl _ (numbered.destroyed made member)

theorem Numbered.mono {made' : Nat} (numbered : r.Numbered made) (le : made ≤ made') :
    r.Numbered made' where
  stored client held := Nat.lt_of_lt_of_le (numbered.stored client held) le
  destroyed client member := Nat.lt_of_lt_of_le (numbered.destroyed client member) le

theorem Numbered.settle {built : Nat} (numbered : r.Numbered made) (below : built < made) :
    (r.settle config built).Numbered made := by
  unfold Registry.settle
  split
  · exact numbered
  · refine ⟨?_, numbered.destroyed⟩
    rintro client ⟨key, stored⟩
    rw [Table.get?_insert] at stored
    split at stored
    · cases stored
      exact below
    · exact numbered.stored client ⟨key, stored⟩

theorem Numbered.remove (numbered : r.Numbered made) (config : Config) :
    (r.remove config).2.Numbered made := by
  unfold Registry.remove
  split
  · next client found =>
    constructor
    · rintro other ⟨key, stored⟩
      rw [Table.get?_erase] at stored
      split at stored
      · cases stored
      · exact numbered.stored other ⟨key, stored⟩
    · intro other member
      rcases List.mem_append.mp member with earlier | same
      · exact numbered.destroyed other earlier
      · exact List.mem_singleton.mp same ▸ numbered.stored client ⟨_, found⟩
  · exact numbered

theorem Numbered.destroyAll (numbered : r.Numbered made) : r.destroyAll.Numbered made where
  stored _ := by rintro ⟨_, ⟨⟩⟩
  destroyed client member := by
    rcases List.mem_append.mp member with earlier | taken
    · exact numbered.destroyed client earlier
    · exact numbered.stored client (mem_values_iff.mp taken)

structure Sound (first : Registry Nat) (log : List Record) (last : Registry Nat) (made : Nat) :
    Prop where
  linked : Linked first log last
  exact : ∀ e ∈ log, e.Exact
  numbered : last.Numbered made

theorem Sound.nil (numbered : r.Numbered made) : Sound r [] r made :=
  ⟨rfl, List.forall_mem_nil _, numbered⟩

theorem Sound.single {deed : Deed} (exact : deed.Exact before after)
    (numbered : after.Numbered made) : Sound before [⟨before, deed, after⟩] after made :=
  ⟨⟨rfl, rfl⟩, List.forall_mem_singleton.mpr exact, numbered⟩

theorem Sound.append {made' : Nat} (sound : Sound first log middle made)
    (sound' : Sound middle log' last made') : Sound first (log ++ log') last made' where
  linked := sound.linked.append sound'.linked
  exact e member := (List.mem_append.mp member).elim (sound.exact e) (sound'.exact e)
  numbered := sound'.numbered

abbrev Course.Sound (r : Registry Nat) (c : Course) : Prop :=
  Registry.Sound r c.log c.registry c.made

def Course.MakesNew (c : Course) : Prop :=
  ∀ client, c.result = .ok client → c.registry.Lacks client ∧ client < c.made

theorem began_exact (unknown : r.get? config = none) : Deed.Exact r r (.began config) :=
  ⟨rfl, unknown, fun factory f failed => by rw [loadOrStore_of_failed unknown failed]⟩

theorem found_exact (stored : r.get? config = some client) :
    Deed.Exact r r (.found config (.ok client)) :=
  ⟨rfl, client, stored, rfl, loadOrStore_of_stored stored⟩

theorem got_exact : Deed.Exact r r (.got config (r.get? config)) := ⟨rfl, rfl⟩

theorem counted_exact : Deed.Exact r r (.counted r.size) := ⟨rfl, (List.length_map _).symm⟩

theorem Course.Sound.around {c : Course} {result : Except Failure Nat} (start : r.Numbered made)
    (sound : c.Sound r) (unknown : r.get? config = none)
    (ended : Deed.Exact c.registry after (.ended config c.result result))
    (numbered : after.Numbered c.made) :
    Course.Sound r ⟨result, after, c.made, ⟨r, .began config, r⟩ ::
      (c.log ++ [⟨c.registry, .ended config c.result result, after⟩])⟩ :=
  (Registry.Sound.single (began_exact unknown) start).append (sound.append (.single ended numbered))

theorem Course.Sound.ofLoad {factory : Registry Nat → Course} (start : r.Numbered made)
    (sound : (factory r).Sound r) (new : (factory r).MakesNew) :
    (Course.ofLoad config factory made r).Sound r := by
  cases stored : r.get? config with
  | some client =>
    simp only [Course.ofLoad, stored, loadOrStore_of_stored stored]
    exact .single (found_exact stored) start
  | none =>
    cases built : (factory r).result with
    | error f =>
      have loaded : r.loadOrStore config (Course.toFactory factory) =
          (.error f, (factory r).registry) :=
        loadOrStore_of_failed stored built
      have ended : Deed.Exact (factory r).registry (factory r).registry
          (.ended config (factory r).result (.error f)) := by
        rw [built]
        exact ⟨rfl, rfl⟩
      simp only [Course.ofLoad, stored, loaded]
      exact sound.around start stored ended sound.numbered
    | ok client =>
      obtain ⟨lacks, below⟩ := new client built
      have loaded : r.loadOrStore config (Course.toFactory factory) =
          (.ok (((factory r).registry.get? config).getD client),
            (factory r).registry.settle config client) :=
        loadOrStore_of_made stored built
      have ended := settle_exact config lacks
      rw [← built] at ended
      simp only [Course.ofLoad, stored, loaded]
      exact sound.around start stored ended (sound.numbered.settle below)

theorem Plan.run_sound (plan : Plan) (start : r.Numbered made) :
    (plan.run made r).Sound r ∧ (plan.run made r).MakesNew := by
  induction plan generalizing made r with
  | make =>
    refine ⟨.nil (start.mono (Nat.le_succ _)), ?_⟩
    rintro client ⟨⟩
    exact ⟨start.lacks, Nat.lt_succ_self _⟩
  | fail f => exact ⟨.nil start, nofun⟩
  | get config next ih =>
    obtain ⟨rest, new⟩ := ih (r.get? config) start
    exact ⟨(Registry.Sound.single got_exact start).append rest, new⟩
  | size next ih =>
    obtain ⟨rest, new⟩ := ih r.size start
    exact ⟨(Registry.Sound.single counted_exact start).append rest, new⟩
  | load config factory next ihFactory ihNext =>
    obtain ⟨inner, innerNew⟩ := ihFactory start
    have load : (Course.ofLoad config (factory.run made) made r).Sound r :=
      .ofLoad start inner innerNew
    obtain ⟨rest, new⟩ := ihNext _ load.numbered
    exact ⟨load.append rest, new⟩

theorem Session.run_sound (commands : List Command) :
    let s := Session.run commands
    Sound .empty s.log s.registry s.made := by
  induction commands using List.reverseRecOn with
  | nil => exact .nil numbered_empty
  | append_singleton commands command ih =>
    simp only [Session.run, List.foldl_append, List.foldl_cons, List.foldl_nil] at ih ⊢
    generalize commands.foldl Session.step Session.empty = s at ih
    have start := ih.numbered
    cases command with
    | load config factory =>
      obtain ⟨inner, new⟩ := factory.run_sound start
      exact ih.append (Course.Sound.ofLoad start inner new)
    | get config => exact ih.append (.single got_exact start)
    | size => exact ih.append (.single counted_exact start)
    | remove config => exact ih.append (.single (remove_exact _ _) (start.remove config))
    | destroyAll => exact ih.append (.single (destroyAll_exact _) start.destroyAll)

structure Tidy (r : Registry Nat) : Prop where
  apart : r.Apart
  alive : ∀ client, r.Holds client → client ∉ r.destroyed

theorem tidy_empty : (empty : Registry Nat).Tidy where
  apart := apart_empty
  alive _ _ := List.not_mem_nil

theorem Tidy.of_subset (tidy : before.Tidy)
    (kept : ∀ key client, after.stored.get? key = some client →
      before.stored.get? key = some client ∧ client ∉ after.destroyed) : after.Tidy where
  apart key key' client held held' :=
    tidy.apart key key' client (kept key client held).1 (kept key' client held').1
  alive client := by
    rintro ⟨key, held⟩
    exact (kept key client held).2

theorem SameBut.held_or_built {built other : Nat} {key' : String} (others : SameBut key before after)
    (stored : after.stored.get? key = some ((before.stored.get? key).getD built))
    (held : after.stored.get? key' = some other) :
    before.stored.get? key' = some other ∨ key' = key ∧ other = built := by
  by_cases same : key' = key
  · subst same
    cases was : before.stored.get? key' with
    | some client =>
      rw [was, Option.getD_some] at stored
      exact .inl (stored.symm.trans held)
    | none =>
      rw [was, Option.getD_none] at stored
      exact .inr ⟨rfl, (Option.some.inj (stored.symm.trans held)).symm⟩
  · exact .inl ((others key' same).symm.trans held)

theorem Tidy.of_built {built : Nat} (tidy : before.Tidy) (new : before.Lacks built)
    (same : after.destroyed = before.destroyed) (others : SameBut key before after)
    (stored : after.stored.get? key = some ((before.stored.get? key).getD built)) :
    after.Tidy where
  apart key₁ key₂ client held₁ held₂ := by
    rcases others.held_or_built stored held₁ with was₁ | ⟨same₁, built₁⟩ <;>
      rcases others.held_or_built stored held₂ with was₂ | ⟨same₂, built₂⟩
    · exact tidy.apart key₁ key₂ client was₁ was₂
    · exact absurd ⟨key₁, built₂ ▸ was₁⟩ new.unstored
    · exact absurd ⟨key₂, built₁ ▸ was₂⟩ new.unstored
    · exact same₁.trans same₂.symm
  alive client := by
    rintro ⟨key', held⟩
    rw [same]
    rcases others.held_or_built stored held with was | ⟨-, rfl⟩
    · exact tidy.alive client ⟨key', was⟩
    · exact new.undestroyed

theorem Tidy.of_removed (tidy : before.Tidy) (gone : after.stored.get? key = none)
    (others : SameBut key before after)
    (taken : after.destroyed = before.destroyed ++ (before.stored.get? key).toList) :
    after.Tidy := by
  refine tidy.of_subset fun other client held => ?_
  have different : other ≠ key := by
    rintro rfl
    cases gone.symm.trans held
  have was : before.stored.get? other = some client := (others other different).symm.trans held
  refine ⟨was, fun destroyed => ?_⟩
  rcases List.mem_append.mp (taken ▸ destroyed) with earlier | now
  · exact tidy.alive client ⟨other, was⟩ earlier
  · exact different (tidy.apart other key client was (Option.mem_toList.mp now))

theorem Deed.Exact.tidy {deed : Deed} (exact : deed.Exact before after) (tidy : before.Tidy) :
    after.Tidy := by
  cases deed with
  | counted _ => exact exact.1 ▸ tidy
  | got _ _ => exact exact.1 ▸ tidy
  | found _ _ => exact exact.1 ▸ tidy
  | began _ => exact exact.1 ▸ tidy
  | ended config built result =>
    cases built with
    | error f => exact exact.1 ▸ tidy
    | ok built =>
      obtain ⟨new, same, others, client, -, stored, rfl⟩ := exact
      exact tidy.of_built new same others stored
  | removed config wasStored =>
    obtain ⟨-, gone, others, taken⟩ := exact
    exact tidy.of_removed gone others taken
  | cleared =>
    refine tidy.of_subset fun key client held => ?_
    cases (exact.1 key).symm.trans held

theorem Deed.Exact.keeps {deed : Deed} (exact : deed.Exact before after)
    (held : before.stored.get? key = some client) (kept : ¬ deed.Takes key) :
    after.stored.get? key = some client := by
  cases deed with
  | counted _ => exact exact.1 ▸ held
  | got _ _ => exact exact.1 ▸ held
  | found _ _ => exact exact.1 ▸ held
  | began _ => exact exact.1 ▸ held
  | ended config built result =>
    cases built with
    | error f => exact exact.1 ▸ held
    | ok built =>
      obtain ⟨-, -, others, stored, -, now, rfl⟩ := exact
      by_cases same : key = config.clientKey
      · subst same
        rw [now, held, Option.getD_some]
      · exact (others key same).trans held
  | removed config wasStored =>
    obtain ⟨-, -, others, -⟩ := exact
    exact (others key fun same => kept same.symm).trans held
  | cleared => exact absurd trivial kept

theorem Deed.Exact.gives {deed : Deed} (exact : deed.Exact before after)
    (gives : deed.Gives key client) : after.stored.get? key = some client := by
  cases deed with
  | found config result =>
    obtain ⟨rfl, rfl⟩ := gives
    obtain ⟨rfl, stored, held, same, -⟩ := exact
    cases same
    exact held
  | ended config built result =>
    obtain ⟨rfl, rfl⟩ := gives
    cases built with
    | error f => cases exact.2
    | ok built =>
      obtain ⟨-, -, -, stored, same, held, -⟩ := exact
      cases same
      exact held
  | counted _ => cases gives
  | got _ _ => cases gives
  | began _ => cases gives
  | removed _ _ => cases gives
  | cleared => cases gives

theorem Deed.Exact.confirms {deed : Deed} (exact : deed.Exact before after)
    (held : before.stored.get? key = some client) : deed.Confirms key client := by
  cases deed with
  | got config client? =>
    rintro rfl
    exact exact.2.trans held
  | found config result =>
    rintro rfl
    obtain ⟨-, stored, was, rfl, -⟩ := exact
    rw [Option.some.inj (was.symm.trans held)]
  | began config =>
    rintro rfl
    cases exact.2.1.symm.trans held
  | ended config built result =>
    cases built with
    | error f => trivial
    | ok built =>
      rintro rfl
      obtain ⟨-, -, -, stored, rfl, -, same⟩ := exact
      rw [same, held, Option.getD_some]
  | counted _ => trivial
  | removed _ _ => trivial
  | cleared => trivial

theorem Linked.tidy (linked : Linked first log last) (exact : ∀ e ∈ log, e.Exact)
    (tidy : first.Tidy) : ∀ e ∈ log, e.after.Tidy := by
  induction log generalizing first with
  | nil => exact List.forall_mem_nil _
  | cons e log ih =>
    obtain ⟨rfl, rest⟩ := linked
    have after := (exact e List.mem_cons_self).tidy tidy
    intro e' member
    rcases List.mem_cons.mp member with rfl | later
    · exact after
    · exact ih rest (fun e member => exact e (List.mem_cons_of_mem _ member)) after e' later

theorem Linked.split (linked : Linked first (log ++ log') last) :
    ∃ middle, Linked first log middle ∧ Linked middle log' last := by
  induction log generalizing first with
  | nil => exact ⟨first, rfl, linked⟩
  | cons e log ih =>
    obtain ⟨same, rest⟩ := linked
    obtain ⟨middle, left, right⟩ := ih rest
    exact ⟨middle, ⟨same, left⟩, right⟩

theorem Linked.keeps (linked : Linked first log last) (exact : ∀ e ∈ log, e.Exact)
    (held : first.stored.get? key = some client) (kept : ∀ e ∈ log, ¬ e.deed.Takes key) :
    last.stored.get? key = some client := by
  induction log generalizing first with
  | nil => exact (show first = last from linked) ▸ held
  | cons e log ih =>
    obtain ⟨rfl, rest⟩ := linked
    have still := (exact e List.mem_cons_self).keeps held (kept e List.mem_cons_self)
    exact ih rest (fun e member => exact e (List.mem_cons_of_mem _ member)) still
      fun e member => kept e (List.mem_cons_of_mem _ member)

/-- The registry as a map from client keys, over a session. -/
structure Session.Exact (s : Session) : Prop where
  linked : Linked .empty s.log s.registry
  exact : ∀ e ∈ s.log, e.Exact
  one_per_key : ∀ e ∈ s.log, e.after.stored.keys.Nodup
  alive : ∀ e ∈ s.log, ∀ client, e.after.Holds client → client ∉ e.after.destroyed
  steady : ∀ earlier load between e later key client,
    s.log = earlier ++ load :: (between ++ e :: later) → load.deed.Gives key client →
      (∀ other ∈ between, ¬ other.deed.Takes key) → e.deed.Confirms key client

theorem sessions_exact (commands : List Command) : (Session.run commands).Exact := by
  have sound := Session.run_sound commands
  generalize Session.run commands = s at sound
  constructor
  · exact sound.linked
  · exact sound.exact
  · exact fun e _ => e.after.stored.keys_nodup
  · exact fun e member => (sound.linked.tidy sound.exact tidy_empty e member).alive
  · intro earlier load between e later key client whole gives kept
    have linked := sound.linked
    have exact := sound.exact
    rw [whole] at linked exact
    obtain ⟨_, -, -, rest⟩ := linked.split
    obtain ⟨_, middle, start, -⟩ := rest.split
    have held := (exact load (by simp)).gives gives
    have still := middle.keeps (fun e member => exact e (by simp [member])) held kept
    exact (exact e (by simp)).confirms (start ▸ still)

example :
    let config := Config.ofAddress "127.0.0.1:8848"
    (Session.run [.load config (.load config .make fun _ => .make)]).log.map Record.deed =
      [.began config, .began config, .ended config (.ok 0) (.ok 0),
        .ended config (.ok 1) (.ok 0)] := by
  intro config
  simp [Session.run, Session.step, Session.empty, Plan.run, Course.ofLoad, loadOrStore, get?, empty,
    Course.toFactory, Table.empty, Table.get?, Entries.get?, Table.insert, Entries.insert]

end TrafficControl.Registry
