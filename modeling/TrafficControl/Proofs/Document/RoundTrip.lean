import TrafficControl.Config.Form
import TrafficControl.Instance.Form
import TrafficControl.Proofs.Document.Loosening
import TrafficControl.Rule.Form

namespace TrafficControl

open Reader

theorem restores_optionalText : Restores (optional text) .ofOptionText Loosening.rigid.optional :=
  restores_text.optional fun loosened null => by
    cases loosened.symm.trans null

theorem record_ne_null {default full loose : Json} {known : List (String × Loosening)}
    (loosened : Loosening.record default known full loose) : loose ≠ .null := by
  obtain ⟨_, rfl, _⟩ := loosened
  intro null
  cases null

namespace Matcher

def loosening : Loosening := .record (toJson default) [("type", .rigid), ("value", .rigid)]

theorem chosen_kind (kind : MatchKind) :
    chosen MatchKind.choices (nameOf MatchKind.choices kind) = .ok kind := by
  cases kind <;> rfl

def slots : form.Slots toJson where
  all :=
    [⟨"type", restores_choice chosen_kind, fun kind m => { m with kind }, kind, fun _ _ => rfl⟩,
     ⟨"value", restores_text, fun value m => { m with value }, value, fun _ _ => rfl⟩]

theorem restores : Restores (record form) toJson loosening :=
  .record slots (slots.defaults_of_trees rfl rfl)

end Matcher

theorem restores_metadata :
    Restores (table (record Matcher.form)) metadataToJson Matcher.loosening.values :=
  Matcher.restores.table

namespace Source

def loosening : Loosening :=
  .record (toJson default)
    [("namespace", Loosening.rigid.optional), ("service", Loosening.rigid.optional),
     ("metadata", Matcher.loosening.values)]

def slots : form.Slots toJson where
  all :=
    [⟨"namespace", restores_optionalText, fun ns s => { s with ns }, ns, fun _ _ => rfl⟩,
     ⟨"service", restores_optionalText, fun service s => { s with service }, service, fun _ _ => rfl⟩,
     ⟨"metadata", restores_metadata, fun metadata s => { s with metadata }, metadata,
      fun _ _ => rfl⟩]

theorem restores : Restores (record form) toJson loosening :=
  .record slots (slots.defaults_of_trees rfl rfl)

end Source

namespace Destination

def loosening : Loosening :=
  .record (toJson default)
    [("namespace", Loosening.rigid.optional), ("service", Loosening.rigid.optional),
     ("metadata", Matcher.loosening.values), ("priority", .rigid), ("weight", .rigid),
     ("isolate", .rigid)]

def slots : form.Slots toJson where
  all :=
    [⟨"namespace", restores_optionalText, fun ns d => { d with ns }, ns, fun _ _ => rfl⟩,
     ⟨"service", restores_optionalText, fun service d => { d with service }, service, fun _ _ => rfl⟩,
     ⟨"metadata", restores_metadata, fun metadata d => { d with metadata }, metadata,
      fun _ _ => rfl⟩,
     ⟨"priority", restores_word32, fun priority d => { d with priority }, priority, fun _ _ => rfl⟩,
     ⟨"weight", restores_word32, fun weight d => { d with weight }, weight, fun _ _ => rfl⟩,
     ⟨"isolate", restores_boolean, fun isolate d => { d with isolate }, isolate, fun _ _ => rfl⟩]

theorem restores : Restores (record form) toJson loosening :=
  .record slots (slots.defaults_of_trees rfl rfl)

end Destination

namespace Route

def loosening : Loosening :=
  .record (toJson default)
    [("sources", Source.loosening.elements), ("destinations", Destination.loosening.elements)]

def slots : form.Slots toJson where
  all :=
    [⟨"sources", Source.restores.sequence, fun sources r => { r with sources }, sources,
      fun _ _ => rfl⟩,
     ⟨"destinations", Destination.restores.sequence, fun destinations r => { r with destinations },
      destinations, fun _ _ => rfl⟩]

theorem restores : Restores (record form) toJson loosening :=
  .record slots (slots.defaults_of_trees rfl rfl)

end Route

namespace MatchArgument

def loosening : Loosening :=
  .record (toJson default) [("type", .rigid), ("key", .rigid), ("value", Matcher.loosening)]

theorem chosen_kind (kind : ArgumentKind) :
    chosen ArgumentKind.choices (nameOf ArgumentKind.choices kind) = .ok kind := by
  cases kind <;> rfl

def slots : form.Slots toJson where
  all :=
    [⟨"type", restores_choice chosen_kind, fun kind a => { a with kind }, kind, fun _ _ => rfl⟩,
     ⟨"key", restores_text, fun key a => { a with key }, key, fun _ _ => rfl⟩,
     ⟨"value", Matcher.restores, fun value a => { a with value }, value, fun _ _ => rfl⟩]

theorem restores : Restores (record form) toJson loosening :=
  .record slots (slots.defaults_of_trees rfl rfl)

end MatchArgument

namespace RateLimitClause

def loosening : Loosening :=
  .record (toJson default)
    [("id", .rigid), ("method", Matcher.loosening.optional),
     ("arguments", MatchArgument.loosening.elements), ("disable", .rigid)]

def slots : form.Slots toJson where
  all :=
    [⟨"id", restores_text, fun id c => { c with id }, id, fun _ _ => rfl⟩,
     ⟨"method", Matcher.restores.optional record_ne_null, fun method c => { c with method }, method,
      fun _ _ => rfl⟩,
     ⟨"arguments", MatchArgument.restores.sequence, fun arguments c => { c with arguments },
      arguments, fun _ _ => rfl⟩,
     ⟨"disable", restores_boolean, fun disable c => { c with disable }, disable, fun _ _ => rfl⟩]

theorem restores : Restores (record form) toJson loosening :=
  .record slots (slots.defaults_of_trees rfl rfl)

end RateLimitClause

namespace RoutingRule

def slots : form.Slots fun rule => (Rule.routing rule).toJson where
  all :=
    [⟨"inbounds", Route.restores.sequence, fun inbounds r => { r with inbounds }, inbounds,
      fun _ _ => rfl⟩,
     ⟨"outbounds", Route.restores.sequence, fun outbounds r => { r with outbounds }, outbounds,
      fun _ _ => rfl⟩]

end RoutingRule

namespace RateLimitRule

def slots : form.Slots fun rule => (Rule.rateLimit rule).toJson where
  all :=
    [⟨"rules", RateLimitClause.restores.sequence, fun rules r => { r with rules }, rules,
      fun _ _ => rfl⟩]

end RateLimitRule

namespace Document

mutual

theorem hasTag_ofJson : (j : Json) → (ofJson j).hasTag = false
  | .null | .bool _ | .int _ | .float _ | .str _ => rfl
  | .array elems => elemsHaveTag_ofJson elems
  | .object members => entriesHaveTag_ofJson members

theorem elemsHaveTag_ofJson : (elems : List Json) → elemsHaveTag (elemsOfJson elems) = false
  | [] => rfl
  | j :: rest => by
    simp only [elemsOfJson, elemsHaveTag, hasTag_ofJson j, elemsHaveTag_ofJson rest, Bool.or_self]

theorem entriesHaveTag_ofJson :
    (members : List (String × Json)) → entriesHaveTag (entriesOfJson members) = false
  | [] => rfl
  | (key, j) :: rest => by
    simp only [entriesOfJson, entriesHaveTag, hasTag, hasTag_ofJson j, entriesHaveTag_ofJson rest,
      Bool.or_self]

end

end Document

namespace Rule

def splitStep (place : Place) :
    Option BodyKind × List (Document × Document) → Document × Document →
      Except Mismatch (Option BodyKind × List (Document × Document)) :=
  fun (found, rest) (key, value) => do
    match key with
    | .str "type" =>
      if found.isSome then .error (.duplicateField "type")
      else return (some (← choiceName BodyKind.choices place value), rest)
    | key => do
      checkTags key
      checkTags value
      return (found, rest ++ [(key, value)])

theorem splitType_eq (place : Place) (entries : List (Document × Document)) :
    splitType place entries = entries.foldlM (splitStep place) (none, []) := rfl

theorem splitStep_type {place : Place} {name : String} {kind : BodyKind}
    (named : chosen BodyKind.choices name = .ok kind) (rest : List (Document × Document)) :
    splitStep place (none, rest) (.str "type", .str name) = .ok (some kind, rest) := by
  have read : choiceName BodyKind.choices place (.str name) = .ok kind := by
    cases place <;> exact named
  simp only [splitStep, read]
  rfl

theorem splitStep_other (place : Place) {m : String × Json} (other : m.1 ≠ "type")
    (found : Option BodyKind) (rest : List (Document × Document)) :
    splitStep place (found, rest) (.str m.1, .ofJson m.2) =
      .ok (found, rest ++ [(.str m.1, .ofJson m.2)]) := by
  simp only [splitStep]
  split
  · next same => exact absurd (Document.str.inj same) other
  · simp only [checkTags, Document.hasTag, Document.hasTag_ofJson, Bool.false_eq_true, if_false]
    rfl

theorem foldlM_splitStep (place : Place) {members : List (String × Json)}
    (untyped : ∀ m ∈ members, m.1 ≠ "type") (found : Option BodyKind)
    (rest : List (Document × Document)) :
    (Document.entriesOfJson members).foldlM (splitStep place) (found, rest) =
      .ok (found, rest ++ Document.entriesOfJson members) := by
  rw [Document.entriesOfJson_eq_map]
  induction members generalizing rest with
  | nil =>
    simp only [List.map_nil, List.foldlM_nil, List.append_nil]
    rfl
  | cons m later ih =>
    obtain ⟨other, untyped⟩ := List.forall_mem_cons.mp untyped
    rw [List.map_cons, List.foldlM_cons, splitStep_other place other]
    exact (ih untyped _).trans (by rw [List.append_assoc, List.singleton_append])

theorem splitType_members {before after : List (String × Json)} {name : String} {kind : BodyKind}
    (first : ∀ m ∈ before, m.1 ≠ "type") (last : ∀ m ∈ after, m.1 ≠ "type")
    (named : chosen BodyKind.choices name = .ok kind) (place : Place) :
    splitType place (Document.entriesOfJson (before ++ ("type", .str name) :: after)) =
      .ok (some kind, Document.entriesOfJson (before ++ after)) := by
  have split : Document.entriesOfJson (before ++ ("type", .str name) :: after) =
      Document.entriesOfJson before ++
        (.str "type", .str name) :: Document.entriesOfJson after := by
    simp [Document.entriesOfJson_eq_map, Document.ofJson]
  have joined : Document.entriesOfJson (before ++ after) =
      Document.entriesOfJson before ++ Document.entriesOfJson after := by
    simp [Document.entriesOfJson_eq_map]
  rw [splitType_eq, split, joined, List.foldlM_append, foldlM_splitStep place first]
  simp only [bind, Except.bind, List.foldlM_cons, List.nil_append, splitStep_type named]
  exact foldlM_splitStep place last _ _

/-- The fields of a body beside the type of the rule. The type stands in no `default`, so it is
never left out. -/
def bodyLoosening (default : Json) (known : List (String × Loosening)) : Loosening :=
  .record default (("type", .rigid) :: known)

def loosening : Loosening := fun full loose =>
  match full.member? "type" with
  | some (.str "routing") =>
    bodyLoosening (.object [("inbounds", .array []), ("outbounds", .array [])])
      [("inbounds", Route.loosening.elements), ("outbounds", Route.loosening.elements)] full loose
  | some (.str "rate_limit") =>
    bodyLoosening (.object [("rules", .array [])])
      [("rules", RateLimitClause.loosening.elements)] full loose
  | _ => False

section Body

variable {α : Type} {form : Form α} {write : α → Json} (slots : form.Slots write) {default : Json}
  {name : String} {x : α}

theorem bodyLoosening_refl (typed : (write x).member? "type" = some (.str name)) :
    bodyLoosening default (slots.all.map Slot.known) (write x) (write x) := by
  obtain ⟨members, same, distinct⟩ := slots.object x
  have found := typed
  rw [same] at found
  exact ⟨members, same, distinct,
    List.forall_mem_cons.mpr ⟨.kept typed found rfl, slots.has_self same⟩⟩

theorem read_body (defaults : slots.Defaults default) (untyped : ∀ s ∈ slots.all, s.name ≠ "type")
    (kept : default.member? "type" = none) (typed : (write x).member? "type" = some (.str name))
    {kind : BodyKind} (named : chosen BodyKind.choices name = .ok kind) {loose : Json}
    (loosened : bodyLoosening default (slots.all.map Slot.known) (write x) loose) (place : Place) :
    ∃ body, read place (.ofJson loose) = ofBody kind body ∧ record form .setAside body = .ok x := by
  obtain ⟨members, rfl, distinct, fields⟩ := loosened
  obtain ⟨⟨v, also, fate⟩, fields⟩ := List.forall_mem_cons.mp fields
  have there : ("type", .str name) ∈ members := by
    rcases fate with ⟨j, there, rfl⟩ | ⟨_, spared⟩
    · cases typed.symm.trans also
      exact there
    · cases kept.symm.trans spared
  -- the type stands only once, so what is before and after it makes up the body
  obtain ⟨before, after, rfl⟩ := List.append_of_mem there
  rw [List.map_append, List.map_cons, List.nodup_middle, ← List.map_append] at distinct
  obtain ⟨once, distinct⟩ := List.nodup_cons.mp distinct
  have others : ∀ m ∈ before ++ after, m.1 ≠ "type" := fun m member same =>
    once (List.mem_map.mpr ⟨m, member, same⟩)
  obtain ⟨first, last⟩ := List.forall_mem_append.mp others
  have fields : ∀ field ∈ slots.all.map Slot.known,
      Loosening.Has (before ++ after) default (write x) field := by
    intro field known
    obtain ⟨s, member, rfl⟩ := List.mem_map.mp known
    exact (fields s.known known).without (untyped s member)
  refine ⟨.map (Document.entriesOfJson (before ++ after)), ?_, ?_⟩
  · simp only [read, Document.ofJson, splitType_members first last named, bind, Except.bind]
  · exact ofEntries_members slots distinct (slots.complete defaults fields) .setAside

end Body

theorem restores : Restores read toJson loosening where
  refl := by
    intro rule
    cases rule with
    | routing rule => exact bodyLoosening_refl RoutingRule.slots rfl
    | rateLimit rule => exact bodyLoosening_refl RateLimitRule.slots rfl
  reads := by
    intro rule loose loosened place
    cases rule with
    | routing rule =>
      have named : chosen BodyKind.choices "routing" = .ok .routing := rfl
      obtain ⟨body, split, whole⟩ := read_body RoutingRule.slots
        (RoutingRule.slots.defaults_of_trees rfl rfl) (by simp [RoutingRule.slots]) rfl rfl named
        loosened place
      rw [split, ofBody, whole]
      rfl
    | rateLimit rule =>
      have named : chosen BodyKind.choices "rate_limit" = .ok .rateLimit := rfl
      obtain ⟨body, split, whole⟩ := read_body RateLimitRule.slots
        (RateLimitRule.slots.defaults_of_trees rfl rfl) (by simp [RateLimitRule.slots]) rfl rfl named
        loosened place
      rw [split, ofBody, whole]
      rfl

end Rule

namespace RevisedRule

def loosening : Loosening := .record (.object []) [("revision", .rigid), ("rule", Rule.loosening)]

def slots : form.Slots toJson where
  all :=
    [⟨"revision", restores_text, fun revision r => { r with revision }, revision, fun _ _ => rfl⟩,
     ⟨"rule", Rule.restores, fun rule r => { r with rule }, rule, fun _ _ => rfl⟩]

theorem restores : Restores read toJson loosening :=
  .record slots slots.defaults_none

end RevisedRule

namespace Instance

def loosening : Loosening :=
  .record (toJson default)
    [("id", .rigid), ("host", .rigid), ("port", .rigid), ("protocol", .rigid), ("version", .rigid),
     ("weight", .rigid), ("healthy", .rigid), ("isolated", .rigid),
     ("metadata", Loosening.rigid.values), ("circuit_breakers", Loosening.rigid.values)]

theorem chosen_name (state : CircuitState) :
    chosen CircuitState.choices state.name = .ok state := by
  cases state <;> rfl

def slots : form.Slots toJson where
  all :=
    [⟨"id", restores_text, fun id i => { i with id }, id, fun _ _ => rfl⟩,
     ⟨"host", restores_text, fun host i => { i with host }, host, fun _ _ => rfl⟩,
     ⟨"port", restores_word16, fun port i => { i with port }, port, fun _ _ => rfl⟩,
     ⟨"protocol", restores_text, fun protocol i => { i with protocol }, protocol, fun _ _ => rfl⟩,
     ⟨"version", restores_text, fun version i => { i with version }, version, fun _ _ => rfl⟩,
     ⟨"weight", restores_word32, fun weight i => { i with weight }, weight, fun _ _ => rfl⟩,
     ⟨"healthy", restores_boolean, fun healthy i => { i with healthy }, healthy, fun _ _ => rfl⟩,
     ⟨"isolated", restores_boolean, fun isolated i => { i with isolated }, isolated, fun _ _ => rfl⟩,
     ⟨"metadata", restores_text.table, fun metadata i => { i with metadata }, metadata,
      fun _ _ => rfl⟩,
     ⟨"circuit_breakers", (restores_choice chosen_name).table,
      fun circuitStates i => { i with circuitStates }, circuitStates, fun _ _ => rfl⟩]

theorem restores : Restores (record form) toJson loosening :=
  .record slots (slots.defaults_of_trees rfl rfl)

end Instance

namespace Config

def loosening : Loosening :=
  .record (toJson default)
    [("address", .rigid), ("namespace", .rigid), ("token", Loosening.rigid.optional),
     ("group", Loosening.rigid.optional), ("username", Loosening.rigid.optional),
     ("password", Loosening.rigid.optional), ("query_parser", .rigid),
     ("include_circuit_broken", .rigid), ("watch_retry_initial_ms", .rigid),
     ("watch_retry_max_ms", .rigid)]

def slots : form.Slots toJson where
  all :=
    [⟨"address", restores_text, fun address c => { c with address }, address, fun _ _ => rfl⟩,
     ⟨"namespace", restores_text, fun ns c => { c with ns }, ns, fun _ _ => rfl⟩,
     ⟨"token", restores_optionalText, fun token c => { c with token }, token, fun _ _ => rfl⟩,
     ⟨"group", restores_optionalText, fun group c => { c with group }, group, fun _ _ => rfl⟩,
     ⟨"username", restores_optionalText, fun username c => { c with username }, username,
      fun _ _ => rfl⟩,
     ⟨"password", restores_optionalText, fun password c => { c with password }, password,
      fun _ _ => rfl⟩,
     ⟨"query_parser", restores_text, fun queryParser c => { c with queryParser }, queryParser,
      fun _ _ => rfl⟩,
     ⟨"include_circuit_broken", restores_boolean,
      fun includeCircuitBroken c => { c with includeCircuitBroken }, includeCircuitBroken,
      fun _ _ => rfl⟩,
     ⟨"watch_retry_initial_ms", restores_word64,
      fun watchRetryInitialMs c => { c with watchRetryInitialMs }, watchRetryInitialMs,
      fun _ _ => rfl⟩,
     ⟨"watch_retry_max_ms", restores_word64, fun watchRetryMaxMs c => { c with watchRetryMaxMs },
      watchRetryMaxMs, fun _ _ => rfl⟩]

theorem restores : Restores (record form) toJson loosening :=
  .record slots (slots.defaults_of_trees rfl rfl)

end Config

/-- A rule, an instance or a configuration is read back from its JSON form, and also from that form
with any fields left out that are at their default and any unknown fields added, at any depth. -/
theorem values_survive (rule : RevisedRule) (i : Instance) (c : Config) (place : Place) :
    (RevisedRule.read place (.ofJson rule.toJson) = .ok rule ∧
      ∀ loose, RevisedRule.loosening rule.toJson loose →
        RevisedRule.read place (.ofJson loose) = .ok rule) ∧
    (Instance.read place (.ofJson i.toJson) = .ok i ∧
      ∀ loose, Instance.loosening i.toJson loose → Instance.read place (.ofJson loose) = .ok i) ∧
    (Config.read place (.ofJson c.toJson) = .ok c ∧
      ∀ loose, Config.loosening c.toJson loose → Config.read place (.ofJson loose) = .ok c) := by
  refine ⟨⟨?_, ?_⟩, ⟨?_, ?_⟩, ?_, ?_⟩
  · exact RevisedRule.restores.reads (RevisedRule.restores.refl rule) place
  · exact fun _ loosened => RevisedRule.restores.reads loosened place
  · exact Instance.restores.reads (Instance.restores.refl i) place
  · exact fun _ loosened => Instance.restores.reads loosened place
  · exact Config.restores.reads (Config.restores.refl c) place
  · exact fun _ loosened => Config.restores.reads loosened place

def grayRule : RevisedRule :=
  let source : Source :=
    { ns := none, service := none, metadata := .ofList [("$header.env", ⟨.exact, "gray"⟩)] }
  ⟨"r2", .routing ⟨[], [⟨[source], []⟩]⟩⟩

def notedGrayRule : Json :=
  let matcher : Json := .object [("value", .str "gray"), ("note", .null)]
  let source : Json := .object [("metadata", .object [("$header.env", matcher)])]
  let route : Json := .object [("sources", .array [source]), ("since", .int 3)]
  let rule : Json :=
    .object [("outbounds", .array [route]), ("type", .str "routing"), ("owners", .array [])]
  .object [("rule", rule), ("revision", .str "r2")]

theorem loosening_notedGrayRule : RevisedRule.loosening grayRule.toJson notedGrayRule := by
  refine ⟨_, rfl, by simp, ?_⟩
  simp only [List.forall_mem_cons]
  refine ⟨.kept rfl rfl rfl, .kept rfl rfl ⟨_, rfl, by simp, ?_⟩, List.forall_mem_nil _⟩
  simp only [List.forall_mem_cons]
  refine ⟨.kept rfl rfl rfl, .spared rfl (by simp) rfl, .kept rfl rfl ?_, List.forall_mem_nil _⟩
  refine ⟨_, _, rfl, rfl, .cons ⟨_, rfl, by simp, ?_⟩ .nil⟩
  simp only [List.forall_mem_cons]
  refine ⟨.kept rfl rfl ?_, .spared rfl (by simp) rfl, List.forall_mem_nil _⟩
  refine ⟨_, _, rfl, rfl, .cons ⟨_, rfl, by simp, ?_⟩ .nil⟩
  simp only [List.forall_mem_cons]
  refine ⟨.spared rfl (by simp) rfl, .spared rfl (by simp) rfl, .kept rfl rfl ?_,
    List.forall_mem_nil _⟩
  refine ⟨_, _, rfl, rfl, .cons ⟨rfl, _, rfl, by simp, ?_⟩ .nil⟩
  simp only [List.forall_mem_cons]
  exact ⟨.spared rfl (by simp) rfl, .kept rfl rfl rfl, List.forall_mem_nil _⟩

theorem values_survive_noted :
    let i := Instance.ofAddress "a" "host" 80
    let c := Config.ofAddress "127.0.0.1:8848"
    let noted : Json := .object
      [("zone", .str "z"), ("host", .str "host"), ("port", .int 80), ("id", .str "a")]
    let addressed : Json := .object [("address", .str "127.0.0.1:8848"), ("zone", .str "z")]
    (RevisedRule.loosening grayRule.toJson notedGrayRule ∧
      RevisedRule.read .json (.ofJson notedGrayRule) = .ok grayRule) ∧
    (Instance.loosening i.toJson noted ∧ Instance.read .json (.ofJson noted) = .ok i) ∧
    (Config.loosening c.toJson addressed ∧ Config.read .json (.ofJson addressed) = .ok c) := by
  intro i c noted addressed
  obtain ⟨⟨_, rule_read⟩, ⟨_, instance_read⟩, _, config_read⟩ := values_survive grayRule i c .json
  have loose_instance : Instance.loosening i.toJson noted := by
    refine ⟨_, rfl, by simp, ?_⟩
    simp only [List.forall_mem_cons]
    and_intros
    all_goals first
      | exact .kept rfl rfl rfl
      | exact .spared rfl (by simp) rfl
      | exact List.forall_mem_nil _
  have loose_config : Config.loosening c.toJson addressed := by
    refine ⟨_, rfl, by simp, ?_⟩
    simp only [List.forall_mem_cons]
    and_intros
    all_goals first
      | exact .kept rfl rfl rfl
      | exact .spared rfl (by simp) rfl
      | exact List.forall_mem_nil _
  exact ⟨⟨loosening_notedGrayRule, rule_read _ loosening_notedGrayRule⟩,
    ⟨loose_instance, instance_read _ loose_instance⟩, loose_config, config_read _ loose_config⟩

end TrafficControl
