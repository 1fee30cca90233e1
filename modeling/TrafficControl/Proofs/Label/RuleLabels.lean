import TrafficControl.Label
import TrafficControl.Proofs.Text.ByteOrder

namespace TrafficControl

variable {α : Type u} {β : Type v}

/-- Each of one list has its like in the other, in any order and any number. -/
def Alike (like : α → β → Prop) (xs : List α) (ys : List β) : Prop :=
  (∀ x ∈ xs, ∃ y ∈ ys, like x y) ∧ ∀ y ∈ ys, ∃ x ∈ xs, like x y

instance {like : α → β → Prop} [∀ x y, Decidable (like x y)] (xs : List α) (ys : List β) :
    Decidable (Alike like xs ys) :=
  inferInstanceAs (Decidable (_ ∧ _))

theorem Alike.exists_iff {like : α → β → Prop} {xs : List α} {ys : List β} {p : α → Prop}
    {q : β → Prop} (alike : Alike like xs ys) (agree : ∀ x y, like x y → (p x ↔ q y)) :
    (∃ x ∈ xs, p x) ↔ ∃ y ∈ ys, q y := by
  constructor
  · rintro ⟨x, member, holds⟩
    obtain ⟨y, member', likes⟩ := alike.1 x member
    exact ⟨y, member', (agree x y likes).mp holds⟩
  · rintro ⟨y, member, holds⟩
    obtain ⟨x, member', likes⟩ := alike.2 y member
    exact ⟨x, member', (agree x y likes).mpr holds⟩

def Source.Rearranged (s t : Source) : Prop := Alike (· = ·) s.metadata.keys t.metadata.keys

def Route.Rearranged (r s : Route) : Prop := Alike Source.Rearranged r.sources s.sources

def RateLimitClause.Rearranged (c d : RateLimitClause) : Prop :=
  Alike (· = ·) c.arguments d.arguments

inductive Rule.Rearranged : Rule → Rule → Prop where
  | routing {r s : RoutingRule}
      (routes : Alike Route.Rearranged (r.inbounds ++ r.outbounds) (s.inbounds ++ s.outbounds)) :
      Rearranged (.routing r) (.routing s)
  | rateLimit {r s : RateLimitRule} (clauses : Alike RateLimitClause.Rearranged r.rules s.rules) :
      Rearranged (.rateLimit r) (.rateLimit s)

instance (s t : Source) : Decidable (s.Rearranged t) := inferInstanceAs (Decidable (Alike ..))

instance (r s : Route) : Decidable (r.Rearranged s) := inferInstanceAs (Decidable (Alike ..))

instance (c d : RateLimitClause) : Decidable (c.Rearranged d) :=
  inferInstanceAs (Decidable (Alike ..))

def Rule.join? : Rule → Rule → Option Rule
  | .routing r, .routing s =>
    some (.routing ⟨r.inbounds ++ s.inbounds, r.outbounds ++ s.outbounds⟩)
  | .rateLimit r, .rateLimit s => some (.rateLimit ⟨r.rules ++ s.rules⟩)
  | _, _ => none

/-- The labels of a rule where the keys of a source are met in the order of `visit`. -/
def labelsVisiting (visit : Source → List String) : Rule → LabelSet
  | .routing rule =>
    .ofList ((rule.inbounds ++ rule.outbounds).flatMap fun route =>
      route.sources.flatMap fun source => (visit source).filterMap Label.parse?)
  | .rateLimit rule =>
    .ofList (rule.rules.flatMap fun clause => clause.arguments.filterMap Label.ofMatchArgument?)

namespace Label

def BytesLt (a b : Label) : Prop :=
  a.rank < b.rank ∨ a.rank = b.rank ∧
    Text.Utf8.encode a.name.toList < Text.Utf8.encode b.name.toList

theorem bytesLt_iff {a b : Label} : a.BytesLt b ↔ a < b := by
  rw [BytesLt, Text.Utf8.encode_lt_encode_iff, ← String.lt_iff, lt_iff]

variable {visit : Source → List String} {rule rule' : Rule} {l : Label}

theorem labelsVisiting_keys : labelsVisiting (fun source => source.metadata.keys) = labelsOf := by
  funext rule
  cases rule <;> rfl

theorem mem_labelsVisiting_routing {rule : RoutingRule} :
    l ∈ labelsVisiting visit (.routing rule) ↔ ∃ route ∈ rule.inbounds ++ rule.outbounds,
      ∃ source ∈ route.sources, ∃ key ∈ visit source, parse? key = some l := by
  simp only [labelsVisiting, Ascending.mem_ofList, List.mem_flatMap, List.mem_filterMap]

theorem mem_labelsOf_routing {rule : RoutingRule} :
    l ∈ labelsOf (.routing rule) ↔ ∃ route ∈ rule.inbounds ++ rule.outbounds,
      ∃ source ∈ route.sources, ∃ key ∈ source.metadata.keys, parse? key = some l := by
  rw [← labelsVisiting_keys, mem_labelsVisiting_routing]

theorem mem_labelsOf_rateLimit {rule : RateLimitRule} :
    l ∈ labelsOf (.rateLimit rule) ↔ ∃ clause ∈ rule.rules,
      ∃ argument ∈ clause.arguments, ofMatchArgument? argument = some l := by
  simp only [labelsOf, Ascending.mem_ofList, List.mem_flatMap, List.mem_filterMap]

theorem labelsVisiting_eq
    (complete : ∀ source key, key ∈ visit source ↔ key ∈ source.metadata.keys) (rule : Rule) :
    labelsVisiting visit rule = labelsOf rule := by
  cases rule with
  | routing rule =>
    apply Ascending.ext_mem
    intro l
    simp only [mem_labelsVisiting_routing, mem_labelsOf_routing, complete]
  | rateLimit rule => rfl

theorem labelsOf_rearranged (same : rule.Rearranged rule') : labelsOf rule = labelsOf rule' := by
  apply Ascending.ext_mem
  intro l
  cases same with
  | routing routes =>
    rw [mem_labelsOf_routing, mem_labelsOf_routing]
    -- from the routes through the sources down to the keys, each has its like
    refine routes.exists_iff fun r s sources => sources.exists_iff fun source source' keys => ?_
    refine keys.exists_iff ?_
    rintro key _ rfl
    exact Iff.rfl
  | rateLimit clauses =>
    rw [mem_labelsOf_rateLimit, mem_labelsOf_rateLimit]
    refine clauses.exists_iff fun c d arguments => arguments.exists_iff ?_
    rintro argument _ rfl
    exact Iff.rfl

theorem labelsOf_join {first second : Rule} (alike : first.kind = second.kind) :
    ∃ joined, first.join? second = some joined ∧
      labelsOf joined = (labelsOf first).union (labelsOf second) := by
  cases first with
  | routing r =>
    cases second with
    | routing s =>
      refine ⟨_, rfl, Ascending.ext_mem fun l => ?_⟩
      rw [Ascending.mem_union]
      simp only [mem_labelsOf_routing, List.mem_append, or_and_right, exists_or]
      exact or_or_or_comm
    | rateLimit s => cases alike
  | rateLimit r =>
    cases second with
    | routing s => cases alike
    | rateLimit s =>
      refine ⟨_, rfl, Ascending.ext_mem fun l => ?_⟩
      rw [Ascending.mem_union]
      simp only [mem_labelsOf_rateLimit, List.mem_append, or_and_right, exists_or]

/-- The labels of a rule are the union of those of all that it lists, in one order. -/
theorem rule_labels_are_unions :
    (∀ rule, (labelsOf rule).elems.Pairwise BytesLt ∧ (labelsOf rule).elems.Nodup) ∧
      (∀ (rule : RoutingRule) l, l ∈ labelsOf (.routing rule) ↔
        ∃ route, (route ∈ rule.inbounds ∨ route ∈ rule.outbounds) ∧
          ∃ source ∈ route.sources, ∃ key ∈ source.metadata.keys, parse? key = some l) ∧
      (∀ (rule : RateLimitRule) l, l ∈ labelsOf (.rateLimit rule) ↔
        ∃ clause ∈ rule.rules, ∃ argument ∈ clause.arguments,
          ofMatchArgument? argument = some l) ∧
      (∀ visit : Source → List String,
        (∀ source key, key ∈ visit source ↔ key ∈ source.metadata.keys) →
        ∀ rule, labelsVisiting visit rule = labelsOf rule) ∧
      (∀ rule rule' : Rule, rule.Rearranged rule' → labelsOf rule = labelsOf rule') ∧
      ∀ first second : Rule, first.kind = second.kind →
        ∃ joined, first.join? second = some joined ∧
          labelsOf joined = (labelsOf first).union (labelsOf second) := by
  refine ⟨fun rule => ⟨?_, (labelsOf rule).nodup⟩, fun rule l => ?_, fun rule l => ?_, ?_, ?_, ?_⟩
  · exact (labelsOf rule).ascending.imp bytesLt_iff.mpr
  · simp only [mem_labelsOf_routing, List.mem_append]
  · exact mem_labelsOf_rateLimit
  · exact fun visit complete => labelsVisiting_eq complete
  · exact fun rule rule' => labelsOf_rearranged
  · exact fun first second => labelsOf_join

def sourceOf (keys : List String) : Source := ⟨none, none, .ofList (keys.map (·, default))⟩

def gathered : RoutingRule where
  inbounds := [⟨[sourceOf ["$header.uid", "é"], sourceOf ["$path", "$header."]], []⟩]
  outbounds := []

def scattered : RoutingRule where
  inbounds := [⟨[sourceOf ["$header.", "$path"], sourceOf ["é", "$header.uid"]], [default]⟩]
  outbounds := [⟨(gathered.inbounds.flatMap Route.sources) ++ [sourceOf ["é", "$header.uid"]], []⟩]

def limited : Rule := .rateLimit ⟨[⟨"", none, [⟨.header, " uid", default⟩], true⟩]⟩

theorem rule_labels_are_unions_scattered :
    (Rule.Rearranged (.routing gathered) (.routing scattered) ∧
        labelsOf (.routing gathered) = labelsOf (.routing scattered)) ∧
      (labelsOf (.routing gathered)).elems = [.path, .header "uid", .custom "é"] ∧
      (labelsOf (.routing gathered)).elems.Pairwise BytesLt ∧
      Label.header "uid" ∈ labelsOf limited ∧
      labelsVisiting (fun source => source.metadata.keys.reverse) (.routing scattered) =
        labelsOf (.routing scattered) := by
  obtain ⟨ordered, -, limits, visited, rearranged, -⟩ := rule_labels_are_unions
  have same : Rule.Rearranged (.routing gathered) (.routing scattered) := .routing (by decide)
  refine ⟨⟨same, rearranged _ _ same⟩, by decide, (ordered _).1, ?_, ?_⟩
  · exact (limits _ _).mpr ⟨_, List.mem_singleton_self _, _, List.mem_singleton_self _, by decide⟩
  · exact visited _ (fun source key => List.mem_reverse) _

end Label

end TrafficControl
