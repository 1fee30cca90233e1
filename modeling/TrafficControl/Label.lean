import TrafficControl.Ascending
import TrafficControl.Rule.Basic
import TrafficControl.Text.Blank
import TrafficControl.Text.Split

namespace TrafficControl

inductive Label where
  | method
  | path
  | callerIp
  | header (name : String)
  | query (text : String)
  | callerService (ns : String)
  | custom (name : String)
  deriving DecidableEq, Repr

namespace Label

def rank : Label → Nat
  | .method => 0
  | .path => 1
  | .callerIp => 2
  | .header _ => 3
  | .query _ => 4
  | .callerService _ => 5
  | .custom _ => 6

def name : Label → String
  | .method | .path | .callerIp => ""
  | .header n | .query n | .callerService n | .custom n => n

theorem eq_of_rank_of_name {a b : Label} (rank : a.rank = b.rank) (name : a.name = b.name) :
    a = b := by
  cases a <;> cases b <;> simp_all [Label.rank, Label.name]

instance : LT Label := ⟨fun a b => a.rank < b.rank ∨ a.rank = b.rank ∧ a.name < b.name⟩

theorem lt_iff {a b : Label} : a < b ↔ a.rank < b.rank ∨ a.rank = b.rank ∧ a.name < b.name :=
  Iff.rfl

instance (a b : Label) : Decidable (a < b) :=
  inferInstanceAs (Decidable (a.rank < b.rank ∨ a.rank = b.rank ∧ a.name < b.name))

instance : Ranked Label where
  decidableEq := inferInstance
  decidableLT := inferInstance
  irrefl := fun a h => by
    rcases h with h | h
    · omega
    · exact String.lt_irrefl _ h.2
  trans := fun {a b c} h k => by
    rcases h with h | ⟨h, h'⟩ <;> rcases k with k | ⟨k, k'⟩
    · exact .inl (by omega)
    · exact .inl (by omega)
    · exact .inl (by omega)
    · exact .inr ⟨by omega, String.lt_trans h' k'⟩
  connected := fun {a b} h ne => by
    simp only [lt_iff, not_or, not_and] at h
    by_cases same : a.rank = b.rank
    · refine .inr ⟨same.symm, Ranked.connected (h.2 same) fun name => ?_⟩
      exact ne (eq_of_rank_of_name same name)
    · exact .inl (by omega)

def methodKey : String := "$method"

def pathKey : String := "$path"

def callerIpKey : String := "$caller_ip"

def headerKey : String := "$header."

def queryKey : String := "$query."

def callerServiceKey : String := "$caller_service."

def behind? (key s : String) : Option String :=
  (Text.afterWord? key.toList s.toList).map String.ofList

/-- The label that a key of a routing source names. A blank key names none, nor does a kind without
its name; any other key is a custom label. -/
def parse? (key : String) : Option Label :=
  let key := Text.trim key
  if key = "" then none
  else if key = methodKey then some .method
  else if key = pathKey then some .path
  else if key = callerIpKey then some .callerIp
  else
    match behind? headerKey key with
    | some name => (Text.trimmedNonBlank? name).map .header
    | none =>
      match behind? queryKey key with
      | some text => (Text.trimmedNonBlank? text).map .query
      | none =>
        match behind? callerServiceKey key with
        | some ns => (Text.trimmedNonBlank? ns).map .callerService
        | none => some (.custom key)

def ofMatchArgument? (argument : MatchArgument) : Option Label :=
  match argument.kind with
  | .method => some .method
  | .callerIp => some .callerIp
  | .header => (Text.trimmedNonBlank? argument.key).map .header
  | .query => (Text.trimmedNonBlank? argument.key).map .query
  | .callerService => some (.callerService (Text.trim argument.key))
  | .custom => (Text.trimmedNonBlank? argument.key).map .custom

def display : Label → String
  | .method => methodKey
  | .path => pathKey
  | .callerIp => callerIpKey
  | .header n => headerKey ++ n
  | .query n => queryKey ++ n
  | .callerService n => callerServiceKey ++ n
  | .custom n => n

end Label

abbrev LabelSet := Ascending Label

/-- The labels that a rule needs. Disabled clauses count as well. -/
def labelsOf : Rule → LabelSet
  | .routing rule =>
    .ofList ((rule.inbounds ++ rule.outbounds).flatMap fun route =>
      route.sources.flatMap fun source => source.metadata.keys.filterMap Label.parse?)
  | .rateLimit rule =>
    .ofList (rule.rules.flatMap fun clause => clause.arguments.filterMap Label.ofMatchArgument?)

structure Argument where
  label : Label
  value : String
  deriving DecidableEq, Repr

namespace Argument

def display (a : Argument) : String := a.label.display ++ "=" ++ a.value

instance : LT Argument := ⟨fun a b => a.label < b.label ∨ a.label = b.label ∧ a.value < b.value⟩

instance : Ranked Argument where
  decidableEq := inferInstance
  decidableLT := fun a b =>
    inferInstanceAs (Decidable (a.label < b.label ∨ a.label = b.label ∧ a.value < b.value))
  irrefl := fun a h => by
    rcases h with h | h
    · exact Ranked.irrefl _ h
    · exact String.lt_irrefl _ h.2
  trans := fun {a b c} h k => by
    rcases h with h | ⟨h, h'⟩ <;> rcases k with k | ⟨k, k'⟩
    · exact .inl (Ranked.trans h k)
    · exact .inl (k ▸ h)
    · exact .inl (h ▸ k)
    · exact .inr ⟨h.trans k, String.lt_trans h' k'⟩
  connected := fun {a b} h ne => by
    have h' := not_or.mp h
    by_cases same : a.label = b.label
    · refine .inr ⟨same.symm, Ranked.connected (fun lt => h'.2 ⟨same, lt⟩) fun value => ne ?_⟩
      cases a; cases b; simp_all
    · exact .inl (Ranked.connected h'.1 same)

end Argument

abbrev ArgumentSet := Ascending Argument

end TrafficControl
