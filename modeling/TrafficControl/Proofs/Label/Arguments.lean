import TrafficControl.Proofs.Label.RoundTrip

namespace TrafficControl

open Text Label

def MatchArgument.routingKey (argument : MatchArgument) : String :=
  match argument.kind with
  | .method => methodKey
  | .callerIp => callerIpKey
  | .header => headerKey ++ argument.key
  | .query => queryKey ++ argument.key
  | .callerService => callerServiceKey ++ argument.key
  | .custom => argument.key

namespace Label

variable {argument : MatchArgument} {key : String} {kind : String → Label}

theorem header_named : (headerKey, .header) ∈ namedKinds := by simp [namedKinds]

theorem query_named : (queryKey, .query) ∈ namedKinds := by simp [namedKinds]

theorem callerService_named : (callerServiceKey, .callerService) ∈ namedKinds := by
  simp [namedKinds]

theorem parse?_named_eq_none_iff (listed : (key, kind) ∈ namedKinds) (name : String) :
    parse? (key ++ name) = none ↔ isBlank name = true := by
  rw [parse?_named listed, trimmedNonBlank?_eq]
  cases isBlank name <;> simp

/-- A blank key of a caller service is the one key on which the two readings part: the argument then
asks for the callers without a namespace, where the routing key names nothing. -/
theorem ofMatchArgument?_eq_parse?_iff (standard : argument.kind ≠ .custom) :
    (ofMatchArgument? argument = parse? argument.routingKey ↔
        ¬(argument.kind = .callerService ∧ isBlank argument.key = true)) ∧
      (parse? argument.routingKey = none ↔
        argument.kind ∈ [.header, .query, .callerService] ∧ isBlank argument.key = true) ∧
      (ofMatchArgument? argument = none ↔
        argument.kind ∈ [.header, .query] ∧ isBlank argument.key = true) := by
  obtain ⟨kind, name, value⟩ := argument
  cases kind with
  | custom => exact absurd rfl standard
  | method =>
    have named : parse? methodKey = some .method := by decide
    simp [ofMatchArgument?, MatchArgument.routingKey, named]
  | callerIp =>
    have named : parse? callerIpKey = some .callerIp := by decide
    simp [ofMatchArgument?, MatchArgument.routingKey, named]
  | header =>
    have same : ofMatchArgument? ⟨.header, name, value⟩ = parse? (headerKey ++ name) :=
      (parse?_named header_named name).symm
    simp [same, MatchArgument.routingKey, parse?_named_eq_none_iff header_named]
  | query =>
    have same : ofMatchArgument? ⟨.query, name, value⟩ = parse? (queryKey ++ name) :=
      (parse?_named query_named name).symm
    simp [same, MatchArgument.routingKey, parse?_named_eq_none_iff query_named]
  | callerService =>
    have named := parse?_named callerService_named name
    rw [trimmedNonBlank?_eq] at named
    cases blank : isBlank name <;>
      simp [ofMatchArgument?, MatchArgument.routingKey, named, blank]

theorem ofMatchArgument?_eq_parse?_iff_padded :
    let padded : MatchArgument := ⟨.callerService, "\u3000$prod.\t", default⟩
    padded.kind ≠ .custom ∧ ofMatchArgument? padded = parse? padded.routingKey ∧
      parse? padded.routingKey = some (.callerService "$prod.") := by
  intro padded
  have standard : padded.kind ≠ .custom := by decide
  refine ⟨standard, ?_, by decide⟩
  exact (ofMatchArgument?_eq_parse?_iff standard).1.mpr (by decide)

theorem blank_caller_service_is_label :
    ofMatchArgument? ⟨.callerService, "", default⟩ = some (.callerService "") ∧
      parse? (MatchArgument.routingKey ⟨.callerService, "", default⟩) = none := by
  decide

end Label

end TrafficControl
