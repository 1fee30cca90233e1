import TrafficControl.Call.Routing

namespace TrafficControl

namespace Router

variable (r : Router) (cache : LabelCache) (now : Nat) (call : Call) (instances : Instances)

def passed : Instances :=
  (r.gate.filterMethod call.service call.method instances).left.of instances

def isEligible (i : Instance) : Bool :=
  (Circuit.judgeMethod r.gate.flow? call.service call.method i).eligible

def IsRuled : Prop :=
  r.route?.isSome = true ∧ ∃ rule, r.rules call.service .routing = .ok (some rule)

def Answers (asked : List Inquiry) (answer : Except Failure Instances) : Prop :=
  ∃ service request, r.route? = some service ∧ .route request ∈ asked ∧
    (service request).map (fun routed => routed.of request.instances) = answer

def resort : Option (Except Failure Instances) → Instances
  | some (.ok []) => instances
  | some (.ok chosen) => chosen
  | some (.error _) | none => r.passed call instances

variable {r call instances}

theorem passed_eq_nil : r.passed call instances = [] ↔ instances = [] :=
  Narrowed.of_retain_eq_nil

theorem eligible_of_mem_passed {i : Instance} (member : i ∈ r.passed call instances)
    (ineligible : r.isEligible call i = false) : ∀ j ∈ instances, r.isEligible call j = false :=
  Narrowed.of_mem_retain member ineligible

theorem resort_chosen {chosen : Instances} (nonempty : chosen ≠ []) :
    r.resort call instances (.some (.ok chosen)) = chosen := by
  cases chosen with
  | nil => exact absurd rfl nonempty
  | cons first rest => rfl

theorem of_settle (answer : Except Failure (Narrowed Instance)) :
    let passed := (r.gate.filterMethod call.service call.method instances).left
    (settle passed instances answer).of instances =
      r.resort call instances (some (answer.map fun routed => routed.of (r.passed call instances))) := by
  cases answer with
  | error failure => rfl
  | ok routed =>
    simp only [settle, Except.map, resort, passed]
    cases chosen : routed.of (Narrowed.of instances _) with
    | nil => rfl
    | cons first rest =>
      simp only [List.isEmpty_cons, Bool.false_eq_true, if_false]
      rw [Narrowed.of_andThen, chosen]

theorem route_unasked (cache : LabelCache) (now : Nat)
    (unasked : ¬(instances ≠ [] ∧ r.IsRuled call)) :
    (r.route cache now call instances).left.of instances = r.passed call instances ∧
      ∀ request, .route request ∉ (r.route cache now call instances).asked := by
  unfold route
  by_cases unsupplied : instances = []
  · subst unsupplied
    have left : r.passed call [] = [] := passed_eq_nil.mpr rfl
    simp [Narrowed.of, left]
  · have supplied : instances.isEmpty = false := by simpa using unsupplied
    simp only [supplied, Bool.false_eq_true, if_false]
    cases there : r.route? with
    | none => exact ⟨rfl, by simp⟩
    | some service =>
      cases fetched : r.rules call.service .routing with
      | error failure => exact ⟨rfl, by simp⟩
      | ok rule? =>
        cases rule? with
        | none => exact ⟨rfl, by simp⟩
        | some rule => exact absurd ⟨unsupplied, by simp [there], rule, fetched⟩ unasked

theorem route_asked (cache : LabelCache) (now : Nat) (supplied : instances ≠ [])
    {service : RouteService} (there : r.route? = some service) {rule : RevisedRule}
    (fetched : r.rules call.service .routing = .ok (some rule)) :
    ∃ request : RouteRequest, request.instances = r.passed call instances ∧
      (∀ other, .route other ∈ (r.route cache now call instances).asked ↔ other = request) ∧
      (r.route cache now call instances).left.of instances =
        r.resort call instances
          (some ((service request).map fun routed => routed.of request.instances)) := by
  have supplied : instances.isEmpty = false := by simpa using supplied
  refine ⟨r.request (cache.labelsFor now rule).1.labels call (r.passed call instances), rfl, ?_, ?_⟩
  · intro other
    simp only [route, supplied, there, fetched]
    simp [passed]
  · simp only [route, supplied, there, fetched, Bool.false_eq_true, if_false]
    exact of_settle _

theorem route_resorts (r : Router) (cache : LabelCache) (now : Nat) (call : Call)
    (instances : Instances) :
    let routed := r.route cache now call instances
    ∃ answer?, routed.left.of instances = r.resort call instances answer? ∧
      (answer?.isSome = true ↔ instances ≠ [] ∧ r.IsRuled call) ∧
      (∀ answer, r.Answers routed.asked answer ↔ answer? = some answer) ∧
      ∀ request, .route request ∈ routed.asked →
        instances ≠ [] ∧ request.instances = r.passed call instances := by
  intro routed
  by_cases asks : instances ≠ [] ∧ r.IsRuled call
  · obtain ⟨supplied, there, rule, fetched⟩ := id asks
    obtain ⟨service, there⟩ := Option.isSome_iff_exists.mp there
    obtain ⟨request, offered, asked, result⟩ := route_asked cache now supplied there fetched
    refine ⟨_, result, by simp [asks], ?_, ?_⟩
    · intro answer
      simp only [Answers, routed, asked, there, Option.some.injEq]
      constructor
      · rintro ⟨_, _, rfl, rfl, same⟩
        exact same
      · exact fun same => ⟨service, request, rfl, rfl, same⟩
    · intro other member
      rw [(asked other).mp member]
      exact ⟨supplied, offered⟩
  · obtain ⟨same, unasked⟩ := route_unasked cache now asks
    refine ⟨none, same, by simpa using asks, ?_, ?_⟩
    · intro answer
      constructor
      · rintro ⟨_, request, _, member, _⟩
        exact absurd member (unasked request)
      · rintro ⟨⟩
    · intro request member
      exact absurd member (unasked request)

/-- Routing leaves a call without instances only if there were none. What is left is what the
circuit breaker lets through, unless the routing service answers: then it is the answer, or every
instance if the answer is empty. A broken instance is left only for want of others. -/
theorem routing_keeps_supply (r : Router) (cache : LabelCache) (now : Nat) (call : Call)
    (instances : Instances) :
    let routed := r.route cache now call instances
    let left := routed.left.of instances
    let passed := r.passed call instances
    let answers := r.Answers routed.asked
    (left = [] → instances = []) ∧
    (r.route? = none ∨ r.rules call.service .routing = .ok none ∨
        (∃ failure, r.rules call.service .routing = .error failure) ∨
        (∃ failure, answers (.error failure)) → left = passed) ∧
    (∀ chosen, chosen ≠ [] → answers (.ok chosen) → left = chosen) ∧
    (answers (.ok []) ∧ left = instances ∨
      ¬answers (.ok []) ∧
        (left = passed ∨ ∃ chosen, chosen ≠ [] ∧ answers (.ok chosen) ∧ left = chosen)) ∧
    (instances ≠ [] → r.IsRuled call → ∃ answer, answers answer) ∧
    (∀ request, .route request ∈ routed.asked → request.instances = passed ∧ passed ≠ []) ∧
    ((∀ chosen, answers (.ok chosen) → chosen ⊆ passed) →
      ∀ i ∈ left, r.isEligible call i = false →
        (∀ j ∈ instances, r.isEligible call j = false) ∨ answers (.ok [])) := by
  intro routed left passed answers
  obtain ⟨answer?, result, asks, said, offers⟩ := route_resorts r cache now call instances
  have result : left = r.resort call instances answer? := result
  have said : ∀ answer, answers answer ↔ answer? = some answer := said
  refine ⟨?_, ?_, ?_, ?_, ?_, ?_, ?_⟩
  · rw [result]
    rcases answer? with _ | failure | _ | ⟨first, rest⟩
    · exact passed_eq_nil.mp
    · exact passed_eq_nil.mp
    · exact id
    · simp [resort]
  · have unruled (idle : ¬r.IsRuled call) : left = passed := by
      have unasked : answer? = none := by simpa [idle] using asks
      rw [result, unasked]
      rfl
    rintro (absent | absent | ⟨failure, absent⟩ | ⟨failure, failed⟩)
    · exact unruled (by simp [IsRuled, absent])
    · exact unruled (by simp [IsRuled, absent])
    · exact unruled (by simp [IsRuled, absent])
    · rw [result, (said _).mp failed]
      rfl
  · intro chosen nonempty chose
    rw [result, (said _).mp chose, resort_chosen nonempty]
  · rw [result]
    simp only [said]
    rcases answer? with _ | failure | _ | ⟨first, rest⟩
    · exact .inr ⟨by simp, .inl rfl⟩
    · exact .inr ⟨by simp, .inl rfl⟩
    · exact .inl ⟨rfl, rfl⟩
    · exact .inr ⟨by simp, .inr ⟨_, by simp, rfl, rfl⟩⟩
  · intro supplied ruled
    obtain ⟨answer, there⟩ := Option.isSome_iff_exists.mp (asks.mpr ⟨supplied, ruled⟩)
    exact ⟨answer, (said answer).mpr there⟩
  · intro request member
    obtain ⟨supplied, same⟩ := offers request member
    exact ⟨same, fun unpassed => supplied (passed_eq_nil.mp unpassed)⟩
  · rw [result]
    simp only [said]
    intro within i member ineligible
    rcases answer? with _ | failure | _ | ⟨first, rest⟩
    · exact .inl (eligible_of_mem_passed member ineligible)
    · exact .inl (eligible_of_mem_passed member ineligible)
    · exact .inr rfl
    · exact .inl (eligible_of_mem_passed (within _ rfl member) ineligible)

def seeking (blocked sought : String) : Router where
  gate := ⟨some fun resource => if resource.host = blocked then .block else .pass⟩
  rules := fun _ _ => .ok (some ⟨"v1", .routing default⟩)
  route? := some fun request => .ok (.part (request.instances.filter fun i => i.id = sought))
  resolver := .object

def threeHosts : Instances := [.ofAddress "a" "a" 80, .ofAddress "b" "b" 80, .ofAddress "c" "c" 80]

def orderCall : Call where
  service := ⟨"default", "orders"⟩
  interface := ""
  method := "create"
  attachments := .empty
  callerIp := none
  callerService := none
  arguments := []

theorem routing_keeps_supply_seeking :
    let r := seeking "b" "c"
    let routed := r.route (.empty labelLifetime) 0 orderCall threeHosts
    let left := routed.left.of threeHosts
    threeHosts ≠ [] ∧ r.IsRuled orderCall ∧
      (∀ chosen, r.Answers routed.asked (.ok chosen) → chosen ⊆ r.passed orderCall threeHosts) ∧
      left = [.ofAddress "c" "c" 80] ∧
      ∀ i ∈ left, r.isEligible orderCall i = false →
        (∀ j ∈ threeHosts, r.isEligible orderCall j = false) ∨ r.Answers routed.asked (.ok []) := by
  intro r routed left
  obtain ⟨_, _, chosen, _, given, offers, broken⟩ :=
    routing_keeps_supply r (.empty labelLifetime) 0 orderCall threeHosts
  have supplied : threeHosts ≠ [] := by simp [threeHosts]
  have ruled : r.IsRuled orderCall := ⟨rfl, _, rfl⟩
  have within : ∀ chosen, r.Answers routed.asked (.ok chosen) →
      chosen ⊆ r.passed orderCall threeHosts := by
    rintro chosen ⟨_, request, there, asked, said⟩ i member
    cases there
    cases said
    rw [← (offers request asked).1]
    exact (List.mem_filter.mp member).1
  obtain ⟨answer, service, request, there, asked, said⟩ := given supplied ruled
  have answered : r.Answers routed.asked (.ok [.ofAddress "c" "c" 80]) := by
    refine ⟨service, request, there, asked, ?_⟩
    cases there
    have sought : (r.passed orderCall threeHosts).filter (fun i => i.id = "c") =
        [.ofAddress "c" "c" 80] := by decide +kernel
    rw [← sought, ← (offers request asked).1]
    rfl
  exact ⟨supplied, ruled, within, chosen _ (by simp) answered, broken within⟩

end Router

end TrafficControl
