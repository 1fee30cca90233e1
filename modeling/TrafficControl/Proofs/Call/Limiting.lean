import TrafficControl.Call.RateLimit

namespace TrafficControl

/-- The value that a label has on a call: a text of the call as it stands, unless it is blank, or
what a query reads. -/
inductive Call.Carries (c : Call) (resolver : Query.Resolver) : Label → String → Prop
  | method : Text.isBlank c.method = false → c.Carries resolver .method c.method
  | path : Text.isBlank c.interface = false → c.Carries resolver .path c.interface
  | callerIp {ip} : c.callerIp = some ip → Text.isBlank ip = false →
    c.Carries resolver .callerIp ip
  | header {name value} : c.attachments.get? name = some value → Text.isBlank value = false →
    c.Carries resolver (.header name) value
  | query {text value} : resolver.read? text c.arguments = some value →
    c.Carries resolver (.query text) value
  | callerService {caller} : c.callerService = some caller → Text.isBlank caller.service = false →
    c.Carries resolver (.callerService caller.ns) caller.service
  | custom {name value} : c.attachments.get? name = some value → Text.isBlank value = false →
    c.Carries resolver (.custom name) value

def Inquiry.quotaRequest? : Inquiry → Option QuotaRequest
  | .quota request => some request
  | _ => none

namespace Call

variable {c : Call} {resolver : Query.Resolver} {label : Label} {value : String}

theorem bind_nonBlank?_eq_some_iff {text? : Option String} :
    text?.bind Text.nonBlank? = some value ↔ text? = some value ∧ Text.isBlank value = false := by
  cases text? with
  | none => simp
  | some text =>
    rw [Option.bind_some, Text.nonBlank?_eq_some_iff, Option.some.injEq, and_comm]
    exact and_congr_right fun same => by rw [same]

theorem labelValue?_eq_some_iff :
    c.labelValue? resolver label = some value ↔ c.Carries resolver label value := by
  constructor
  · intro found
    cases label with
    | method =>
      obtain ⟨visible, rfl⟩ := Text.nonBlank?_eq_some_iff.mp found
      exact .method visible
    | path =>
      obtain ⟨visible, rfl⟩ := Text.nonBlank?_eq_some_iff.mp found
      exact .path visible
    | callerIp =>
      obtain ⟨known, visible⟩ := bind_nonBlank?_eq_some_iff.mp found
      exact .callerIp known visible
    | header name =>
      obtain ⟨attached, visible⟩ := bind_nonBlank?_eq_some_iff.mp found
      exact .header attached visible
    | query text => exact .query found
    | callerService ns =>
      obtain ⟨caller, known, shown⟩ := Option.bind_eq_some_iff.mp found
      split at shown
      · next same =>
        subst same
        obtain ⟨visible, rfl⟩ := Text.nonBlank?_eq_some_iff.mp shown
        exact .callerService known visible
      · cases shown
    | custom name =>
      obtain ⟨attached, visible⟩ := bind_nonBlank?_eq_some_iff.mp found
      exact .custom attached visible
  · intro carries
    cases carries with
    | method visible => exact Text.nonBlank?_eq_some_iff.mpr ⟨visible, rfl⟩
    | path visible => exact Text.nonBlank?_eq_some_iff.mpr ⟨visible, rfl⟩
    | callerIp known visible => exact bind_nonBlank?_eq_some_iff.mpr ⟨known, visible⟩
    | header attached visible => exact bind_nonBlank?_eq_some_iff.mpr ⟨attached, visible⟩
    | query read => exact read
    | callerService known visible =>
      refine Option.bind_eq_some_iff.mpr ⟨_, known, ?_⟩
      rw [if_pos rfl]
      exact Text.nonBlank?_eq_some_iff.mpr ⟨visible, rfl⟩
    | custom attached visible => exact bind_nonBlank?_eq_some_iff.mpr ⟨attached, visible⟩

theorem Carries.unique {value' : String} (carries : c.Carries resolver label value)
    (carries' : c.Carries resolver label value') : value = value' := by
  rw [← labelValue?_eq_some_iff] at carries carries'
  exact Option.some.inj (carries.symm.trans carries')

theorem mem_argumentsOf {labels : LabelSet} {a : Argument} :
    a ∈ c.argumentsOf resolver labels ↔ a.label ∈ labels ∧ c.Carries resolver a.label a.value := by
  rw [argumentsOf, Ascending.mem_ofList, List.mem_filterMap]
  simp only [argument?, Option.map_eq_some_iff]
  constructor
  · rintro ⟨label, asked, value, found, rfl⟩
    exact ⟨asked, labelValue?_eq_some_iff.mp found⟩
  · rintro ⟨asked, carries⟩
    exact ⟨a.label, asked, a.value, labelValue?_eq_some_iff.mpr carries, rfl⟩

end Call

namespace RateLimiter

variable {l : RateLimiter} {call : Call} {labels : LabelSet} {a b : Argument}

theorem mem_argumentsOf :
    a ∈ l.argumentsOf labels call ↔
      (a.label ∈ labels ∧ call.Carries l.resolver a.label a.value) ∨
        (call.method ≠ "" ∧ a = ⟨.method, call.method⟩) := by
  unfold argumentsOf
  by_cases nameless : call.method = ""
  · simp [nameless, Call.mem_argumentsOf]
  · simp [nameless, Call.mem_argumentsOf, Ascending.mem_insert, or_comm]

theorem carries_of_mem_argumentsOf (member : a ∈ l.argumentsOf labels call) :
    call.Carries l.resolver a.label a.value ∨ a = ⟨.method, call.method⟩ := by
  rcases mem_argumentsOf.mp member with ⟨-, carries⟩ | ⟨-, method⟩
  · exact .inl carries
  · exact .inr method

theorem eq_method_of_carries (carries : call.Carries l.resolver a.label a.value)
    (method : a.label = .method) : a = ⟨.method, call.method⟩ := by
  obtain ⟨label, value⟩ := a
  cases method
  cases carries
  rfl

theorem argumentsOf_distinct (first : a ∈ l.argumentsOf labels call)
    (second : b ∈ l.argumentsOf labels call) (same : a.label = b.label) : a = b := by
  rcases carries_of_mem_argumentsOf first with carries | rfl
  · rcases carries_of_mem_argumentsOf second with carries' | rfl
    · obtain ⟨label, value⟩ := a
      obtain ⟨label', value'⟩ := b
      cases same
      exact congrArg (Argument.mk label) (carries.unique carries')
    · exact eq_method_of_carries carries same
  · rcases carries_of_mem_argumentsOf second with carries' | rfl
    · exact (eq_method_of_carries carries' same.symm).symm
    · rfl

def Consults (l : RateLimiter) (call : Call) (quota : QuotaService) (rule : RevisedRule) : Prop :=
  l.quota? = some quota ∧ l.rules call.service .rateLimiting = .ok (some rule)

theorem settle_eq_error_iff {service : ServiceKey} {answer? : Except Failure QuotaAnswer}
    {failure : Failure} :
    settle service answer? = .error failure ↔
      ∃ answer, answer? = .ok answer ∧ answer.limited = true ∧
        failure = .rateLimited service.display answer.info := by
  constructor
  · intro refused
    cases answer? with
    | error cause => cases refused
    | ok answer =>
      rw [settle] at refused
      split at refused
      · next limited =>
        cases refused
        exact ⟨answer, rfl, limited, rfl⟩
      · cases refused
  · rintro ⟨answer, rfl, limited, rfl⟩
    rw [settle, if_pos limited]

theorem check_of_consults {quota : QuotaService} {rule : RevisedRule}
    (consults : l.Consults call quota rule) (cache : LabelCache) (now : Nat) :
    let request := l.request (cache.labelsFor now rule).1.labels call
    (l.check cache now call).result = settle call.service (quota request) ∧
      (l.check cache now call).asked.filterMap Inquiry.quotaRequest? = [request] := by
  obtain ⟨there, fetched⟩ := consults
  simp only [check, there, fetched]
  exact ⟨trivial, rfl⟩

theorem check_of_not_consults (idle : ∀ quota rule, ¬l.Consults call quota rule)
    (cache : LabelCache) (now : Nat) :
    (l.check cache now call).result = .ok () ∧
      (l.check cache now call).asked.filterMap Inquiry.quotaRequest? = [] := by
  unfold check
  cases there : l.quota? with
  | none => exact ⟨rfl, rfl⟩
  | some quota =>
    cases fetched : l.rules call.service .rateLimiting with
    | error failure => exact ⟨rfl, rfl⟩
    | ok rule? =>
      cases rule? with
      | none => exact ⟨rfl, rfl⟩
      | some rule => exact absurd ⟨there, fetched⟩ (idle quota rule)

/-- A call is refused exactly when the quota service says that it is limited, and with what it says.
The service is asked once, where there is a rule, about the labels of the rule that have a value on
the call and about the method, one argument for a label. -/
theorem refuses_by_quota (l : RateLimiter) (cache : LabelCache) (now : Nat) (call : Call) :
    let admission := l.check cache now call
    let requests := admission.asked.filterMap Inquiry.quotaRequest?
    (∀ failure, admission.result = .error failure ↔
      ∃ quota rule answer, l.Consults call quota rule ∧
        (∃ request ∈ requests, quota request = .ok answer) ∧ answer.limited = true ∧
        failure = .rateLimited call.service.display answer.info) ∧
    (∀ quota rule, l.Consults call quota rule →
      ∃ request, requests = [request] ∧
        request.service = call.service ∧ request.method = call.method ∧ request.count = 1 ∧
        (∀ a, a ∈ request.arguments ↔
          (a.label ∈ (cache.labelsFor now rule).1.labels ∧
              call.Carries l.resolver a.label a.value) ∨
            (call.method ≠ "" ∧ a = ⟨.method, call.method⟩)) ∧
        ∀ a ∈ request.arguments, ∀ b ∈ request.arguments, a.label = b.label → a = b) ∧
    ((∀ quota rule, ¬l.Consults call quota rule) → requests = []) := by
  intro admission requests
  refine ⟨fun failure => ?_, fun quota rule consults => ?_, fun idle =>
    (check_of_not_consults idle cache now).2⟩
  · by_cases consulted : ∃ quota rule, l.Consults call quota rule
    · obtain ⟨quota, rule, consults⟩ := consulted
      obtain ⟨result, asked⟩ := check_of_consults consults cache now
      have result : admission.result = _ := result
      have asked : requests = _ := asked
      rw [result, settle_eq_error_iff, asked]
      constructor
      · rintro ⟨answer, said, limited, same⟩
        exact ⟨quota, rule, answer, consults, ⟨_, List.mem_singleton_self _, said⟩, limited, same⟩
      · rintro ⟨quota', _, answer, consults', ⟨request, member, said⟩, limited, same⟩
        rw [List.mem_singleton] at member
        have known : quota = quota' := Option.some.inj (consults.1.symm.trans consults'.1)
        subst known member
        exact ⟨answer, said, limited, same⟩
    · have idle : ∀ quota rule, ¬l.Consults call quota rule :=
        fun quota rule consults => consulted ⟨quota, rule, consults⟩
      have passed : admission.result = .ok () := (check_of_not_consults idle cache now).1
      rw [passed]
      constructor
      · rintro ⟨⟩
      · rintro ⟨quota, rule, _, consults, _⟩
        exact absurd consults (idle quota rule)
  · refine ⟨_, (check_of_consults consults cache now).2, rfl, rfl, rfl, fun a => mem_argumentsOf, ?_⟩
    exact fun a first b second => argumentsOf_distinct first second

def strictQuota : QuotaService := fun request =>
  .ok ⟨request.arguments.elems.any fun a => a.label = .method, "quota exhausted"⟩

def threeLabels : RevisedRule :=
  let header (name : String) : MatchArgument := ⟨.header, name, default⟩
  let arguments := [⟨.method, "", default⟩, header "uid", header "lane"]
  ⟨"v1", .rateLimit ⟨[⟨"", none, arguments, false⟩]⟩⟩

def strict : RateLimiter where
  rules := fun _ _ => .ok (some threeLabels)
  quota? := some strictQuota
  resolver := .object

def spacedCall : Call where
  service := ⟨"default", "orders"⟩
  interface := ""
  method := " "
  attachments := .ofList [("uid", " 42"), ("lane", " ")]
  callerIp := none
  callerService := none
  arguments := []

theorem refuses_by_quota_spaced :
    let admission := strict.check (.empty labelLifetime) 0 spacedCall
    let requests := admission.asked.filterMap Inquiry.quotaRequest?
    strict.Consults spacedCall strictQuota threeLabels ∧
      requests.map (fun r => r.arguments.elems.map Argument.display) =
        [["$method= ", "$header.uid= 42"]] ∧
      admission.result = .error (.rateLimited "default/orders" "quota exhausted") := by
  intro admission requests
  obtain ⟨refused, asks, _⟩ := refuses_by_quota strict (.empty labelLifetime) 0 spacedCall
  have consults : strict.Consults spacedCall strictQuota threeLabels := ⟨rfl, rfl⟩
  obtain ⟨request, alone, _, _, _, arguments, _⟩ := asks strictQuota threeLabels consults
  have named : ⟨.method, " "⟩ ∈ request.arguments := (arguments _).mpr (.inr ⟨by decide, rfl⟩)
  have limits : strictQuota request = .ok ⟨true, "quota exhausted"⟩ := by
    have found : (request.arguments.elems.any fun a => a.label = .method) = true :=
      List.any_eq_true.mpr ⟨_, named, rfl⟩
    rw [strictQuota, found]
  refine ⟨consults, by decide +kernel, (refused _).mpr ?_⟩
  exact ⟨strictQuota, threeLabels, _, consults, ⟨request, by simp [alone], limits⟩, rfl, rfl⟩

end RateLimiter

end TrafficControl
