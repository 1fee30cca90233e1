import TrafficControl.Call.Inquiry
import TrafficControl.LabelCache

namespace TrafficControl

abbrev QuotaService := QuotaRequest → Except Failure QuotaAnswer

structure RateLimiter where
  rules : RuleSource
  quota? : Option QuotaService
  resolver : Query.Resolver

structure Admission where
  result : Except Failure Unit
  asked : List Inquiry
  cache : LabelCache

namespace RateLimiter

/-- The labels with a value on the call, and its method unless that is empty. -/
def argumentsOf (l : RateLimiter) (labels : LabelSet) (call : Call) : ArgumentSet :=
  let arguments := call.argumentsOf l.resolver labels
  if call.method = "" then arguments else arguments.insert ⟨.method, call.method⟩

def request (l : RateLimiter) (labels : LabelSet) (call : Call) : QuotaRequest where
  service := call.service
  method := call.method
  arguments := l.argumentsOf labels call
  count := 1

def settle (service : ServiceKey) : Except Failure QuotaAnswer → Except Failure Unit
  | .ok answer =>
    if answer.limited then .error (.rateLimited service.display answer.info) else .ok ()
  | .error _ => .ok ()

def check (l : RateLimiter) (cache : LabelCache) (now : Nat) (call : Call) : Admission :=
  match l.quota? with
  | none => ⟨.ok (), [], cache⟩
  | some quota =>
    let ruleAsked := Inquiry.rule call.service .rateLimiting
    match l.rules call.service .rateLimiting with
    | .ok (some rule) =>
      let (shared, cache) := cache.labelsFor now rule
      let request := l.request shared.labels call
      ⟨settle call.service (quota request), [ruleAsked, .quota request], cache⟩
    | .ok none | .error _ => ⟨.ok (), [ruleAsked], cache⟩

end RateLimiter

end TrafficControl
