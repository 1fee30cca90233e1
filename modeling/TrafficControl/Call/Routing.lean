import TrafficControl.Call.Inquiry
import TrafficControl.Circuit.Gate
import TrafficControl.LabelCache

namespace TrafficControl

abbrev RouteService := RouteRequest → Except Failure (Narrowed Instance)

structure Router where
  gate : Gate
  rules : RuleSource
  route? : Option RouteService
  resolver : Query.Resolver

structure Routed where
  left : Narrowed Instance
  asked : List Inquiry
  cache : LabelCache

namespace Router

/-- An empty answer stands for no answer, and then even broken instances are better than none. A
service that fails leaves those that the circuit breaker let through. -/
def settle (filtered : Narrowed Instance) (instances : Instances) :
    Except Failure (Narrowed Instance) → Narrowed Instance
  | .ok routed =>
    if (routed.of (filtered.of instances)).isEmpty then .whole else filtered.andThen routed
  | .error _ => filtered

def request (r : Router) (labels : LabelSet) (call : Call) (instances : Instances) :
    RouteRequest where
  service := call.service
  method := call.method
  arguments := call.argumentsOf r.resolver labels
  instances := instances

def route (r : Router) (cache : LabelCache) (now : Nat) (call : Call) (instances : Instances) :
    Routed :=
  if instances.isEmpty then ⟨.whole, [], cache⟩
  else
    let filtered := r.gate.filterMethod call.service call.method instances
    let checks := filtered.asked.map Inquiry.check
    match r.route? with
    | none => ⟨filtered.left, checks, cache⟩
    | some service =>
      let asked := checks ++ [Inquiry.rule call.service .routing]
      match r.rules call.service .routing with
      | .ok (some rule) =>
        let (shared, cache) := cache.labelsFor now rule
        let request := r.request shared.labels call (filtered.left.of instances)
        ⟨settle filtered.left instances (service request), asked ++ [.route request], cache⟩
      | .ok none | .error _ => ⟨filtered.left, asked, cache⟩

end Router

end TrafficControl
