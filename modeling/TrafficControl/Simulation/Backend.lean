import TrafficControl.Call.RateLimit
import TrafficControl.Call.Routing

namespace TrafficControl.Simulation

inductive FetchMode where
  | answers
  | fails
  | breaksOff
  deriving DecidableEq, Repr

inductive Fetched where
  | brought (instances : Instances)
  | failed
  | brokeOff

structure ServiceScript where
  instances : Instances
  fetchMode : FetchMode
  fetchDelay : Nat
  registerFailures : Nat
  registerDelay : Nat
  unregisterDelay : Nat
  unregisterFails : Bool
  /-- A registration has left a change listener. It stays. -/
  hasListener : Bool

namespace ServiceScript

def initial : ServiceScript := ⟨[], .answers, 0, 0, 0, 0, false, false⟩

def fetched (s : ServiceScript) : Fetched :=
  match s.fetchMode with
  | .answers => .brought s.instances
  | .fails => .failed
  | .breaksOff => .brokeOff

def fetchDelayMs (s : ServiceScript) : Nat :=
  if s.fetchMode = .breaksOff then 0 else s.fetchDelay

def register (s : ServiceScript) : Bool × ServiceScript :=
  if s.registerFailures = 0 then (true, { s with hasListener := true })
  else (false, { s with registerFailures := s.registerFailures - 1 })

end ServiceScript

inductive QuotaMode where
  | unlimited
  | limited (info : String)
  | fails
  | counted (max : Nat)

inductive RouteMode where
  | all
  | empty
  | fails
  | ids (ids : List String)
  | metadata (label key : String)

structure Backend where
  services : List (ServiceKey × ServiceScript)
  rules : RuleKind → Except Failure (Option RevisedRule)
  quota : QuotaMode
  quotaSeen : List (List String)
  route : RouteMode

namespace Backend

def initial : Backend := ⟨[], fun _ => .ok none, .unlimited, [], .all⟩

def service (b : Backend) (key : ServiceKey) : ServiceScript :=
  ((b.services.find? fun s => s.1 = key).map Prod.snd).getD .initial

def change (b : Backend) (key : ServiceKey) (f : ServiceScript → ServiceScript) : Backend :=
  { b with services := (key, f (b.service key)) :: b.services.filter fun s => s.1 ≠ key }

def withRule (b : Backend) (kind : RuleKind) (rule : Except Failure (Option RevisedRule)) :
    Backend :=
  { b with rules := fun k => if k = kind then rule else b.rules k }

def argumentTexts (arguments : ArgumentSet) : List String := arguments.elems.map (·.display)

def ruleSource (b : Backend) : RuleSource := fun _ kind => b.rules kind

def answerQuota (b : Backend) (request : QuotaRequest) : Except Failure QuotaAnswer :=
  match b.quota with
  | .unlimited => .ok ⟨false, ""⟩
  | .limited info => .ok ⟨true, info⟩
  | .fails => .error (.backend "quota")
  | .counted max =>
    let used := b.quotaSeen.count (argumentTexts request.arguments) + 1
    .ok ⟨decide (max < used), "used " ++ String.ofList (Decimal.numeral used)⟩

def noteQuota (b : Backend) : Inquiry → Backend
  | .quota request => { b with quotaSeen := b.quotaSeen ++ [argumentTexts request.arguments] }
  | _ => b

def answerRoute (b : Backend) (request : RouteRequest) : Except Failure (Narrowed Instance) :=
  match b.route with
  | .all => .ok .whole
  | .empty => .ok (.part [])
  | .fails => .error (.backend "route")
  | .ids ids => .ok (.part (request.instances.filter fun i => ids.contains i.id))
  | .metadata label key =>
    let value? := (request.arguments.elems.find? fun a => a.label.display == label).map (·.value)
    .ok (.part (request.instances.filter fun i => i.metadata.get? key == value?))

end Backend

end TrafficControl.Simulation
