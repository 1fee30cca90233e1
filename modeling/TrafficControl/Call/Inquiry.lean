import TrafficControl.Call.Basic
import TrafficControl.Circuit.Basic

namespace TrafficControl

structure QuotaRequest where
  service : ServiceKey
  method : String
  arguments : ArgumentSet
  count : Nat

structure QuotaAnswer where
  limited : Bool
  info : String
  deriving DecidableEq, Repr

structure RouteRequest where
  service : ServiceKey
  method : String
  arguments : ArgumentSet
  instances : Instances

inductive Inquiry where
  | rule (service : ServiceKey) (kind : RuleKind)
  | quota (request : QuotaRequest)
  | route (request : RouteRequest)
  | check (resource : Resource)
  | report (call : CallReport)

abbrev RuleSource := ServiceKey → RuleKind → Except Failure (Option RevisedRule)

end TrafficControl
