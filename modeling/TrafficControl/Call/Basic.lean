import TrafficControl.Label
import TrafficControl.Query.Resolver
import TrafficControl.Service.Basic

namespace TrafficControl

structure Call where
  service : ServiceKey
  interface : String
  method : String
  attachments : Table String
  callerIp : Option String
  callerService : Option ServiceKey
  arguments : List Value

namespace Call

/-- The value of a label on a call, if it has one. Only what a query reads may be blank. -/
def labelValue? (c : Call) (resolver : Query.Resolver) : Label → Option String
  | .method => Text.nonBlank? c.method
  | .path => Text.nonBlank? c.interface
  | .callerIp => c.callerIp.bind Text.nonBlank?
  | .header name | .custom name => (c.attachments.get? name).bind Text.nonBlank?
  | .query text => resolver.read? text c.arguments
  | .callerService ns => do
    let caller ← c.callerService
    if caller.ns = ns then Text.nonBlank? caller.service else none

def argument? (c : Call) (resolver : Query.Resolver) (label : Label) : Option Argument :=
  (c.labelValue? resolver label).map fun value => ⟨label, value⟩

def argumentsOf (c : Call) (resolver : Query.Resolver) (labels : LabelSet) : ArgumentSet :=
  .ofList (labels.elems.filterMap (c.argument? resolver))

end Call

end TrafficControl
