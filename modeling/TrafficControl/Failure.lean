namespace TrafficControl

inductive Failure where
  | backend (text : String)
  | config (text : String)
  | rateLimited (service info : String)
  | timeout (text : String)
  | shutdown
  | other (text : String)
  deriving DecidableEq, Repr, Inhabited

namespace Failure

def message : Failure → String
  | .backend text => "Backend : " ++ text
  | .config text => "Config : " ++ text
  | .rateLimited service info => "RateLimited : service " ++ service ++ ", info " ++ info
  | .timeout text => "Timeout : " ++ text
  | .shutdown => "Shutdown"
  | .other text => "Error : " ++ text

def isRateLimited : Failure → Bool
  | .rateLimited _ _ => true
  | _ => false

def isTimeout : Failure → Bool
  | .timeout _ => true
  | _ => false

end Failure

/-- What a finished call counts as. A refusal by rate limiting is no failure of the callee. -/
inductive Outcome where
  | success
  | fail
  | timeout
  | flowControl
  deriving DecidableEq, Repr

namespace Outcome

def ofResult : Except Failure Unit → Outcome
  | .ok () => .success
  | .error (.rateLimited _ _) => .flowControl
  | .error (.timeout _) => .timeout
  | .error _ => .fail

def code : Outcome → Int
  | .success => 0
  | _ => -1

def name : Outcome → String
  | .success => "Success"
  | .fail => "Fail"
  | .timeout => "Timeout"
  | .flowControl => "FlowControl"

end Outcome

end TrafficControl
