import TrafficControl.Table

namespace TrafficControl

inductive RuleKind where
  | routing
  | rateLimiting
  deriving DecidableEq, Repr

def RuleKind.name : RuleKind → String
  | .routing => "ROUTING"
  | .rateLimiting => "RATE_LIMITING"

inductive MatchKind where
  | exact
  | regex
  | notEquals
  | oneOf
  | noneOf
  | range
  deriving DecidableEq, Repr, Inhabited

def MatchKind.choices : List (String × MatchKind) :=
  [("EXACT", .exact), ("REGEX", .regex), ("NOT_EQUALS", .notEquals), ("IN", .oneOf),
   ("NOT_IN", .noneOf), ("RANGE", .range)]

structure Matcher where
  kind : MatchKind
  value : String
  deriving DecidableEq, Repr

instance : Inhabited Matcher := ⟨.exact, ""⟩

structure Source where
  ns : Option String
  service : Option String
  metadata : Table Matcher
  deriving DecidableEq

instance : Inhabited Source := ⟨none, none, .empty⟩

structure Destination where
  ns : Option String
  service : Option String
  metadata : Table Matcher
  priority : UInt32
  weight : UInt32
  isolate : Bool
  deriving DecidableEq

instance : Inhabited Destination := ⟨none, none, .empty, 0, 0, false⟩

structure Route where
  sources : List Source
  destinations : List Destination
  deriving DecidableEq

instance : Inhabited Route := ⟨[], []⟩

structure RoutingRule where
  inbounds : List Route
  outbounds : List Route
  deriving DecidableEq

instance : Inhabited RoutingRule := ⟨[], []⟩

inductive ArgumentKind where
  | custom
  | method
  | header
  | query
  | callerService
  | callerIp
  deriving DecidableEq, Repr, Inhabited

def ArgumentKind.choices : List (String × ArgumentKind) :=
  [("CUSTOM", .custom), ("METHOD", .method), ("HEADER", .header), ("QUERY", .query),
   ("CALLER_SERVICE", .callerService), ("CALLER_IP", .callerIp)]

structure MatchArgument where
  kind : ArgumentKind
  key : String
  value : Matcher
  deriving DecidableEq

instance : Inhabited MatchArgument := ⟨.custom, "", default⟩

structure RateLimitClause where
  id : String
  method : Option Matcher
  arguments : List MatchArgument
  disable : Bool
  deriving DecidableEq

instance : Inhabited RateLimitClause := ⟨"", none, [], false⟩

structure RateLimitRule where
  rules : List RateLimitClause
  deriving DecidableEq

instance : Inhabited RateLimitRule := ⟨⟨[]⟩⟩

inductive Rule where
  | routing (rule : RoutingRule)
  | rateLimit (rule : RateLimitRule)
  deriving DecidableEq

def Rule.kind : Rule → RuleKind
  | .routing _ => .routing
  | .rateLimit _ => .rateLimiting

structure RevisedRule where
  revision : String
  rule : Rule
  deriving DecidableEq

def nameOf [DecidableEq α] (choices : List (String × α)) (x : α) : String :=
  ((choices.find? fun c => c.2 = x).map Prod.fst).getD ""

end TrafficControl
