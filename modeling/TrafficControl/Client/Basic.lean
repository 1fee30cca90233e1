import TrafficControl.Call.RateLimit
import TrafficControl.Call.Routing
import TrafficControl.Config.Basic
import TrafficControl.Topology.Closing
import TrafficControl.Topology.Lanes

namespace TrafficControl

structure ClientParts where
  hasDiscovery : Bool
  rules? : Option RuleSource
  quota? : Option QuotaService
  route? : Option RouteService
  flow? : Option Flow

structure Client where
  config : Config
  rules : RuleSource
  quota? : Option QuotaService
  route? : Option RouteService
  flow? : Option Flow
  labels : LabelCache
  topology : Topology

namespace Client

def build (config : Config) (parts : ClientParts) : Except Failure Client :=
  if parts.hasDiscovery then
    match parts.rules? with
    | some rules =>
      .ok {
        config, rules
        quota? := parts.quota?
        route? := parts.route?
        flow? := parts.flow?
        labels := .empty labelLifetime
        topology := .empty config.retryPolicy config.includeCircuitBroken }
    | none => .error (.config "rule source is required")
  else .error (.config "discovery is required")

def resolver (c : Client) : Query.Resolver := .ofName c.config.queryParser

def gate (c : Client) : Gate := ⟨c.flow?⟩

def rateLimiter (c : Client) : RateLimiter := ⟨c.rules, c.quota?, c.resolver⟩

def router (c : Client) : Router := ⟨c.gate, c.rules, c.route?, c.resolver⟩

def check (c : Client) (now : Nat) (call : Call) : Admission :=
  c.rateLimiter.check c.labels now call

def route (c : Client) (now : Nat) (call : Call) (instances : Instances) : Routed :=
  c.router.route c.labels now call instances

def reportsOf (c : Client) (call : Call) (i : Instance) (delayMs : Nat)
    (result : Except Failure Unit) : List CallReport :=
  c.gate.reports call.service call.method i delayMs result

/-- A client is destroyed from the moment on at which its end begins. -/
def isDestroyed (c : Client) : Bool := c.topology.isShutdown

end Client

end TrafficControl
