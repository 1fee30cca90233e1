import TrafficControl.Config.Basic
import TrafficControl.Document.Reader

namespace TrafficControl.Config

open Reader

def form : Form Config where
  name := "GovernanceConfig"
  fields :=
    [field "address" text fun address c => { c with address },
     field "namespace" text fun ns c => { c with ns },
     field "token" (optional text) fun token c => { c with token },
     field "group" (optional text) fun group c => { c with group },
     field "username" (optional text) fun username c => { c with username },
     field "password" (optional text) fun password c => { c with password },
     field "query_parser" text fun queryParser c => { c with queryParser },
     field "include_circuit_broken" boolean fun includeCircuitBroken c =>
      { c with includeCircuitBroken },
     field "watch_retry_initial_ms" word64 fun watchRetryInitialMs c =>
      { c with watchRetryInitialMs },
     field "watch_retry_max_ms" word64 fun watchRetryMaxMs c => { c with watchRetryMaxMs }]
  start := default
  required := false

def read : Reader Config := record form

def toJson (c : Config) : Json :=
  .object
    [("address", .str c.address), ("group", .ofOptionText c.group),
     ("include_circuit_broken", .bool c.includeCircuitBroken), ("namespace", .str c.ns),
     ("password", .ofOptionText c.password), ("query_parser", .str c.queryParser),
     ("token", .ofOptionText c.token), ("username", .ofOptionText c.username),
     ("watch_retry_initial_ms", .int c.watchRetryInitialMs.toNat),
     ("watch_retry_max_ms", .int c.watchRetryMaxMs.toNat)]

end TrafficControl.Config
