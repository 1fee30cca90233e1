import TrafficControl.Document.Reader
import TrafficControl.Rule.Basic

namespace TrafficControl

open Reader

namespace Matcher

def form : Form Matcher where
  name := "MatchString"
  fields :=
    [field "type" (choice MatchKind.choices) fun kind m => { m with kind },
     field "value" text fun value m => { m with value }]
  start := default
  required := false

def toJson (m : Matcher) : Json :=
  .object [("type", .str (nameOf MatchKind.choices m.kind)), ("value", .str m.value)]

end Matcher

def metadataToJson (metadata : Table Matcher) : Json :=
  .object (metadata.entries.map fun e => (e.1, e.2.toJson))

namespace Source

def form : Form Source where
  name := "Source"
  fields :=
    [field "namespace" (optional text) fun ns s => { s with ns },
     field "service" (optional text) fun service s => { s with service },
     field "metadata" (table (record Matcher.form)) fun metadata s => { s with metadata }]
  start := default
  required := false

def toJson (s : Source) : Json :=
  .object
    [("metadata", metadataToJson s.metadata), ("namespace", .ofOptionText s.ns),
     ("service", .ofOptionText s.service)]

end Source

namespace Destination

def form : Form Destination where
  name := "Destination"
  fields :=
    [field "namespace" (optional text) fun ns d => { d with ns },
     field "service" (optional text) fun service d => { d with service },
     field "metadata" (table (record Matcher.form)) fun metadata d => { d with metadata },
     field "priority" word32 fun priority d => { d with priority },
     field "weight" word32 fun weight d => { d with weight },
     field "isolate" boolean fun isolate d => { d with isolate }]
  start := default
  required := false

def toJson (d : Destination) : Json :=
  .object
    [("isolate", .bool d.isolate), ("metadata", metadataToJson d.metadata),
     ("namespace", .ofOptionText d.ns), ("priority", .int d.priority.toNat),
     ("service", .ofOptionText d.service), ("weight", .int d.weight.toNat)]

end Destination

namespace Route

def form : Form Route where
  name := "Route"
  fields :=
    [field "sources" (sequence (record Source.form)) fun sources r => { r with sources },
     field "destinations" (sequence (record Destination.form)) fun destinations r =>
      { r with destinations }]
  start := default
  required := false

def toJson (r : Route) : Json :=
  .object
    [("destinations", .array (r.destinations.map Destination.toJson)),
     ("sources", .array (r.sources.map Source.toJson))]

end Route

namespace RoutingRule

def form : Form RoutingRule where
  name := "RoutingRule"
  fields :=
    [field "inbounds" (sequence (record Route.form)) fun inbounds r => { r with inbounds },
     field "outbounds" (sequence (record Route.form)) fun outbounds r => { r with outbounds }]
  start := default
  required := false

end RoutingRule

namespace MatchArgument

def form : Form MatchArgument where
  name := "MatchArgument"
  fields :=
    [field "type" (choice ArgumentKind.choices) fun kind a => { a with kind },
     field "key" text fun key a => { a with key },
     field "value" (record Matcher.form) fun value a => { a with value }]
  start := default
  required := false

def toJson (a : MatchArgument) : Json :=
  .object
    [("key", .str a.key), ("type", .str (nameOf ArgumentKind.choices a.kind)),
     ("value", a.value.toJson)]

end MatchArgument

namespace RateLimitClause

def form : Form RateLimitClause where
  name := "RateLimitClause"
  fields :=
    [field "id" text fun id c => { c with id },
     field "method" (optional (record Matcher.form)) fun method c => { c with method },
     field "arguments" (sequence (record MatchArgument.form)) fun arguments c =>
      { c with arguments },
     field "disable" boolean fun disable c => { c with disable }]
  start := default
  required := false

def toJson (c : RateLimitClause) : Json :=
  .object
    [("arguments", .array (c.arguments.map MatchArgument.toJson)), ("disable", .bool c.disable),
     ("id", .str c.id), ("method", .ofOption (c.method.map Matcher.toJson))]

end RateLimitClause

namespace RateLimitRule

def form : Form RateLimitRule where
  name := "RateLimitRule"
  fields :=
    [field "rules" (sequence (record RateLimitClause.form)) fun rules r => { r with rules }]
  start := default
  required := false

end RateLimitRule

namespace Rule

inductive BodyKind where
  | routing
  | rateLimit
  deriving DecidableEq, Repr

def BodyKind.choices : List (String × BodyKind) :=
  [("routing", .routing), ("rate_limit", .rateLimit)]

def ofBody (kind : BodyKind) (body : Document) : Except Mismatch Rule :=
  match kind with
  | .routing => (record RoutingRule.form .setAside body).map .routing
  | .rateLimit => (record RateLimitRule.form .setAside body).map .rateLimit

/-- A document can be set aside as long as no tag stands in it. -/
def checkTags (d : Document) : Except Mismatch Unit :=
  if d.hasTag then .error .tagInside else .ok ()

def splitType (place : Place) (entries : List (Document × Document)) :
    Except Mismatch (Option BodyKind × List (Document × Document)) :=
  entries.foldlM
    (fun (found, rest) (key, value) => do
      match key with
      | .str "type" =>
        if found.isSome then .error (.duplicateField "type")
        else return (some (← choiceName BodyKind.choices place value), rest)
      | key => do
        checkTags key
        checkTags value
        return (found, rest ++ [(key, value)]))
    (none, [])

def read : Reader Rule := fun place d =>
  match d with
  | .map entries => do
    match ← splitType place entries with
    | (some kind, rest) => ofBody kind (.map rest)
    | (none, _) => .error (.missingField "type")
  | .seq [] => .error (.missingField "type")
  | .seq (head :: elems) => do
    let kind ← choiceName BodyKind.choices place head
    elems.forM checkTags
    ofBody kind (.seq elems)
  | d => .error (Reader.kind d .ruleBody)

def toJson : Rule → Json
  | .routing rule =>
    .object
      [("inbounds", .array (rule.inbounds.map Route.toJson)),
       ("outbounds", .array (rule.outbounds.map Route.toJson)), ("type", .str "routing")]
  | .rateLimit rule =>
    .object [("rules", .array (rule.rules.map RateLimitClause.toJson)), ("type", .str "rate_limit")]

end Rule

namespace RevisedRule

def form : Form RevisedRule where
  name := "RuleRef"
  fields :=
    [field "revision" text fun revision r => { r with revision },
     field "rule" Rule.read fun rule r => { r with rule }]
  start := ⟨"", .routing default⟩
  required := true

def read : Reader RevisedRule := record form

def toJson (r : RevisedRule) : Json :=
  .object [("revision", .str r.revision), ("rule", r.rule.toJson)]

end RevisedRule

end TrafficControl
