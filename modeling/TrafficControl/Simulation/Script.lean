import TrafficControl.Simulation.Session

namespace TrafficControl.Simulation.Session

inductive Command where
  | arrange (change : Backend → Backend)
  | wait (ms : Nat)
  | subscribe (service : ServiceKey) (listener : String) (inBackground : Bool)
  | join (listener : String)
  | unsubscribe (service : ServiceKey) (listener : String)
  | notify (via service : ServiceKey) (times : Nat)
  | refresh (service : ServiceKey) (times : Nat)
  | instances (service : ServiceKey)
  | isRegistered (service : ServiceKey)
  | services
  | close (inBackground : Bool)
  | shutdown (inBackground : Bool)
  | isShutdown
  | drop
  | check (call : Call)
  | route (call : Call) (instances : Instances)
  | filter (call : Call) (instances : Instances)
  | report (call : Call) (i : Instance) (delayMs : Nat) (result : Except Failure Unit)
  | labels (rule : RevisedRule)
  | computed
  | config
  | isDestroyed
  | destroy
  | idle (onSubject : Bool)

namespace Command

def worksWithoutSubject : Command → Bool
  | .arrange _ | .wait _ | .join _ | .notify _ _ _ | .shutdown _ | .isShutdown => true
  | .idle onSubject => !onSubject
  | _ => false

end Command

inductive Reply where
  | nothing
  | gone
  | flag (b : Bool)
  | started
  | answered (answer : Answer)
  | instances (instances : Instances)
  | services (services : List ServiceKey)
  | verdict (result : Except Failure Unit)
  | narrowed (left : Narrowed Instance) (instances : Instances)
  | labels (labels : LabelSet)
  | count (n : Nat)
  | config (config : Config)

namespace Reply

def ofAnswer? : Option Answer → Reply
  | some answer => .answered answer
  | none => .nothing

end Reply

namespace Running

def addRequest (w : Running) (name : String) : Nat × Running :=
  (w.state.requests.length,
    { w with state := { w.state with requests := w.state.requests ++ [⟨name, none, none⟩] } })

def answerOf? (w : Running) (request : Nat) : Option Answer :=
  (w.state.requests[request]?).bind Request.answer?

def awaitRequest (w : Running) (request : Nat) : Running :=
  let done (w : Running) : Bool := (w.answerOf? request).isSome
  match (w.state.requests[request]?).bind Request.waiting? with
  | some listener => w.awaitCall (.subscriber listener) done
  | none => w.await done

def subscribeNow (w : Running) (service : ServiceKey) (name : String) : Reply × Running :=
  let (request, w) := w.addRequest name
  let w := w.subscribe request service
  let w := if (w.answerOf? request).isSome then w else w.awaitRequest request
  (.ofAnswer? (w.answerOf? request), w)

def subscribeLater (w : Running) (service : ServiceKey) (name : String) : Running :=
  let (request, w) := w.addRequest name
  let joinable := (name, request) :: w.state.joinable
  let w : Running := { w with state := { w.state with joinable } }
  w.withAgenda (w.agenda.push (.subscribe request service))

def join (w : Running) (name : String) : Reply × Running :=
  match w.state.joinable.lookup name with
  | some request =>
    let joinable := w.state.joinable.filter fun j => j.1 ≠ name
    let w : Running := { w with state := { w.state with joinable } }
    let w := w.await fun w => (w.answerOf? request).isSome
    (.ofAnswer? (w.answerOf? request), w)
  | none => (.nothing, w)

def refresh (w : Running) (service : ServiceKey) : Nat → Bool × Running
  | 0 => (false, w)
  | n + 1 =>
    let turn := w.topology.refresh service
    let w := w.adopt none turn
    match n with
    | 0 => (turn.result, w)
    | n + 1 => w.refresh service (n + 1)

def closeNow (w : Running) : Running :=
  let turn := w.topology.close
  (w.adopt none turn).awaitCall (.closer turn.result) fun w => !w.topology.isClosing turn.result

def shutdownNow (w : Running) : Running :=
  if w.topology.isShutdown then w
  else (w.withTopology w.topology.shutdown).await fun w => w.topology.dispatcher.isDrained

def destroyNow (w : Running) : Running :=
  if w.topology.isShutdown then w
  else
    let w := (w.withTopology w.topology.destroy).await fun w => w.topology.dispatcher.isDrained
    let closing := w.topology.nextClosing
    (w.adopt none w.topology.drained).awaitCall (.closer closing) fun w =>
      w.topology.destruction = .done

def client? (w : Running) : Option Client :=
  match w.state.subject with
  | .bare _ => none
  | .client c =>
    let b := w.state.backend
    some { c with
      rules := b.ruleSource
      quota? := c.quota?.map fun _ => b.answerQuota
      route? := c.route?.map fun _ => b.answerRoute }

def afterCall (w : Running) (c : Client) (asked : List Inquiry) (cache : LabelCache) : Running :=
  let w := asked.foldl (fun w i => w.note (.inquiry i)) w
  { w with state :=
    { w.state with
      subject := .client { c with labels := cache }
      backend := asked.foldl Backend.noteQuota w.state.backend } }

end Running

namespace Command

open Running

/-- Commands for clients only. The label cache sees no time pass. -/
def carryOutOn (c : Client) (w : Running) : Command → Reply × Running
  | .check call =>
    let admission := c.check 0 call
    (.verdict admission.result, w.afterCall c admission.asked admission.cache)
  | .route call offered =>
    let routed := c.route 0 call offered
    (.narrowed routed.left offered, w.afterCall c routed.asked routed.cache)
  | .filter call offered =>
    let filtered := c.gate.filter call.service offered
    (.narrowed filtered.left offered,
      w.afterCall c (filtered.asked.map Inquiry.check) c.labels)
  | .report call i delayMs result =>
    (.nothing, w.afterCall c ((c.reportsOf call i delayMs result).map Inquiry.report) c.labels)
  | .labels rule =>
    let (shared, cache) := c.labels.labelsFor 0 rule
    (.labels shared.labels, w.afterCall c [] cache)
  | .computed => (.count c.labels.computed, w)
  | .config => (.config c.config, w)
  | .isDestroyed => (.flag c.isDestroyed, w)
  | .destroy => (.nothing, w.destroyNow)
  | _ => (.nothing, w)

def carryOut (w : Running) : Command → Reply × Running
  | .arrange change => (.nothing, w.withBackend (change w.state.backend))
  | .wait ms => (.nothing, w.pass ms)
  | .subscribe service listener inBackground =>
    if inBackground then (.started, w.subscribeLater service listener)
    else w.subscribeNow service listener
  | .join listener => w.join listener
  | .unsubscribe service listener =>
    match w.state.listening.lookup listener with
    | some id =>
      let turn := w.topology.unsubscribe service id
      (.flag turn.result, w.adopt none turn)
    | none => (.nothing, w)
  | .notify via service times =>
    if (w.state.backend.service via).hasListener then
      (.flag true, if w.isAlive then (w.refresh service times).2 else w)
    else (.flag false, w)
  | .refresh service times =>
    let (known, w) := w.refresh service times
    (.flag known, w)
  | .instances service => ((w.topology.instances? service).elim .nothing .instances, w)
  | .isRegistered service => (.flag (w.topology.isRegistered service), w)
  | .services => (.services (ServiceKey.sort w.topology.services), w)
  | .close inBackground =>
    (.nothing, if inBackground then w.withAgenda (w.agenda.push .close) else w.closeNow)
  | .shutdown inBackground =>
    (.nothing, if inBackground then w.withAgenda (w.agenda.push .shutdown) else w.shutdownNow)
  | .isShutdown => (.flag w.topology.isShutdown, w)
  | .drop => (.nothing, { w with state := { w.state with held := false } })
  | .idle _ => (.nothing, w)
  | command =>
    match w.client? with
    | some c => carryOutOn c w command
    | none => (.nothing, w)

def carryOutIfHeld (w : Running) (c : Command) : Reply × Running :=
  if w.state.held || c.worksWithoutSubject then c.carryOut w else (.gone, w)

end Command

structure Step where
  command : Command
  settles : Bool

structure Account where
  reply : Reply
  time : Nat
  entries : List Entry

def runFrom (w : Running) : List Step → List Account
  | [] => []
  | step :: rest =>
    let (reply, w) := step.command.carryOutIfHeld w
    let w := if step.settles then w.settle else w
    ⟨reply, w.agenda.now, w.state.entries⟩ ::
      runFrom { w with state := { w.state with entries := [] } } rest

def run (subject : Subject) (steps : List Step) : List Account :=
  runFrom (.start subject .initial) steps

end TrafficControl.Simulation.Session
