import TrafficControl.Client.Basic
import TrafficControl.Simulation.Agenda
import TrafficControl.Simulation.Backend

namespace TrafficControl.Simulation.Session

inductive Subject where
  | bare (topology : Topology)
  | client (client : Client)

namespace Subject

def topology : Subject → Topology
  | .bare t => t
  | .client c => c.topology

def withTopology : Subject → Topology → Subject
  | .bare _, t => .bare t
  | .client c, t => .client { c with topology := t }

end Subject

inductive Entry where
  | fetch (service : ServiceKey) (time : Nat) (includeBroken : Bool) (mode : FetchMode)
  | register (service : ServiceKey) (time : Nat) (succeeds : Bool)
  | unregister (service : ServiceKey) (time : Nat) (succeeds : Bool)
  | inquiry (inquiry : Inquiry)
  | seen (listener : String) (service : ServiceKey) (instances : Instances)

inductive Answer where
  | listening
  | refused
  | brokeOff
  deriving DecidableEq, Repr

structure Request where
  name : String
  waiting? : Option Nat
  answer? : Option Answer

structure State where
  subject : Subject
  held : Bool
  backend : Backend
  names : List (Nat × String)
  listening : List (String × Nat)
  requests : List Request
  joinable : List (String × Nat)
  /-- The call that the script itself waits for. -/
  foreground? : Option Caller
  entries : List Entry

inductive Errand where
  | work (lane : LaneName)
  | fetched (caller : Caller) (fetched : Fetched)
  | registered (succeeded : Bool)
  | cancelled (caller : Caller)
  | arm (ticket delayMs : Nat)
  | retry (ticket : Nat)
  | subscribe (request : Nat) (service : ServiceKey)
  | close
  | shutdown

namespace Errand

def isWork (lane : LaneName) : Errand → Bool
  | .work l => l = lane
  | _ => false

def holdsTopology : Errand → Bool
  | .subscribe _ _ | .close => true
  | _ => false

end Errand

abbrev Running := World State Errand

namespace Running

def start (subject : Subject) (backend : Backend) : Running :=
  ⟨⟨subject, true, backend, [], [], [], [], none, []⟩, .empty⟩

def topology (w : Running) : Topology := w.state.subject.topology

def withTopology (w : Running) (t : Topology) : Running :=
  { w with state := { w.state with subject := w.state.subject.withTopology t } }

def withBackend (w : Running) (b : Backend) : Running :=
  { w with state := { w.state with backend := b } }

def withAgenda (w : Running) (a : Agenda Errand) : Running := { w with agenda := a }

def note (w : Running) (e : Entry) : Running :=
  { w with state := { w.state with entries := w.state.entries ++ [e] } }

def nameOf (w : Running) (listener : Nat) : String := (w.state.names.lookup listener).getD ""

def attend (w : Running) : Happening → Running
  | .fetching caller _ service =>
    let script := w.state.backend.service service
    let w := w.note (.fetch service w.agenda.now w.topology.includeBroken script.fetchMode)
    w.withAgenda (w.agenda.after script.fetchDelayMs (.fetched caller script.fetched))
  | .registering _ service =>
    let script := w.state.backend.service service
    let (succeeds, after) := script.register
    let w := (w.note (.register service w.agenda.now succeeds)).withBackend
      (w.state.backend.change service fun _ => after)
    w.withAgenda (w.agenda.after script.registerDelay (.registered succeeds))
  | .registered _ _ => w
  | .cancelling caller service =>
    let script := w.state.backend.service service
    let w := w.note (.unregister service w.agenda.now (!script.unregisterFails))
    w.withAgenda (w.agenda.after script.unregisterDelay (.cancelled caller))
  | .delivered listener service instances => w.note (.seen (w.nameOf listener) service instances)
  | .retrying ticket _ _ delay => w.withAgenda (w.agenda.push (.arm ticket (delay / nanosPerMilli)))

def wakeLane (own? : Option LaneName) (w : Running) (lane : LaneName) : Running :=
  if w.agenda.ready.any (·.isWork lane) then w
  else if own? = some lane then w.withAgenda (w.agenda.pushFront (.work lane))
  else w.withAgenda (w.agenda.push (.work lane))

/-- Lanes with something to do are woken. The lane that a step was taken on goes on at once. -/
def wakeLanes (w : Running) (own? : Option LaneName) : Running :=
  w.topology.dispatcher.startable.foldl (wakeLane own?) w

def adopt (w : Running) (own? : Option LaneName) (turn : Turn α) : Running :=
  (turn.happenings.foldl attend (w.withTopology turn.after)).wakeLanes own?

def modifyRequest (w : Running) (n : Nat) (f : Request → Request) : Running :=
  { w with state := { w.state with requests := w.state.requests.modify n f } }

def answerRequest (w : Running) (n : Nat) (answer : Answer) : Running :=
  w.modifyRequest n fun r => { r with answer? := some answer }

def rememberName (w : Running) (listener : Nat) (name : String) : Running :=
  { w with state := { w.state with names := (listener, name) :: w.state.names } }

def rememberListener (w : Running) (name : String) (listener : Nat) : Running :=
  { w with state := { w.state with listening := (name, listener) :: w.state.listening } }

def requestOf? (w : Running) (listener : Nat) : Option (Nat × Request) :=
  (w.state.requests.findIdx? fun r => r.waiting? == some listener).bind fun n =>
    w.state.requests[n]?.map fun r => (n, r)

def subscribe (w : Running) (n : Nat) (service : ServiceKey) : Running :=
  match w.state.requests[n]? with
  | some request =>
    let turn := w.topology.subscribe service
    match turn.result with
    | .refused => w.answerRequest n .refused
    | .joined listener =>
      (((w.rememberName listener request.name).adopt none turn).rememberListener request.name
        listener).answerRequest n .listening
    | .opening listener =>
      ((w.rememberName listener request.name).adopt none turn).modifyRequest n fun r =>
        { r with waiting? := some listener }
  | none => w

def firstFetched (w : Running) (listener : Nat) (fetched : Fetched) : Running :=
  let (answer, turn) :=
    match fetched with
    | .brought instances =>
      (Answer.listening, w.topology.firstFetchReturned listener (some instances))
    | .failed => (.listening, w.topology.firstFetchReturned listener none)
    | .brokeOff => (.brokeOff, w.topology.firstFetchBrokeOff listener)
  match w.requestOf? listener with
  | some (n, request) =>
    let w := (w.adopt none turn).answerRequest n answer
    if answer = .listening then w.rememberListener request.name listener else w
  | none => w.adopt none turn

def perform (e : Errand) (w : Running) : Running :=
  match e with
  | .work lane => w.adopt (some lane) (w.topology.start lane)
  | .fetched .lane (.brought instances) =>
    w.adopt (some .fetch) (w.topology.fetchReturned (some instances))
  | .fetched .lane .failed => w.adopt (some .fetch) (w.topology.fetchReturned none)
  | .fetched .lane .brokeOff => w.adopt (some .fetch) w.topology.fetchBrokeOff
  | .fetched (.subscriber listener) fetched => w.firstFetched listener fetched
  | .fetched (.closer _) _ => w
  | .registered succeeded => w.adopt (some .registration) (w.topology.registerReturned succeeded)
  | .cancelled .lane => w.adopt (some .registration) w.topology.cancelReturned
  | .cancelled (.closer number) => w.adopt none (w.topology.closeReturned number)
  | .cancelled (.subscriber _) => w
  | .arm ticket delayMs => w.withAgenda (w.agenda.after delayMs (.retry ticket))
  | .retry ticket => w.adopt none (w.topology.retryDue ticket)
  | .subscribe request service => w.subscribe request service
  | .close => w.adopt none w.topology.close
  | .shutdown => w.withTopology w.topology.shutdown

/-- What the script waits for goes before everything else that is due with it. -/
def isUrgent (s : State) : Errand → Bool
  | .fetched caller _ | .cancelled caller => s.foreground? == some caller
  | _ => false

def dynamics : Dynamics State Errand := ⟨perform, isUrgent⟩

def await (w : Running) (done : Running → Bool) : Running := dynamics.await done w

def settle (w : Running) : Running := dynamics.settle w

def pass (w : Running) (ms : Nat) : Running := dynamics.pass ms w

def focus (w : Running) (caller? : Option Caller) : Running :=
  { w with state := { w.state with foreground? := caller? } }

def awaitCall (w : Running) (caller : Caller) (done : Running → Bool) : Running :=
  ((w.focus (some caller)).await done).focus none

/-- Someone could still see the topology change: the script, or work on it that is under way. -/
def isAlive (w : Running) : Bool :=
  w.state.held || !w.topology.dispatcher.isDrained || !w.topology.dispatcher.delayed.isEmpty ||
    !w.topology.openings.isEmpty || !w.topology.closings.isEmpty ||
    w.agenda.ready.any Errand.holdsTopology

end Running

end TrafficControl.Simulation.Session
