import TrafficControl.Topology.Listening

namespace TrafficControl

namespace Topology

def finish (t : Topology) (name : LaneName) : Topology :=
  { t with dispatcher := t.dispatcher.finish name }

def begin (t : Topology) (name : LaneName) : Job → Turn Unit
  | .watch n _ =>
    match t.subscriptions[n]? with
    | some s =>
      if s.isCurrent then ⟨(), t, [.registering n s.service]⟩ else (t.finish name).quietly ()
    | none => (t.finish name).quietly ()
  | .cancel service => ⟨(), t, [.cancelling .lane service]⟩
  | .fetch n =>
    let t := t.modify n fun s => { s with fetchPending := false }
    match t.subscriptions[n]? with
    | some s =>
      if s.isCurrent then ⟨(), t, [.fetching .lane n s.service]⟩ else (t.finish name).quietly ()
    | none => (t.finish name).quietly ()

def start (t : Topology) (name : LaneName) : Turn Unit :=
  match t.dispatcher.start? name with
  | some (job, d) => { t with dispatcher := d }.begin name job
  | none => t.quietly ()

/-- A registered watch. Changes before it went unreported, so a fetch follows. Where the
subscription was removed meanwhile, the watch is cancelled at once. -/
def settleRegistered (t : Topology) (n : Nat) (s : Subscription) : Turn Unit :=
  if s.isCurrent then
    let t := t.modify n fun s => { s with registered := true }
    ⟨(), (t.scheduleFetch n).finish .registration, [.registered n s.service]⟩
  else
    ⟨(), { t with dispatcher := t.dispatcher.continueAs .registration (.cancel s.service) },
      [.registered n s.service, .cancelling .lane s.service]⟩

/-- A failed registration is tried again later, and does not hold the lane until then. The number of
the attempt has 32 bits, and after the last number comes the first. -/
def retryWatch (t : Topology) (n : Nat) (attempt : UInt32) : Turn Unit :=
  match t.dispatcher.submitDelayed? .registration (.watch n (attempt + 1)) with
  | some (ticket, d) =>
    ⟨(), { t with dispatcher := d }.finish .registration,
      [.retrying ticket n (attempt + 1) (t.retry.delay attempt.toNat)]⟩
  | none => (t.finish .registration).quietly ()

def registerReturned (t : Topology) (succeeded : Bool) : Turn Unit :=
  match t.dispatcher.registration.running with
  | some (.watch n attempt) =>
    if succeeded then
      match t.subscriptions[n]? with
      | some s => t.settleRegistered n s
      | none => (t.finish .registration).quietly ()
    else t.retryWatch n attempt
  | _ => t.quietly ()

def cancelReturned (t : Topology) : Turn Unit :=
  match t.dispatcher.registration.running with
  | some (.cancel _) => (t.finish .registration).quietly ()
  | _ => t.quietly ()

def fetchReturned (t : Topology) (fetched? : Option Instances) : Turn Unit :=
  match t.dispatcher.fetch.running with
  | some (.fetch n) =>
    let published := t.publishFetched n fetched?
    { published with after := published.after.finish .fetch }
  | _ => t.quietly ()

def fetchBrokeOff (t : Topology) : Turn Unit :=
  match t.dispatcher.fetch.running with
  | some (.fetch _) => (t.finish .fetch).quietly ()
  | _ => t.quietly ()

def retryDue (t : Topology) (ticket : Nat) : Turn Unit :=
  { t with dispatcher := t.dispatcher.expire ticket }.quietly ()

end Topology

end TrafficControl
