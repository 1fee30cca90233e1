import TrafficControl.Topology.Basic

namespace TrafficControl

inductive Listening where
  | refused
  | joined (listener : Nat)
  | opening (listener : Nat)
  deriving DecidableEq, Repr

namespace Topology

def join (t : Topology) (n : Nat) (s : Subscription) : Turn Listening where
  result := .joined t.nextListener
  after := { t with nextListener := t.nextListener + 1 }.modify n fun s =>
    { s with listeners := s.listeners ++ [t.nextListener] }
  happenings := (s.snapshot?.map fun instances =>
    Happening.delivered t.nextListener s.service instances).toList

def openFor (t : Topology) (service : ServiceKey) : Turn Listening where
  result := .opening t.nextListener
  after :=
    { t with
      subscriptions := t.subscriptions ++ [.opened service t.nextListener]
      openings := t.openings ++ [⟨t.nextListener, t.subscriptions.length⟩]
      nextListener := t.nextListener + 1 }
  happenings := [.fetching (.subscriber t.nextListener) t.subscriptions.length service]

def subscribe (t : Topology) (service : ServiceKey) : Turn Listening :=
  if t.isShutdown then t.quietly .refused
  else
    match t.current? service with
    | some (n, s) => t.join n s
    | none => t.openFor service

def takeOpening? (t : Topology) (listener : Nat) : Option (Nat × Topology) :=
  (t.openings.find? fun o => o.listener = listener).map fun o =>
    (o.subscription, { t with openings := t.openings.filter fun o => o.listener ≠ listener })

def submitJob (t : Topology) (job : Job) : Topology :=
  match t.dispatcher.submit? .registration job with
  | some d => { t with dispatcher := d }
  | none => t

def firstFetchReturned (t : Topology) (listener : Nat) (fetched? : Option Instances) : Turn Unit :=
  match t.takeOpening? listener with
  | some (n, t) =>
    let published := t.publishFetched n fetched?
    { published with after := published.after.submitJob (.watch n 0) }
  | none => t.quietly ()

/-- The first fetch of a subscription broke off, and its listener's request with it. The
subscription stays as it is. -/
def firstFetchBrokeOff (t : Topology) (listener : Nat) : Turn Unit :=
  match t.takeOpening? listener with
  | some (_, t) => t.quietly ()
  | none => t.quietly ()

/-- Removes a subscription; the result tells whether its watch has to be cancelled. That is so once
for each watch. -/
def remove (t : Topology) (n : Nat) : Bool × Topology :=
  ((t.subscriptions[n]?).any Subscription.registered,
    t.modify n fun s => { s with isCurrent := false, registered := false })

def unsubscribe (t : Topology) (service : ServiceKey) (listener : Nat) : Turn Bool :=
  match t.current? service with
  | some (n, s) =>
    if listener ∈ s.listeners then
      let left := s.listeners.filter (· ≠ listener)
      if left.isEmpty then
        match (t.modify n fun s => { s with listeners := left }).remove n with
        | (true, t) => (t.submitJob (.cancel service)).quietly true
        | (false, t) => t.quietly true
      else (t.modify n fun s => { s with listeners := left }).quietly true
    else t.quietly false
  | none => t.quietly false

end Topology

end TrafficControl
