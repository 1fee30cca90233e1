import TrafficControl.Document.Reader
import TrafficControl.Instance.Basic

namespace TrafficControl.Instance

open Reader

def form : Form Instance where
  name := "Instance"
  fields :=
    [field "id" text fun id i => { i with id },
     field "host" text fun host i => { i with host },
     field "port" word16 fun port i => { i with port },
     field "protocol" text fun protocol i => { i with protocol },
     field "version" text fun version i => { i with version },
     field "weight" word32 fun weight i => { i with weight },
     field "healthy" boolean fun healthy i => { i with healthy },
     field "isolated" boolean fun isolated i => { i with isolated },
     field "metadata" (table text) fun metadata i => { i with metadata },
     field "circuit_breakers" (table (choice CircuitState.choices)) fun circuitStates i =>
      { i with circuitStates }]
  start := default
  required := false

def read : Reader Instance := record form

def toJson (i : Instance) : Json :=
  .object
    [("circuit_breakers", .object (i.circuitStates.entries.map fun e => (e.1, .str e.2.name))),
     ("healthy", .bool i.healthy), ("host", .str i.host), ("id", .str i.id),
     ("isolated", .bool i.isolated),
     ("metadata", .object (i.metadata.entries.map fun e => (e.1, .str e.2))),
     ("port", .int i.port.toNat), ("protocol", .str i.protocol), ("version", .str i.version),
     ("weight", .int i.weight.toNat)]

end TrafficControl.Instance
