import TrafficControl.Circuit.Basic
import TrafficControl.Narrowed

namespace TrafficControl

structure Filtered where
  left : Narrowed Instance
  asked : List Resource

structure Gate where
  flow? : Option Flow

namespace Gate

def filterBy (judge : Instance → Judgement) (instances : Instances) : Filtered :=
  ⟨.retain (fun i => (judge i).eligible) instances, instances.flatMap fun i => (judge i).asked⟩

def filter (g : Gate) (service : ServiceKey) (instances : Instances) : Filtered :=
  filterBy (Circuit.judge g.flow? service) instances

def filterMethod (g : Gate) (service : ServiceKey) (method : String) (instances : Instances) :
    Filtered :=
  filterBy (Circuit.judgeMethod g.flow? service method) instances

def reports (g : Gate) (service : ServiceKey) (method : String) (i : Instance) (delayMs : Nat)
    (result : Except Failure Unit) : List CallReport :=
  if g.flow?.isSome then [⟨.ofMethod service i method, delayMs, .ofResult result⟩] else []

end Gate

end TrafficControl
