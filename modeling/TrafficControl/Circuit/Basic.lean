import TrafficControl.Failure
import TrafficControl.Instance.Basic
import TrafficControl.Service.Basic

namespace TrafficControl

structure Resource where
  service : ServiceKey
  host : String
  port : UInt16
  method : Option String
  deriving DecidableEq, Repr

namespace Resource

def ofInstance (service : ServiceKey) (i : Instance) : Resource := ⟨service, i.host, i.port, none⟩

/-- The empty method names the instance itself. -/
def ofMethod (service : ServiceKey) (i : Instance) (method : String) : Resource :=
  ⟨service, i.host, i.port, if method = "" then none else some method⟩

end Resource

inductive Verdict where
  | pass
  | block
  | failed
  deriving DecidableEq, Repr

abbrev Flow := Resource → Verdict

structure Judgement where
  eligible : Bool
  asked : List Resource
  deriving DecidableEq, Repr

namespace Circuit

def ask (flow? : Option Flow) (r : Resource) : Judgement :=
  match flow? with
  | none => ⟨true, []⟩
  | some flow => ⟨flow r ≠ .block, [r]⟩

def judge (flow? : Option Flow) (service : ServiceKey) (i : Instance) : Judgement :=
  match i.circuitState? with
  | some state => ⟨state ≠ .opened, []⟩
  | none => ask flow? (.ofInstance service i)

/-- A method needs an eligible instance. It is excluded by its own state on the instance, and by the
flow where it has none there. -/
def judgeMethod (flow? : Option Flow) (service : ServiceKey) (method : String) (i : Instance) :
    Judgement :=
  if method = "" then judge flow? service i
  else
    match i.methodState? method with
    | some .opened => ⟨false, []⟩
    | some _ => judge flow? service i
    | none =>
      let whole := judge flow? service i
      if whole.eligible then
        let own := ask flow? (.ofMethod service i method)
        ⟨own.eligible, whole.asked ++ own.asked⟩
      else whole

end Circuit

structure CallReport where
  resource : Resource
  delayMs : Nat
  outcome : Outcome
  deriving DecidableEq, Repr

end TrafficControl
