import TrafficControl.Instance.Basic

namespace TrafficControl

structure NamedInstance where
  id : Option String
  ip : String
  port : Int
  weight : Double
  healthy : Bool
  enabled : Bool
  metadata : Table String

namespace NamedInstance

def port16 (n : NamedInstance) : UInt16 :=
  if 0 ≤ n.port ∧ n.port < UInt16.size then UInt16.ofNat n.port.toNat else 0

def roundHalfUp (num den : Nat) : Nat := (2 * num + den) / (2 * den)

/-- A hundred times the weight, as a double, then as the nearest integer of 32 bits. What is not
positive has no weight. -/
def percentWeight (x : Double) : UInt32 :=
  if x.isNaN || x.isNegative then 0
  else if !x.isFinite then UInt32.ofNat (UInt32.size - 1)
  else
    let (num, den) := x.ratio
    let scaled := Double.ofRatio false (100 * num) den
    if !scaled.isFinite then UInt32.ofNat (UInt32.size - 1)
    else
      let (num, den) := scaled.ratio
      UInt32.ofNat (min (roundHalfUp num den) (UInt32.size - 1))

def toInstance (n : NamedInstance) : Instance :=
  let port := n.port16
  let id := n.id.getD (n.ip ++ ":" ++ String.ofList (Decimal.numeral port.toNat))
  let base : Instance :=
    { Instance.ofAddress id n.ip port with
      weight := percentWeight n.weight
      healthy := n.healthy
      isolated := !n.enabled
      protocol := (n.metadata.get? "protocol").getD ""
      version := (n.metadata.get? "version").getD ""
      metadata := n.metadata }
  base.loadCircuitStates

end NamedInstance

def instancesOf (listed : List NamedInstance) (includeCircuitBroken : Bool) : Instances :=
  (listed.filter fun n => includeCircuitBroken || n.healthy).map NamedInstance.toInstance

end TrafficControl
