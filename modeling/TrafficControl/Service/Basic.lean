namespace TrafficControl

def defaultNamespace : String := "default"

structure ServiceKey where
  ns : String
  service : String
  deriving DecidableEq, Repr, Inhabited

namespace ServiceKey

def display (k : ServiceKey) : String := k.ns ++ "/" ++ k.service

instance : LT ServiceKey := ⟨fun a b => a.ns < b.ns ∨ a.ns = b.ns ∧ a.service < b.service⟩

instance (a b : ServiceKey) : Decidable (a < b) :=
  inferInstanceAs (Decidable (a.ns < b.ns ∨ a.ns = b.ns ∧ a.service < b.service))

def sort (keys : List ServiceKey) : List ServiceKey := keys.mergeSort fun a b => !(decide (b < a))

end ServiceKey

end TrafficControl
