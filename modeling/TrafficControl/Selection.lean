import TrafficControl.Checked
import TrafficControl.Instance.Basic

namespace TrafficControl.Selection

def totalWeight (instances : Instances) : Nat :=
  instances.foldr (fun i total => i.weight.toNat + total) 0

def draws (instances : Instances) : Nat :=
  if totalWeight instances = 0 then instances.length else totalWeight instances

def atOffset? : Instances → Nat → Option Instance
  | [], _ => none
  | i :: rest, offset =>
    if offset < i.weight.toNat then some i else atOffset? rest (offset - i.weight.toNat)

def select? (instances : Instances) (draw : Nat) : Option Instance :=
  if totalWeight instances = 0 then instances[draw]?
  else (atOffset? instances draw).or instances.getLast?

def candidates (instances : Instances) : Instances :=
  if totalWeight instances = 0 then instances else instances.filter fun i => 0 < i.weight.toNat

inductive Choice where
  | nothing
  | position (i : Nat)
  /-- The number lies behind all shares, so that the last instance is taken. -/
  | fallback
  | outOfRange
  deriving DecidableEq, Repr

namespace Choice

def next : Choice → Choice
  | position i => position (i + 1)
  | other => other

def taken? (instances : Instances) : Choice → Option Instance
  | nothing | outOfRange => none
  | position i => instances[i]?
  | fallback => instances.getLast?

end Choice

def wordTotal? (instances : Instances) : Option UInt64 :=
  instances.foldlM (fun total i => Checked.add? total i.weight.toUInt64) 0

/-- Takes one weight after the other off the offset, until the offset is below the next one. -/
def walk : Instances → UInt64 → Choice
  | [], _ => .fallback
  | i :: rest, offset =>
    if offset < i.weight.toUInt64 then .position 0
    else
      match Checked.sub? offset i.weight.toUInt64 with
      | some offset => (walk rest offset).next
      | none => .outOfRange

def choose (instances : Instances) (draw : UInt64) : Choice :=
  if instances.isEmpty then .nothing
  else
    match wordTotal? instances with
    | none => .outOfRange
    | some total => if total = 0 then .position draw.toNat else walk instances draw

end TrafficControl.Selection
