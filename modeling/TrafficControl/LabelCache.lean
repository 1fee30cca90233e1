import TrafficControl.Label

namespace TrafficControl

structure Timed (α : Type u) where
  value : α
  since : Nat
  deriving DecidableEq, Repr

namespace Timed

def isExpired (t : Timed α) (lifetime now : Nat) : Bool := decide (lifetime ≤ now - t.since)

end Timed

def labelLifetime : Nat := 5000

/-- A computed label set. Sets with the same serial come from the same computation. -/
structure SharedLabels where
  serial : Nat
  labels : LabelSet

abbrev RevisionKey := RuleKind × String

structure LabelCache where
  lifetime : Nat
  entries : List (RevisionKey × Timed SharedLabels)
  computed : Nat

namespace LabelCache

def empty (lifetime : Nat) : LabelCache := ⟨lifetime, [], 0⟩

def keyOf (rule : RevisedRule) : RevisionKey := (rule.rule.kind, rule.revision)

def entry? (c : LabelCache) (key : RevisionKey) : Option (Timed SharedLabels) :=
  (c.entries.find? fun e => e.1 = key).map Prod.snd

def lookup? (c : LabelCache) (now : Nat) (key : RevisionKey) : Option SharedLabels :=
  match c.entry? key with
  | some t => if t.isExpired c.lifetime now then none else some t.value
  | none => none

def store (c : LabelCache) (now : Nat) (key : RevisionKey) (labels : LabelSet) : LabelCache :=
  { c with
    entries := (key, ⟨⟨c.computed, labels⟩, now⟩) :: c.entries.filter fun e => e.1 ≠ key
    computed := c.computed + 1 }

/-- The labels of a rule: those of its revision, as long as they are kept, whatever the rule says.
-/
def labelsFor (c : LabelCache) (now : Nat) (rule : RevisedRule) : SharedLabels × LabelCache :=
  match c.lookup? now (keyOf rule) with
  | some shared => (shared, c)
  | none =>
    let labels := labelsOf rule.rule
    (⟨c.computed, labels⟩, c.store now (keyOf rule) labels)

end LabelCache

end TrafficControl
