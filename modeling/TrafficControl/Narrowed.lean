namespace TrafficControl

inductive Narrowed (α : Type u) where
  | whole
  | part (elems : List α)
  deriving DecidableEq, Repr

namespace Narrowed

variable {α : Type u}

def of (all : List α) : Narrowed α → List α
  | .whole => all
  | .part elems => elems

def isWhole : Narrowed α → Bool
  | .whole => true
  | .part _ => false

def andThen : Narrowed α → Narrowed α → Narrowed α
  | outer, .whole => outer
  | _, .part elems => .part elems

theorem of_andThen (all : List α) (outer inner : Narrowed α) :
    (outer.andThen inner).of all = inner.of (outer.of all) := by
  cases inner <;> rfl

/-- Keeps the elements that satisfy `p`, or all of them where none does. -/
def retain (p : α → Bool) (all : List α) : Narrowed α :=
  let kept := all.filter p
  if kept.length = all.length ∨ kept.isEmpty then .whole else .part kept

variable {p : α → Bool} {all : List α}

theorem of_retain :
    (retain p all).of all = if all.filter p = [] then all else all.filter p := by
  unfold retain
  by_cases complete : (all.filter p).length = all.length
  · have same : all.filter p = all :=
      List.filter_eq_self.mpr (List.length_filter_eq_length_iff.mp complete)
    simp [Narrowed.of, same]
  · by_cases failing : all.filter p = []
    · simp [Narrowed.of, failing]
    · simp [Narrowed.of, complete, failing]

theorem of_retain_eq_nil : (retain p all).of all = [] ↔ all = [] := by
  rw [of_retain]
  split
  · rfl
  · next satisfied =>
    constructor
    · exact fun failing => absurd failing satisfied
    · rintro rfl
      rfl

theorem of_mem_retain {x : α} (kept : x ∈ (retain p all).of all) (fails : p x = false) :
    ∀ y ∈ all, p y = false := by
  rw [of_retain] at kept
  split at kept
  · next failing =>
    intro y member
    simpa using List.filter_eq_nil_iff.mp failing y member
  · have holds : p x = true := (List.mem_filter.mp kept).2
    rw [fails] at holds
    cases holds

theorem retain_of_retain : retain p ((retain p all).of all) = .whole := by
  rw [of_retain]
  split
  · next failing => simp [retain, failing]
  · simp [retain]

theorem of_retain_map {q : β → Bool} {change : α → β} (same : ∀ x ∈ all, q (change x) = p x) :
    (retain q (all.map change)).of (all.map change) = ((retain p all).of all).map change := by
  have kept : (all.map change).filter q = (all.filter p).map change := by
    have alike : all.filter (q ∘ change) = all.filter p := List.filter_congr same
    rw [List.filter_map, alike]
  rw [of_retain, of_retain, kept]
  by_cases failing : all.filter p = []
  · simp [failing]
  · simp [failing]

end Narrowed

end TrafficControl
