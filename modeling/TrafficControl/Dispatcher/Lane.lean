namespace TrafficControl

structure Lane (τ : Type u) where
  running : Option τ
  queue : List τ
  deriving DecidableEq, Repr

namespace Lane

variable {τ : Type u}

def empty : Lane τ := ⟨none, []⟩

def push (l : Lane τ) (task : τ) : Lane τ := { l with queue := l.queue ++ [task] }

def start? (l : Lane τ) : Option (τ × Lane τ) :=
  match l.running, l.queue with
  | none, task :: rest => some (task, ⟨some task, rest⟩)
  | _, _ => none

def continueAs (l : Lane τ) (task : τ) : Lane τ := { l with running := some task }

def finish (l : Lane τ) : Lane τ := { l with running := none }

def isIdle (l : Lane τ) : Bool := l.running.isNone && l.queue.isEmpty

def tasks (l : Lane τ) : List τ := l.running.toList ++ l.queue

theorem start?_eq_some_iff {l next : Lane τ} {task : τ} :
    l.start? = some (task, next) ↔
      l.running = none ∧ ∃ rest, l.queue = task :: rest ∧ next = ⟨some task, rest⟩ := by
  obtain ⟨running, queue⟩ := l
  constructor
  · intro taken
    cases running with
    | some busy => cases taken
    | none =>
      cases queue with
      | nil => cases taken
      | cons head rest =>
        cases taken
        exact ⟨rfl, rest, rfl, rfl⟩
  · rintro ⟨free, rest, head, rfl⟩
    cases free
    cases head
    rfl

theorem isIdle_iff {l : Lane τ} : l.isIdle = true ↔ l.running = none ∧ l.queue = [] := by
  simp [isIdle]

end Lane

end TrafficControl
