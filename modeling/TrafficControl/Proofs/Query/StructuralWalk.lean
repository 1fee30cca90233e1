import TrafficControl.Proofs.Query.PlainPath
import TrafficControl.Query.Resolver

namespace TrafficControl.Query

open Value

inductive Reaches : Value → List Step → Value → Prop
  | here (v : Value) : Reaches v [] v
  | name {v child target : Value} {key : String} {rest : List Step}
    (found : v.key? key = some child) (on : Reaches child rest target) :
    Reaches v (.name key :: rest) target
  | index {v child target : Value} {i : Nat} {rest : List Step}
    (found : v.index? i = some child) (on : Reaches child rest target) :
    Reaches v (.index i :: rest) target

inductive Misses : Value → List Step → Prop
  | name {v : Value} {key : String} {rest : List Step} (absent : v.key? key = none) :
    Misses v (.name key :: rest)
  | index {v : Value} {i : Nat} {rest : List Step} (absent : v.index? i = none) :
    Misses v (.index i :: rest)
  | behind {v child : Value} {s : Step} {rest : List Step} (found : Reaches v [s] child)
    (on : Misses child rest) : Misses v (s :: rest)

section Walk

variable {steps rest : List Step} {v child target : Value} {s : Step}

theorem reaches_one_iff : Reaches v [s] child ↔ s.follow? v = some child := by
  constructor
  · intro reached
    cases reached with
    | name found on => cases on; exact found
    | index found on => cases on; exact found
  · intro found
    cases s with
    | name key => exact .name found (.here child)
    | index i => exact .index found (.here child)

theorem reaches_cons_iff :
    Reaches v (s :: rest) target ↔ ∃ child, s.follow? v = some child ∧ Reaches child rest target := by
  constructor
  · intro reached
    cases reached with
    | name found on => exact ⟨_, found, on⟩
    | index found on => exact ⟨_, found, on⟩
  · rintro ⟨child, found, on⟩
    cases s with
    | name key => exact .name found on
    | index i => exact .index found on

theorem walk?_cons (s : Step) (rest : List Step) (v : Value) :
    walk? (s :: rest) v = (s.follow? v).bind (walk? rest) := List.foldlM_cons

theorem walk?_eq_some_iff : walk? steps v = some target ↔ Reaches v steps target := by
  induction steps generalizing v with
  | nil =>
    constructor
    · intro same
      cases same
      exact .here target
    · intro reached
      cases reached
      rfl
  | cons s rest ih => rw [walk?_cons, Option.bind_eq_some_iff, reaches_cons_iff]; simp only [ih]

theorem walk?_eq_none_of_misses (misses : Misses v steps) : walk? steps v = none := by
  induction misses with
  | name absent => rw [walk?_cons, Step.follow?, absent, Option.bind_none]
  | index absent => rw [walk?_cons, Step.follow?, absent, Option.bind_none]
  | behind found _ ih => rw [walk?_cons, reaches_one_iff.mp found, Option.bind_some, ih]

theorem misses_of_walk?_eq_none (lost : walk? steps v = none) : Misses v steps := by
  induction steps generalizing v with
  | nil => cases lost
  | cons s rest ih =>
    rw [walk?_cons] at lost
    cases found : s.follow? v with
    | some child =>
      rw [found, Option.bind_some] at lost
      exact .behind (reaches_one_iff.mpr found) (ih lost)
    | none =>
      cases s with
      | name key => exact .name found
      | index i => exact .index found

theorem walk?_eq_none_iff : walk? steps v = none ↔ Misses v steps :=
  ⟨misses_of_walk?_eq_none, walk?_eq_none_of_misses⟩

end Walk

theorem display?_eq_none_iff {v : Value} : v.display? = none ↔ v = .null := by
  cases v <;> simp [display?]

theorem walk?_display?_eq_none_iff {steps : List Step} {v : Value} :
    (walk? steps v).bind display? = none ↔ Misses v steps ∨ Reaches v steps .null := by
  cases walked : walk? steps v with
  | none => simp [walk?_eq_none_iff.mp walked]
  | some target =>
    have led : Reaches v steps target := walk?_eq_some_iff.mp walked
    have complete : ¬ Misses v steps := by
      rw [← walk?_eq_none_iff, walked]
      nofun
    have only : Reaches v steps .null ↔ target = .null := by
      rw [← walk?_eq_some_iff, walked, Option.some_inj]
    rw [Option.bind_some, display?_eq_none_iff, only]
    simp [complete]

def queryText (head : List Char) (steps : List Step) : String :=
  String.ofList (head ++ pathText steps)

/-- A query of plain steps reads the display form of what they reach, whichever way its argument is
written, and it reads nothing when the argument or a step is missing or the steps reach null. -/
theorem plain_query_walks (arguments : List Value) {n : Nat} {steps : List Step} {head : List Char}
    (written : Head steps n head) (fits : n < 2 ^ 64) (plain : ∀ s ∈ steps, s.IsPlain) :
    (∀ text, Resolver.object.read? (queryText head steps) arguments = some text ↔
      ∃ v target, arguments[n]? = some v ∧ Reaches v steps target ∧ target.display? = some text) ∧
    (Resolver.object.read? (queryText head steps) arguments = none ↔
      arguments[n]? = none ∨
        ∃ v, arguments[n]? = some v ∧ (Misses v steps ∨ Reaches v steps .null)) ∧
    ∀ other, Head steps n other → Resolver.object.read? (queryText other steps) arguments =
      Resolver.object.read? (queryText head steps) arguments := by
  have walks : ∀ head, Head steps n head →
      Resolver.object.read? (queryText head steps) arguments =
        arguments[n]?.bind fun v => (walk? steps v).bind display? :=
    fun _ written => readPlain?_written arguments written fits plain
  refine ⟨?_, ?_, ?_⟩
  · intro text
    rw [walks head written, Option.bind_eq_some_iff]
    simp only [Option.bind_eq_some_iff, walk?_eq_some_iff, exists_and_left]
  · rw [walks head written]
    cases argument : arguments[n]? with
    | none => simp
    | some v =>
      rw [Option.bind_some, walk?_display?_eq_none_iff]
      simp
  · intro other also
    rw [walks other also, walks head written]

def shelves : Value := .record "Store" [("名]7", .seq [.bytes [7, 8], .str "é!"])]

theorem plain_query_walks_shelves :
    (∀ s ∈ [Step.name "名]7", .index 0, .index 1], s.IsPlain) ∧
      Resolver.object.read? "param1.名]7[0][1]" [.null, shelves] = some "8" ∧
      Resolver.object.read? "param[1].名]7[0][1]" [.null, shelves] =
        Resolver.object.read? "param1.名]7[0][1]" [.null, shelves] := by
  have plain : ∀ s ∈ [Step.name "名]7", .index 0, .index 1], s.IsPlain := by
    have name : IsPlainName "名]7".toList :=
      ⟨by decide, by decide, by decide, Text.forall_mem_of_all (by decide)⟩
    simp only [List.forall_mem_cons]
    exact ⟨name, Nat.two_pow_pos 64, Nat.one_lt_two_pow (by decide), nofun⟩
  have digits : queryText ("param".toList ++ Decimal.numeral 1)
      [.name "名]7", .index 0, .index 1] = "param1.名]7[0][1]" := by decide +kernel
  have brackets : queryText ("param".toList ++ ('[' :: (Decimal.numeral 1 ++ [']'])))
      [.name "名]7", .index 0, .index 1] = "param[1].名]7[0][1]" := by decide +kernel
  obtain ⟨reads, -, respelled⟩ :=
    plain_query_walks [.null, shelves] (.digits 1) (by decide) plain
  rw [← digits, ← brackets]
  refine ⟨plain, (reads "8").mpr ⟨shelves, .int 8, rfl, ?_, by decide +kernel⟩,
    respelled _ (.brackets 1)⟩
  exact .name rfl (.index rfl (.index rfl (.here _)))

end TrafficControl.Query
