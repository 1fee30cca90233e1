import TrafficControl.Instance.Basic
import TrafficControl.Proofs.Text.Scan

namespace TrafficControl

namespace CircuitState

theorem ofName?_eq_some_iff {text : String} {state : CircuitState} :
    ofName? text = some state ↔ text = state.name := by
  have listed : ∀ c ∈ choices, c.1 = c.2.name := by decide
  constructor
  · intro found
    obtain ⟨choice, seen, rfl⟩ := Option.map_eq_some_iff.mp found
    have same : choice.1 = text := by simpa using List.find?_some seen
    rw [← same, listed choice (List.mem_of_find?_eq_some seen)]
  · rintro rfl
    cases state <;> decide

theorem name_plain (state : CircuitState) : ':' ∉ state.name.toList ∧ ',' ∉ state.name.toList := by
  cases state <;> decide

end CircuitState

namespace Instance

open Text

/-- What may stand between two commas of a text of circuit states. -/
inductive CircuitToken where
  | entry (method : String) (state : CircuitState)
  | stray (text : String)

namespace CircuitToken

def text : CircuitToken → String
  | entry method state => method ++ ":" ++ state.name
  | stray text => text

def entry? : CircuitToken → Option (String × CircuitState)
  | entry method state => some (method, state)
  | stray _ => none

def Malformed (text : String) : Prop :=
  text.toList.count ':' ≠ 1 ∨
    ∃ method state, text = method ++ ":" ++ state ∧ ∀ s : CircuitState, state ≠ s.name

/-- An entry has a name without marks; any other token is malformed, the empty one among them. -/
def Plain : CircuitToken → Prop
  | entry method _ => ',' ∉ method.toList ∧ ':' ∉ method.toList
  | stray text => ',' ∉ text.toList ∧ Malformed text

end CircuitToken

def circuitText (tokens : List CircuitToken) : String :=
  ",".intercalate (tokens.map CircuitToken.text)

variable {method state text : String} {tokens : List CircuitToken} {token : CircuitToken}

theorem circuitToken?_pair (own : ':' ∉ method.toList) (own' : ':' ∉ state.toList) :
    circuitToken? (method ++ ":" ++ state).toList =
      (CircuitState.ofName? state).map fun s => (method, s) := by
  have chars : (method ++ ":" ++ state).toList = method.toList ++ ':' :: state.toList := by
    simp [String.toList_append]
  rw [circuitToken?, chars, splitOn_append own, splitOn_single own']
  simp only [String.ofList_toList]

theorem circuitToken?_of_malformed (malformed : CircuitToken.Malformed text) :
    circuitToken? text.toList = none := by
  -- with a single colon there is one way to see a method and a state in the token
  by_cases once : text.toList.count ':' = 1
  · obtain ⟨method, state, rfl, unknown⟩ := malformed.resolve_left fun other => other once
    have unread : CircuitState.ofName? state = none := by
      refine Option.eq_none_iff_forall_ne_some.mpr fun s known => unknown s ?_
      exact CircuitState.ofName?_eq_some_iff.mp known
    simp only [String.toList_append, List.count_append] at once
    have colon : ":".toList.count ':' = 1 := by decide
    have own : ':' ∉ method.toList := List.count_eq_zero.mp (by omega)
    have own' : ':' ∉ state.toList := List.count_eq_zero.mp (by omega)
    rw [circuitToken?_pair own own', unread, Option.map_none]
  · have parts := length_splitOn ':' text.toList
    rw [circuitToken?]
    split
    · next pair =>
      rw [pair] at parts
      exact absurd (Nat.succ.inj parts).symm once
    · rfl

theorem CircuitToken.Plain.read (plain : token.Plain) :
    circuitToken? token.text.toList = token.entry? := by
  cases token with
  | entry method state =>
    have named : CircuitState.ofName? state.name = some state :=
      CircuitState.ofName?_eq_some_iff.mpr rfl
    rw [CircuitToken.text, circuitToken?_pair plain.2 state.name_plain.1, named]
    rfl
  | stray text => exact circuitToken?_of_malformed plain.2

theorem CircuitToken.Plain.whole (plain : token.Plain) : ',' ∉ token.text.toList := by
  cases token with
  | entry method state =>
    simpa [CircuitToken.text, String.toList_append] using ⟨plain.1, state.name_plain.2⟩
  | stray text => exact plain.1

theorem circuitStatesOf_circuitText (plain : ∀ token ∈ tokens, token.Plain) :
    circuitStatesOf (circuitText tokens) = .ofList (tokens.filterMap CircuitToken.entry?) := by
  rw [circuitStatesOf, circuitText, String.toList_intercalate, List.map_map]
  cases tokens with
  | nil => rfl
  | cons token rest =>
    have whole : ∀ part ∈ (token :: rest).map (String.toList ∘ CircuitToken.text),
        ',' ∉ part := by
      intro part member
      obtain ⟨token, inside, rfl⟩ := List.mem_map.mp member
      exact (plain token inside).whole
    have nonempty : (token :: rest).map (String.toList ∘ CircuitToken.text) ≠ [] := by simp
    have cut := splitOn_intercalate nonempty whole
    have read : ∀ token' ∈ token :: rest,
        (circuitToken? ∘ String.toList ∘ CircuitToken.text) token' = token'.entry? :=
      fun token' member => (plain token' member).read
    have comma : ",".toList = [','] := by decide
    rw [comma, cut, List.filterMap_map, List.filterMap_congr read]

theorem circuitStatesOf_join (first second : String) :
    circuitStatesOf (first ++ "," ++ second) =
      (circuitStatesOf first).overwrite (circuitStatesOf second) := by
  have chars : (first ++ "," ++ second).toList = first.toList ++ ',' :: second.toList := by
    simp [String.toList_append]
  rw [circuitStatesOf, chars, splitOn_join, List.filterMap_append, Table.ofList_append]
  rfl

def carriedStates (i : Instance) : Table CircuitState :=
  (i.metadata.get? circuitKey).elim .empty circuitStatesOf

theorem loadCircuitStates_eq (i : Instance) :
    i.loadCircuitStates = { i with circuitStates := i.circuitStates.overwrite i.carriedStates } := by
  rw [loadCircuitStates, carriedStates]
  cases i.metadata.get? circuitKey with
  | none => rfl
  | some text => rfl

theorem circuit_text_decodes :
    (∀ first second, circuitStatesOf (first ++ "," ++ second) =
        (circuitStatesOf first).overwrite (circuitStatesOf second)) ∧
      (∀ (states : Table CircuitState) (tokens : List CircuitToken),
        (∀ token ∈ tokens, token.Plain) →
        (tokens.filterMap CircuitToken.entry?).Perm states.entries →
        circuitStatesOf (circuitText tokens) = states) ∧
      ∀ i : Instance,
        (∀ method, i.loadCircuitStates.methodState? method =
          (i.carriedStates.get? method).or (i.methodState? method)) ∧
        { i.loadCircuitStates with circuitStates := i.circuitStates } = i ∧
        i.loadCircuitStates.loadCircuitStates = i.loadCircuitStates := by
  refine ⟨circuitStatesOf_join, ?_, ?_⟩
  · intro states tokens plain same
    rw [circuitStatesOf_circuitText plain, Table.ofList_of_perm same]
  · intro i
    have loaded := loadCircuitStates_eq i
    refine ⟨?_, ?_, ?_⟩
    · intro method
      rw [loaded]
      exact Table.get?_overwrite _ _ method
    · rw [loaded]
    · have carried : i.loadCircuitStates.carriedStates = i.carriedStates := by
        rw [loaded]
        rfl
      rw [loadCircuitStates_eq i.loadCircuitStates, carried, loaded, Table.overwrite_overwrite]

def mixedTokens : List CircuitToken :=
  [.stray "", .entry "pay" .opened, .stray "pay:open", .stray "a:b:OPEN", .entry "" .halfOpen]

def mixedStates : Table CircuitState := .ofList [("", .halfOpen), ("pay", .opened)]

def mixedInstance : Instance where
  __ := (default : Instance)
  metadata := .ofList [(circuitKey, circuitText mixedTokens)]
  circuitStates := .ofList [("pay", .close), ("ship", .destroy)]

theorem circuit_text_decodes_mixed :
    ((∀ token ∈ mixedTokens, token.Plain) ∧
        (mixedTokens.filterMap CircuitToken.entry?).Perm mixedStates.entries ∧
        circuitStatesOf (circuitText mixedTokens) = mixedStates) ∧
      circuitStatesOf ("pay:OPEN" ++ "," ++ "pay:CLOSE") = .ofList [("pay", .close)] ∧
      ["", "pay", "ship"].map mixedInstance.loadCircuitStates.methodState? =
        [some .halfOpen, some .opened, some .destroy] := by
  obtain ⟨joined, decoded, loaded⟩ := circuit_text_decodes
  have plain : ∀ token ∈ mixedTokens, token.Plain := by
    have unknown : ∀ s : CircuitState, "open" ≠ s.name := by
      intro s
      cases s <;> decide
    simp only [mixedTokens, List.forall_mem_cons]
    refine ⟨⟨by decide, .inl (by decide)⟩, ⟨by decide, by decide⟩, ?_, ?_, ?_, nofun⟩
    · exact ⟨by decide, .inr ⟨"pay", "open", by decide, unknown⟩⟩
    · exact ⟨by decide, .inl (by decide)⟩
    · exact ⟨by decide, by decide⟩
  have same : (mixedTokens.filterMap CircuitToken.entry?).Perm mixedStates.entries := by decide
  refine ⟨⟨plain, same, decoded _ _ plain same⟩, ?_, ?_⟩
  · rw [joined]
    decide
  · simp only [List.map_cons, List.map_nil, (loaded mixedInstance).1]
    decide

end Instance

end TrafficControl
