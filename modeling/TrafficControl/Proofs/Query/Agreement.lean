import TrafficControl.Proofs.Query.Segments
import TrafficControl.Proofs.Value.JsonForm

namespace TrafficControl

namespace Value

inductive Part : Value → Value → Prop
  | self (v : Value) : Part v v
  | element {p e : Value} {elems : List Value} (mem : e ∈ elems) (inside : Part p e) :
    Part p (.seq elems)
  | entry {p : Value} {e : String × Value} {entries : List (String × Value)} (mem : e ∈ entries)
    (inside : Part p e.2) : Part p (.map entries)
  | field {p : Value} {f : String × Value} {name : String} {fields : List (String × Value)}
    (mem : f ∈ fields) (inside : Part p f.2) : Part p (.record name fields)

def DistinctFields (v : Value) : Prop :=
  ∀ name fields, Part (.record name fields) v → (fields.map Prod.fst).Nodup

end Value

namespace Query

open Value

variable {steps : List Step} {v target : Value}

theorem distinctFields_of_step (distinct : v.DistinctFields) {s : Step}
    (reached : s.follow? v = some target) : target.DistinctFields := by
  intro name fields inside
  cases s with
  | name key =>
    cases v <;> try cases reached
    case map entries => exact distinct name fields (.entry (Entries.mem_of_get? reached) inside)
    case record => exact distinct name fields (.field (Entries.mem_of_get? reached) inside)
  | index i =>
    cases v <;> try cases reached
    case seq elems => exact distinct name fields (.element (List.mem_of_getElem? reached) inside)
    -- a byte is an integer and a part of a text a character, neither of which holds a record
    case bytes bs =>
      obtain ⟨b, -, rfl⟩ := Option.map_eq_some_iff.mp reached
      cases inside
    case str text =>
      obtain ⟨c, -, rfl⟩ := Option.map_eq_some_iff.mp reached
      cases inside

theorem child?_toJson {s : Step} (distinct : v.DistinctFields)
    (noText : ∀ i text, s = .index i → v ≠ .str text) :
    s.child? v.toJson = (s.follow? v).map toJson := by
  cases s with
  | name key =>
    have only : v.lastKey? key = v.key? key := by
      cases v with
      | record name fields => exact Entries.get?_reverse (distinct name fields (.self _))
      | _ => rfl
    rw [Step.child?, Step.follow?, member?_toJson, only]
  | index i =>
    cases v with
    | seq elems => exact element?_toJson_seq elems i
    | bytes bs => exact element?_toJson_bytes bs i
    | str text => exact absurd rfl (noText i text rfl)
    | float x =>
      simp only [Step.child?, Step.follow?, toJson, Value.index?, Json.ofDouble]
      split <;> rfl
    | _ => rfl

def IndexesNoText (steps : List Step) (v : Value) : Prop :=
  ∀ front i back text, steps = front ++ .index i :: back → walk? front v ≠ some (.str text)

theorem walkNodes?_toJson (distinct : v.DistinctFields) (noText : IndexesNoText steps v) :
    walkNodes? steps v.toJson = (walk? steps v).map toJson := by
  induction steps generalizing v with
  | nil => rfl
  | cons s rest ih =>
    have here : s.child? v.toJson = (s.follow? v).map toJson := by
      apply child?_toJson distinct
      rintro i text rfl rfl
      exact noText [] i rest text rfl rfl
    rw [walkNodes?, walk?, List.foldlM_cons, List.foldlM_cons, here]
    cases reached : s.follow? v with
    | none => rfl
    | some target =>
      refine ih (distinctFields_of_step distinct reached) ?_
      rintro front i back text rfl
      have beyond := noText (s :: front) i back text rfl
      simpa [walk?, reached] using beyond

theorem intNumeral_natCast (n : Nat) : Decimal.intNumeral n = Decimal.numeral n := by
  have unsigned : ¬ (n : Int) < 0 := by omega
  simp [Decimal.intNumeral, unsigned]

theorem showNodes?_toJson (noFloat : ∀ x, v ≠ .float x) : showNodes? [v.toJson] = v.display? := by
  cases v with
  | float x => exact absurd rfl (noFloat x)
  | uint n => simp [showNodes?, toJson, display?, Json.render, intNumeral_natCast]
  | _ => simp [showNodes?, toJson, display?, Json.render]

theorem readPlain?_canonical (arguments : List Value) {n : Nat} {head : List Char}
    (written : Head steps n head) (fits : n < 2 ^ 64) (canonical : ∀ s ∈ steps, s.IsCanonical) :
    readPlain? (String.ofList (head ++ pathText steps)) arguments =
      arguments[n]?.bind fun v => (walk? steps v).bind display? :=
  readPlain?_written arguments written fits fun s listed => (canonical s listed).isPlain

theorem readJsonPath?_canonical (arguments : List Value) {n : Nat} {head : List Char}
    (written : Head steps n head) (fits : n < 2 ^ 64) (canonical : ∀ s ∈ steps, s.IsCanonical) :
    readJsonPath? (String.ofList (head ++ pathText steps)) arguments =
      arguments[n]?.bind fun v => showNodes? (walkNodes? steps v.toJson).toList := by
  have plain : ∀ s ∈ steps, s.IsPlain := fun s listed => (canonical s listed).isPlain
  unfold readJsonPath?
  rw [String.toList_ofList, splitParam?_written written fits plain]
  have trimmed := Text.trimChars_eq_self (visible_relative plain)
  cases argument : arguments[n]? <;>
    simp [argument, trimmed, withoutLength_relative canonical, ofText?_relative canonical,
      JsonPath.query, follow_segmentsOf]

/-- Both resolvers give the same answer to a canonical query, also where it is none. -/
theorem resolvers_agree (arguments : List Value) {n : Nat} {steps : List Step} {head : List Char}
    (written : Head steps n head) (fits : n < 2 ^ 64) (canonical : ∀ s ∈ steps, s.IsCanonical)
    (distinct : ∀ v, arguments[n]? = some v → v.DistinctFields)
    (noText : ∀ v, arguments[n]? = some v → IndexesNoText steps v)
    (noFloat : ∀ v, arguments[n]? = some v → ∀ x, walk? steps v ≠ some (.float x)) :
    Resolver.object.read? (String.ofList (head ++ pathText steps)) arguments =
      Resolver.jsonPath.read? (String.ofList (head ++ pathText steps)) arguments := by
  rw [Resolver.read?, Resolver.read?, readPlain?_canonical arguments written fits canonical,
    readJsonPath?_canonical arguments written fits canonical]
  cases argument : arguments[n]? with
  | none => rfl
  | some v =>
    have nodes := walkNodes?_toJson (distinct v argument) (noText v argument)
    simp only [Option.bind_some, nodes]
    cases reached : walk? steps v with
    | none => rfl
    | some target =>
      have noFloat : ∀ x, target ≠ .float x := by
        rintro x rfl
        exact noFloat v argument x reached
      exact (showNodes?_toJson noFloat).symm

def order : Value :=
  .record "Order" [("items", .seq [.record "Item" [("sku", .str "A-1"), ("count", .int 2)]]),
    ("note", .null)]

theorem distinctFields_order : order.DistinctFields := by
  intro name fields inside
  cases inside with
  | self => decide
  | field listed inside =>
    rcases List.mem_pair.mp listed with rfl | rfl
    · cases inside with
      | element listed inside =>
        obtain rfl := List.mem_singleton.mp listed
        cases inside with
        | self => decide
        | field listed inside => rcases List.mem_pair.mp listed with rfl | rfl <;> cases inside
    · cases inside

theorem resolvers_agree_order :
    Resolver.object.read? "param[1].items[0].sku" [.null, order] = some "A-1" ∧
      Resolver.object.read? "param[1].items[0].sku" [.null, order] =
        Resolver.jsonPath.read? "param[1].items[0].sku" [.null, order] := by
  refine ⟨by decide +kernel, ?_⟩
  have query : String.ofList ("param".toList ++ ('[' :: (Decimal.numeral 1 ++ [']'])) ++
      pathText [.name "items", .index 0, .name "sku"]) = "param[1].items[0].sku" := by
    decide +kernel
  have items : IsShorthand "items".toList := by
    refine ⟨⟨'i', _, rfl, by decide⟩, ?_, ?_⟩ <;> exact Text.forall_mem_of_all (by decide)
  have sku : IsShorthand "sku".toList := by
    refine ⟨⟨'s', _, rfl, by decide⟩, ?_, ?_⟩ <;> exact Text.forall_mem_of_all (by decide)
  rw [← query]
  apply resolvers_agree [.null, order] (.brackets 1) (by decide)
  · simp only [List.forall_mem_cons]
    exact ⟨items, Nat.two_pow_pos 53, sku, nofun⟩
  · rintro v ⟨⟩
    exact distinctFields_order
  · rintro v ⟨⟩ front i back text split reached
    -- the index stands behind the first step
    obtain ⟨rfl⟩ : front = [.name "items"] := by
      rcases front with _ | ⟨a, _ | ⟨b, _ | ⟨c, front⟩⟩⟩ <;> simp_all
    simp [walk?, Step.follow?, key?, order, Entries.get?] at reached
  · rintro v ⟨⟩ x reached
    simp [walk?, Step.follow?, key?, Value.index?, order, Entries.get?] at reached

end Query

end TrafficControl
