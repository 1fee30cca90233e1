import Mathlib.Algebra.Group.Nat.Defs
import TrafficControl.Value

namespace TrafficControl.Value

theorem elemsToJson_eq (elems : List Value) : elemsToJson elems = elems.map toJson := by
  induction elems with
  | nil => rfl
  | cons v rest ih => simp [elemsToJson, ih]

theorem entriesToJson_eq (entries : List (String × Value)) :
    entriesToJson entries = entries.map fun e => (e.1, e.2.toJson) := by
  induction entries with
  | nil => rfl
  | cons e rest ih => simp [entriesToJson, ih]

theorem get?_entriesToJson (key : String) (entries : List (String × Value)) :
    Entries.get? key (entriesToJson entries) = (Entries.get? key entries).map toJson := by
  induction entries with
  | nil => rfl
  | cons e rest ih =>
    obtain ⟨k, v⟩ := e
    simp only [entriesToJson, Entries.get?, ih]
    split <;> rfl

theorem toInt_byte (b : UInt8) : (Int64.ofNat b.toNat).toInt = b.toNat := by
  have small : b.toNat < 2 ^ 8 := b.toNat_lt
  exact Int64.toInt_ofNat_of_lt (by omega)

section Access

variable {key : String} {v : Value}

def lastKey? (key : String) : Value → Option Value
  | .map entries => Entries.get? key entries
  | .record _ fields => Entries.get? key fields.reverse
  | _ => none

theorem member?_toJson (key : String) (v : Value) :
    v.toJson.member? key = (v.lastKey? key).map toJson := by
  cases v with
  | map entries => exact get?_entriesToJson key entries
  | record name fields =>
    have reversed : (entriesToJson fields).reverse = entriesToJson fields.reverse := by
      rw [entriesToJson_eq, entriesToJson_eq, List.map_reverse]
    rw [toJson, Json.member?, Entries.get?_ofList, reversed, get?_entriesToJson, lastKey?]
  | float x =>
    simp only [toJson, lastKey?, Json.ofDouble]
    split <;> rfl
  | _ => rfl

theorem element?_toJson_seq (elems : List Value) (i : Nat) :
    (seq elems).toJson.element? i = ((seq elems).index? i).map toJson := by
  rw [toJson, elemsToJson_eq, Json.element?, List.getElem?_map, index?]

theorem element?_toJson_bytes (bs : List UInt8) (i : Nat) :
    (bytes bs).toJson.element? i = ((bytes bs).index? i).map toJson := by
  simp only [toJson, index?, Json.element?, List.getElem?_map, Option.map_map,
    Function.comp_def, toInt_byte]

/-- The value is a record, and of its fields of that name the first and the last have different JSON
forms. -/
def Shadows (key : String) (v : Value) : Prop :=
  ∃ name fields first last, v = record name fields ∧ Entries.get? key fields = some first ∧
    Entries.get? key fields.reverse = some last ∧ first.toJson ≠ last.toJson

theorem lastKey?_eq_none_iff : v.lastKey? key = none ↔ v.key? key = none := by
  cases v with
  | record name fields =>
    rw [lastKey?, key?, Entries.get?_eq_none_iff, Entries.get?_eq_none_iff, List.map_reverse,
      List.mem_reverse]
  | _ => rfl

theorem Shadows.differ (shadows : v.Shadows key) :
    (v.key? key).map toJson ≠ (v.lastKey? key).map toJson := by
  obtain ⟨name, fields, first, last, rfl, begins, ends, apart⟩ := shadows
  rw [key?, lastKey?, begins, ends]
  exact fun same => apart (Option.some.inj same)

theorem shadows_of_differ (differ : (v.key? key).map toJson ≠ (v.lastKey? key).map toJson) :
    v.Shadows key := by
  cases first : v.key? key with
  | none => exact absurd (by rw [first, lastKey?_eq_none_iff.mpr first]) differ
  | some head =>
    cases last : v.lastKey? key with
    | none => exact nomatch first.symm.trans (lastKey?_eq_none_iff.mp last)
    | some tail =>
      have apart : head.toJson ≠ tail.toJson := by
        intro same
        rw [first, last, Option.map_some, Option.map_some, same] at differ
        exact differ rfl
      cases v with
      | record name fields => exact ⟨name, fields, head, tail, rfl, first, last, apart⟩
      | _ => exact absurd rfl differ

end Access

/-- A key or an index leads to the same JSON tree through the argument and through its JSON form, but
for a name that two fields of a record share, where both sides still have a value, and for the
characters of a text, which are no elements of its JSON form. -/
theorem access_commutes_iff (v : Value) (key : String) (i : Nat) :
    ((v.key? key).map toJson = v.toJson.member? key ↔ ¬ v.Shadows key) ∧
    (v.key? key = none ↔ v.toJson.member? key = none) ∧
    ((v.index? i).map toJson = v.toJson.element? i ∨ ∃ text, v = str text) := by
  refine ⟨?_, ?_, ?_⟩
  · rw [member?_toJson]
    exact ⟨fun same shadows => shadows.differ same,
      fun clear => Classical.byContradiction fun differ => clear (shadows_of_differ differ)⟩
  · rw [member?_toJson, Option.map_eq_none_iff, lastKey?_eq_none_iff]
  · cases v with
    | seq elems => exact .inl (element?_toJson_seq elems i).symm
    | bytes bs => exact .inl (element?_toJson_bytes bs i).symm
    | str text => exact .inr ⟨text, rfl⟩
    | float x =>
      left
      simp only [toJson, Json.ofDouble]
      split <;> rfl
    | _ => exact .inl rfl

def relabelled : Value := record "Order" [("id", .int 1), ("state", .null), ("id", .int 2)]

/-- Of two fields of one name the record gives the first, and its JSON form the last. -/
theorem repeated_field_differs :
    (relabelled.key? "id").map toJson = some (.int 1) ∧
      relabelled.toJson.member? "id" = some (.int 2) ∧
      (relabelled.key? "id").map toJson ≠ relabelled.toJson.member? "id" := by
  have first : (relabelled.key? "id").map toJson = some (.int 1) := rfl
  have last : relabelled.toJson.member? "id" = some (.int 2) := rfl
  refine ⟨first, last, ?_⟩
  rw [first, last]
  simp

end TrafficControl.Value
