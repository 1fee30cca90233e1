import TrafficControl.Proofs.Value.JsonForm
import TrafficControl.Query.Resolver

namespace TrafficControl

namespace Json

inductive NumbersFit : Json → Prop
  | null : NumbersFit .null
  | bool (b : Bool) : NumbersFit (.bool b)
  | int (n : Int) (low : minInteger ≤ n) (high : n ≤ maxInteger) : NumbersFit (.int n)
  | float (x : Double) (finite : x.isFinite = true) : NumbersFit (.float x)
  | str (s : String) : NumbersFit (.str s)
  | array (elems : List Json) (each : ∀ e ∈ elems, NumbersFit e) : NumbersFit (.array elems)
  | object (members : List (String × Json)) (each : ∀ m ∈ members, NumbersFit m.2) :
    NumbersFit (.object members)

theorem WellFormed.numbersFit {j : Json} (formed : j.WellFormed) : j.NumbersFit := by
  induction formed with
  | null => exact .null
  | bool b => exact .bool b
  | int n low high => exact .int n low high
  | float x finite => exact .float x finite
  | str s => exact .str s
  | array elems _ ih => exact .array elems ih
  | object members _ _ ih => exact .object members ih

theorem numbersFit_ofDouble (x : Double) : (ofDouble x).NumbersFit := by
  rw [ofDouble]
  split
  · next finite => exact .float x finite
  · exact .null

end Json

namespace Value

open Json (minInteger maxInteger NumbersFit)

section Widths

theorem minInteger_eq : minInteger = -9223372036854775808 := by decide

theorem maxInteger_eq : maxInteger = 18446744073709551615 := by decide

theorem maxSigned_eq : Int64.maxValue.toInt = 9223372036854775807 := by decide

theorem numbersFit_signed (n : Int64) : NumbersFit (.int n.toInt) := by
  have low := n.le_toInt
  have high := n.toInt_lt
  refine .int _ ?_ ?_
  · rw [minInteger_eq]; omega
  · rw [maxInteger_eq]; omega

theorem numbersFit_natural {n : Nat} (small : n < 2 ^ 64) : NumbersFit (.int n) := by
  refine .int _ ?_ ?_
  · rw [minInteger_eq]; omega
  · rw [maxInteger_eq]; omega

end Widths

mutual

theorem numbersFit_toJson : (v : Value) → v.toJson.NumbersFit
  | .null => .null
  | .bool b => .bool b
  | .int n => numbersFit_signed n
  | .uint n => numbersFit_natural n.toNat_lt
  | .float x => Json.numbersFit_ofDouble x
  | .char c => .str (String.singleton c)
  | .str s => .str s
  | .bytes bs => .array _ fun j listed => by
    obtain ⟨b, -, rfl⟩ := List.mem_map.mp listed
    exact numbersFit_natural (Nat.lt_trans b.toNat_lt (by decide))
  | .seq elems => .array _ (numbersFit_elemsToJson elems)
  | .map entries => .object _ (numbersFit_entriesToJson entries)
  | .record _ fields => .object _ fun m listed =>
    numbersFit_entriesToJson fields m ((Entries.mem_insertAll listed).resolve_left nofun)

theorem numbersFit_elemsToJson : (elems : List Value) → ∀ j ∈ elemsToJson elems, j.NumbersFit
  | [] => nofun
  | v :: rest =>
    List.forall_mem_cons.mpr ⟨numbersFit_toJson v, numbersFit_elemsToJson rest⟩

theorem numbersFit_entriesToJson :
    (entries : List (String × Value)) → ∀ m ∈ entriesToJson entries, m.2.NumbersFit
  | [] => nofun
  | (_, v) :: rest =>
    List.forall_mem_cons.mpr ⟨numbersFit_toJson v, numbersFit_entriesToJson rest⟩

end

theorem elemsOfJson_eq (elems : List Json) : elemsOfJson elems = elems.map ofJson := by
  induction elems with
  | nil => rfl
  | cons j rest ih => rw [elemsOfJson, ih, List.map_cons]

theorem entriesOfJson_eq (members : List (String × Json)) :
    entriesOfJson members = members.map fun m => (m.1, ofJson m.2) := by
  induction members with
  | nil => rfl
  | cons m rest ih => rw [entriesOfJson, ih, List.map_cons]

theorem toJson_ofJson_int {n : Int} (low : minInteger ≤ n) (high : n ≤ maxInteger) :
    (ofJson (.int n)).toJson = .int n := by
  rw [minInteger_eq] at low
  rw [maxInteger_eq] at high
  rw [ofJson, maxSigned_eq]
  split
  · next signed =>
    have kept : (Int64.ofInt n).toInt = n := Int64.toInt_ofInt_of_le (by omega) (by omega)
    rw [toJson, kept]
  · next unsigned =>
    have kept : (UInt64.ofNat n.toNat).toNat = n.toNat :=
      UInt64.toNat_ofNat_of_lt (by rw [UInt64.size]; omega)
    rw [toJson, kept, Int.toNat_of_nonneg (by omega)]

theorem toJson_ofJson {j : Json} (fit : j.NumbersFit) : (ofJson j).toJson = j := by
  induction fit with
  | null | bool | str => rfl
  | int n low high => exact toJson_ofJson_int low high
  | float x finite => rw [ofJson, toJson, Json.ofDouble, if_pos finite]
  | array elems _ ih =>
    have kept : elems.map (toJson ∘ ofJson) = elems :=
      (List.map_congr_left ih).trans (List.map_id' elems)
    rw [ofJson, toJson, elemsToJson_eq, elemsOfJson_eq, List.map_map, kept]
  | object members _ ih =>
    have kept : members.map (fun m => (m.1, (ofJson m.2).toJson)) = members := by
      have each : ∀ m ∈ members, (m.1, (ofJson m.2).toJson) = m :=
        fun m listed => Prod.ext rfl (ih m listed)
      exact (List.map_congr_left each).trans (List.map_id' members)
    rw [ofJson, toJson, entriesToJson_eq, entriesOfJson_eq, List.map_map]
    exact congrArg Json.object kept

def normal (v : Value) : Value := ofJson v.toJson

theorem toJson_normal (v : Value) : v.normal.toJson = v.toJson :=
  toJson_ofJson (numbersFit_toJson v)

theorem normal_normal (v : Value) : v.normal.normal = v.normal := by
  rw [normal, toJson_normal, ← normal]

/-- JSON trees survive as arguments, each number with its kind. So every argument has a normal form,
with the same JSON tree and the same answers to JSONPath. -/
theorem json_trees_survive :
    (∀ j : Json, j.WellFormed → (ofJson j).toJson = j) ∧
    (∀ v : Value, v.normal.normal = v.normal ∧ v.normal.toJson = v.toJson) ∧
    ∀ query arguments, Query.Resolver.jsonPath.read? query (arguments.map normal) =
      Query.Resolver.jsonPath.read? query arguments := by
  refine ⟨fun j formed => toJson_ofJson formed.numbersFit,
    fun v => ⟨normal_normal v, toJson_normal v⟩, fun query arguments => ?_⟩
  simp only [Query.Resolver.read?, Query.readJsonPath?, List.getElem?_map, Option.bind_eq_bind,
    Option.bind_map, Function.comp_def, toJson_normal]

def extremes : Json :=
  .object [("high", .array [.int 9223372036854775807, .int 9223372036854775808]),
    ("low", .array [.int (-9223372036854775808), .float (.zero true)])]

theorem json_trees_survive_extremes :
    extremes.WellFormed ∧ (ofJson extremes).toJson = extremes ∧
      ofJson extremes = map [("high", seq [int Int64.maxValue, uint 9223372036854775808]),
        ("low", seq [int Int64.minValue, float (.zero true)])] := by
  have formed : extremes.WellFormed := by
    refine .object _ (List.pairwise_pair.mpr (by decide)) ?_
    simp only [List.forall_mem_cons]
    refine ⟨.array _ ?_, .array _ ?_, nofun⟩ <;> simp only [List.forall_mem_cons]
    · exact ⟨.int _ (by decide) (by decide), .int _ (by decide) (by decide), nofun⟩
    · exact ⟨.int _ (by decide) (by decide), .float _ (by decide), nofun⟩
  exact ⟨formed, json_trees_survive.1 extremes formed, rfl⟩

end Value

end TrafficControl
