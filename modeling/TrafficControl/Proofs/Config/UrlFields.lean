import TrafficControl.Config.Url
import TrafficControl.Proofs.Document.Members
import TrafficControl.Proofs.Document.RoundTrip
import TrafficControl.Proofs.Url.Layout

namespace TrafficControl

namespace Url

open Text

def pairs (query : List Char) : Except Failure (List (String × String)) :=
  ((splitOn '&' query).filter (!·.isEmpty)).mapM param

def last? (name : String) (pairs : List (String × String)) : Option String :=
  Entries.get? name pairs.reverse

theorem exists_pairs_of_parseQuery {query : List Char} {params : Table String}
    (accepted : parseQuery query = .ok params) :
    ∃ given, pairs query = .ok given ∧ ∀ name, params.get? name = last? name given := by
  have mapped : parseQuery query = (pairs query).map Table.ofList := rfl
  rw [mapped] at accepted
  obtain ⟨given, found, rfl⟩ := Reader.map_eq_ok_iff.mp accepted
  exact ⟨given, found, fun name => Entries.get?_ofList name given⟩

end Url

namespace Config

open Reader

variable {c : Config} {name : String}

theorem exact_slots : ∀ s ∈ slots.all, Exact s.read s.write := by
  simp only [slots, List.forall_mem_cons, List.not_mem_nil, false_implies, implies_true, and_true]
  exact ⟨exact_text, exact_text, exact_text.optional, exact_text.optional, exact_text.optional,
    exact_text.optional, exact_text, exact_boolean, exact_word64, exact_word64⟩

theorem member?_unknown (unknown : name ∉ slots.all.map Slot.name) : c.toJson.member? name = none := by
  obtain ⟨members, same, known⟩ : ∃ members, c.toJson = .object members ∧
      members.map Prod.fst ⊆ slots.all.map Slot.name := ⟨_, rfl, by simp [slots]⟩
  rw [same]
  exact Entries.get?_eq_none fun member => unknown (known member)

theorem member?_of_read {members : List (String × Json)} (distinct : (members.map Prod.fst).Nodup)
    {place : Place} (accepted : read place (.ofJson (.object members)) = .ok c) (name : String) :
    c.toJson.member? name =
      ((default : Config).toJson.member? name).map fun start =>
        (Entries.get? name members).getD start := by
  by_cases known : name ∈ slots.all.map Slot.name
  · obtain ⟨s, member, rfl⟩ := List.mem_map.mp known
    rw [record_member? slots exact_slots distinct accepted member, slots.tree default member]
    rfl
  · rw [member?_unknown known, member?_unknown known]
    rfl

theorem paramMember_eq_ok {param : String × String} {m : String × Json}
    (read : paramMember param = .ok m) : m.1 = param.1 ∧ paramJson? param.1 param.2 = some m.2 := by
  unfold paramMember at read
  split at read
  · next j found =>
    cases read
    exact ⟨rfl, found⟩
  · cases read

variable {params : List (String × String)} {given : List (String × Json)}

theorem keys_of_paramMembers
    (read : List.Forall₂ (fun param m => paramMember param = .ok m) params given) :
    given.map Prod.fst = params.map Prod.fst := by
  induction read with
  | nil => rfl
  | cons first _ ih => rw [List.map_cons, List.map_cons, (paramMember_eq_ok first).1, ih]

theorem get?_paramMembers
    (read : List.Forall₂ (fun param m => paramMember param = .ok m) params given) (name : String) :
    (Entries.get? name given).map some = (Entries.get? name params).map (paramJson? name) := by
  induction read with
  | nil => rfl
  | @cons param m _ _ first _ ih =>
    obtain ⟨named, value⟩ := paramMember_eq_ok first
    simp only [Entries.get?, named]
    split
    · next same =>
      rw [same] at value
      simp only [Option.map_some, value]
    · exact ih

theorem get?_object (distinct : (given.map Prod.fst).Nodup) (address name : String) :
    Entries.get? name (Entries.ofList (("address", .str address) :: given)) =
      (Entries.get? name given).or (if name = "address" then some (.str address) else none) := by
  have alone : Entries.get? name [("address", .str address)] =
      if name = "address" then some (Json.str address) else none := by
    simp only [Entries.get?, eq_comm]
  rw [Entries.get?_ofList, List.reverse_cons, Entries.get?_append, Entries.get?_reverse distinct,
    alone]

variable {address : String} {table : Table String}

theorem ofParams_eq_ok (accepted : ofParams address table = .ok c) :
    ∃ given, List.Forall₂ (fun param m => paramMember param = .ok m) table.entries given ∧
      read .json (.ofJson (.ofMembers (("address", .str address) :: given))) = .ok c := by
  obtain ⟨given, found, accepted⟩ := bind_eq_ok_iff.mp accepted
  refine ⟨given, forall₂_of_mapM found, ?_⟩
  split at accepted
  · next read =>
    cases accepted
    exact read
  · cases accepted

theorem ofParams_member? (accepted : ofParams address table = .ok c) (name : String) :
    c.toJson.member? name =
      ((default : Config).toJson.member? name).bind fun start =>
        (table.get? name).elim (some (if name = "address" then .str address else start))
          (paramJson? name) := by
  obtain ⟨given, each, object⟩ := ofParams_eq_ok accepted
  have distinct : (given.map Prod.fst).Nodup := by
    rw [keys_of_paramMembers each]
    exact table.sorted.keys_nodup
  have sorted : Entries.Sorted (Entries.ofList (("address", .str address) :: given)) :=
    Entries.Sorted.insertAll List.Pairwise.nil _
  rw [member?_of_read sorted.keys_nodup object, get?_object distinct]
  have values := get?_paramMembers each name
  have found : table.get? name = Entries.get? name table.entries := rfl
  cases start : (default : Config).toJson.member? name with
  | none => rfl
  | some start =>
    rw [found]
    cases parameter : Entries.get? name table.entries with
    | none =>
      rw [parameter] at values
      have absent : Entries.get? name given = none := Option.map_eq_none_iff.mp values
      rw [absent]
      by_cases same : name = "address" <;> simp [same]
    | some value =>
      rw [parameter, Option.map_some] at values
      obtain ⟨j, there, read⟩ := Option.map_eq_some_iff.mp values
      simp [there, ← read]

theorem validate_eq_ok {c' : Config} (valid : c.validate = .ok c') : c' = c := by
  unfold validate at valid
  split at valid
  · cases valid
  · split at valid
    · cases valid
    · cases valid
      rfl

theorem ofUrl_eq_ok {url : String} (accepted : ofUrl url = .ok c) :
    ∃ parsed, Url.parse url = .ok parsed ∧ ofParams parsed.address parsed.params = .ok c := by
  obtain ⟨parsed, found, accepted⟩ := bind_eq_ok_iff.mp accepted
  refine ⟨parsed, found, ?_⟩
  split at accepted
  · cases accepted
  · obtain ⟨config, built, valid⟩ := bind_eq_ok_iff.mp accepted
    rw [validate_eq_ok valid]
    exact built

/-- The address of a configuration is the authority that its text has, unless a parameter called
`address` says otherwise. Every other field is that of the last parameter of its name, and has its
default without one. -/
theorem address_is_authority_iff {url : String} (accepted : ofUrl url = .ok c) :
    ∃ (l : Url.Layout) (given : List (String × String)),
      l.Exact ∧ url.toList = l.text ∧ Url.pairs (l.query?.getD []) = .ok given ∧
      (c.address = String.ofList l.authority ↔
        ∀ value, Url.last? "address" given = some value → value = String.ofList l.authority) ∧
      ∀ name ≠ "address", c.toJson.member? name =
        ((default : Config).toJson.member? name).bind fun start =>
          (Url.last? name given).elim (some start) (paramJson? name) := by
  obtain ⟨parsed, read, built⟩ := ofUrl_eq_ok accepted
  obtain ⟨l, exact, whole, query, -, authority⟩ := Url.Layout.exists_of_parse read
  obtain ⟨given, pairs, last⟩ := Url.exists_pairs_of_parseQuery query
  refine ⟨l, given, exact, whole, pairs, ?_, ?_⟩
  · have own := ofParams_member? built "address"
    rw [last, authority] at own
    cases found : Url.last? "address" given with
    | none =>
      have same : c.address = String.ofList l.authority := by
        rw [found] at own
        simpa [toJson, Json.member?, Entries.get?] using own
      simp [same]
    | some value =>
      have same : c.address = value := by
        rw [found] at own
        simpa [toJson, Json.member?, Entries.get?, paramJson?] using own
      simp [same]
  · intro name other
    have own := ofParams_member? built name
    simp only [last, if_neg other] at own
    exact own

theorem address_is_authority_iff_repeated :
    let url := "GOVERNANCE://h:1//?address=x&token=a&zone=b&address=h%3A1&token=c%26d"
    let c : Config := { ofAddress "h:1" with token := some "c&d" }
    ofUrl url = .ok c ∧
      ∃ (l : Url.Layout) (given : List (String × String)),
        l.Exact ∧ url.toList = l.text ∧ Url.pairs (l.query?.getD []) = .ok given ∧
        (c.address = String.ofList l.authority ↔
          ∀ value, Url.last? "address" given = some value → value = String.ofList l.authority) ∧
        ∀ name ≠ "address", c.toJson.member? name =
          ((default : Config).toJson.member? name).bind fun start =>
            (Url.last? name given).elim (some start) (paramJson? name) := by
  intro url c
  have accepted : ofUrl url = .ok c := by decide +kernel
  exact ⟨accepted, address_is_authority_iff accepted⟩

/-- A parameter sends the client to another host than the one that stands in front of it. -/
theorem address_parameter_redirects :
    let url := "governance://127.0.0.1:8848?address=10.0.0.9:8848"
    ofUrl url = .ok (ofAddress "10.0.0.9:8848") ∧
      ∀ l : Url.Layout, l.Exact → url.toList = l.text →
        String.ofList l.authority = "127.0.0.1:8848" := by
  intro url
  refine ⟨by decide +kernel, fun l exact whole => ?_⟩
  let own : Url.Layout :=
    ⟨"governance".toList, "127.0.0.1:8848".toList, 0, some "address=10.0.0.9:8848".toList⟩
  have ownExact : own.Exact := ⟨by decide, by decide, by decide⟩
  have ownText : url.toList = own.text := by decide +kernel
  rw [Url.Layout.eq_of_text exact ownExact (whole.symm.trans ownText)]
  exact String.ofList_toList

end Config

end TrafficControl
