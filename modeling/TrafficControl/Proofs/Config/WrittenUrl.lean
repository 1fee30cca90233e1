import TrafficControl.Proofs.Config.UrlFields
import TrafficControl.Proofs.Decimal.Numeral
import TrafficControl.Proofs.Url.Parameters

namespace TrafficControl.Config

open Reader Text

structure Valid (c : Config) : Prop where
  addressed : isBlank c.address = false
  pauses : 0 < c.watchRetryInitialMs
  bounded : c.watchRetryInitialMs ≤ c.watchRetryMaxMs

theorem validate_eq_ok_iff {c : Config} : c.validate = .ok c ↔ c.Valid := by
  unfold validate
  constructor
  · intro accepted
    split at accepted
    · cases accepted
    next addressed =>
    split at accepted
    · cases accepted
    next retries =>
    obtain ⟨pauses, bounded⟩ := not_or.mp retries
    have visible : isBlank c.address = false := Bool.eq_false_iff.mpr addressed
    exact ⟨visible, UInt64.pos_iff_ne_zero.mpr pauses, UInt64.not_lt.mp bounded⟩
  · intro valid
    have retries : ¬(c.watchRetryInitialMs = 0 ∨ c.watchRetryMaxMs < c.watchRetryInitialMs) :=
      not_or.mpr ⟨UInt64.pos_iff_ne_zero.mp valid.pauses, UInt64.not_lt.mpr valid.bounded⟩
    rw [valid.addressed, if_neg Bool.false_ne_true, if_neg retries]

def booleanText (b : Bool) : String := if b then "true" else "false"

def millisText (n : UInt64) : String := String.ofList (Decimal.numeral n.toNat)

def paramTexts (c : Config) : List (String × Option String) :=
  [("namespace", some c.ns), ("token", c.token), ("group", c.group), ("username", c.username),
   ("password", c.password), ("query_parser", some c.queryParser),
   ("include_circuit_broken", some (booleanText c.includeCircuitBroken)),
   ("watch_retry_initial_ms", some (millisText c.watchRetryInitialMs)),
   ("watch_retry_max_ms", some (millisText c.watchRetryMaxMs))]

/-- There is a parameter for each field, but for those that are unset and for some of those that
have their default, and no other parameter. -/
structure GivenBy (c : Config) (params : Table String) : Prop where
  known : ∀ param ∈ params.entries, (param.1, some param.2) ∈ c.paramTexts
  complete : ∀ field ∈ c.paramTexts, params.get? field.1 = field.2 ∨
    params.get? field.1 = none ∧ field ∈ (default : Config).paramTexts

variable {c : Config} {name text : String} {text? : Option String} {params : Table String}

theorem boolean?_booleanText (b : Bool) : boolean? (booleanText b) = some b := by
  cases b <;> decide

theorem millis?_millisText (n : UInt64) : millis? (millisText n) = some n := by
  have bound : n.toNat ≤ UInt64.size - 1 := Nat.le_pred_of_lt n.toNat_lt
  rw [millis?, millisText, String.toList_ofList, Decimal.bounded?_numeral bound, Option.map_some,
    UInt64.ofNat_toNat]

theorem paramTexts_names (c : Config) :
    slots.all.map Slot.name = "address" :: c.paramTexts.map Prod.fst := rfl

theorem member?_of_text (plain : name ∉ ["include_circuit_broken", "watch_retry_initial_ms",
    "watch_retry_max_ms"]) (there : c.toJson.member? name = some (.ofOptionText text?)) :
    c.toJson.member? name = text?.elim (some .null) (paramJson? name) := by
  simp only [List.mem_cons, List.not_mem_nil, or_false, not_or] at plain
  obtain ⟨broken, initial, max⟩ := plain
  rw [there]
  cases text? with
  | none => rfl
  | some text =>
    simp only [Option.elim_some, paramJson?, broken, initial, max, if_false, or_self]
    rfl

theorem member?_of_mem (member : (name, text?) ∈ c.paramTexts) :
    c.toJson.member? name = text?.elim (some .null) (paramJson? name) := by
  have each : ∀ field ∈ c.paramTexts,
      c.toJson.member? field.1 = field.2.elim (some .null) (paramJson? field.1) := by
    simp only [paramTexts, List.forall_mem_cons]
    refine ⟨?_, ?_, ?_, ?_, ?_, ?_, ?_, ?_, ?_, nofun⟩
    · exact member?_of_text (by decide) rfl
    · exact member?_of_text (by decide) rfl
    · exact member?_of_text (by decide) rfl
    · exact member?_of_text (by decide) rfl
    · exact member?_of_text (by decide) rfl
    · exact member?_of_text (by decide) rfl
    · simp [paramJson?, toJson, Json.member?, Entries.get?, boolean?_booleanText]
    · simp [paramJson?, toJson, Json.member?, Entries.get?, millis?_millisText]
    · simp [paramJson?, toJson, Json.member?, Entries.get?, millis?_millisText]
  exact each (name, text?) member

theorem unset_by_default (member : (name, none) ∈ c.paramTexts) :
    (name, none) ∈ (default : Config).paramTexts := by
  have start : ∀ name ∈ ["token", "group", "username", "password"],
      (name, none) ∈ (default : Config).paramTexts := by decide
  have unset : ∀ field ∈ c.paramTexts, field.2 = none →
      field.1 ∈ ["token", "group", "username", "password"] := by
    simp [paramTexts]
  exact start name (unset _ member rfl)

theorem exists_slot (member : (name, text?) ∈ c.paramTexts) : ∃ s ∈ slots.all, s.name = name := by
  have listed : name ∈ slots.all.map Slot.name := by
    rw [paramTexts_names c]
    exact List.mem_cons_of_mem _ (List.mem_map_of_mem member)
  exact List.mem_map.mp listed

theorem paramMember_of_mem (member : (name, some text) ∈ c.paramTexts) :
    ∃ j, c.toJson.member? name = some j ∧ paramMember (name, text) = .ok (name, j) := by
  obtain ⟨s, own, rfl⟩ := exists_slot member
  have there := slots.tree c own
  have value := member?_of_mem member
  rw [there, Option.elim_some] at value
  refine ⟨s.tree c, there, ?_⟩
  rw [paramMember, ← value]

theorem GivenBy.member?_of_absent (gives : c.GivenBy params)
    (listed : name ∈ c.paramTexts.map Prod.fst) (absent : params.get? name = none) :
    (default : Config).toJson.member? name = c.toJson.member? name := by
  obtain ⟨⟨key, text?⟩, member, rfl⟩ := List.mem_map.mp listed
  have start : (key, text?) ∈ (default : Config).paramTexts := by
    rcases gives.complete _ member with given | ⟨-, start⟩
    · obtain rfl : none = text? := absent.symm.trans given
      exact unset_by_default member
    · exact start
  rw [member?_of_mem member, member?_of_mem start]

section Params

theorem GivenBy.exists_given (gives : c.GivenBy params) : ∃ given,
    List.Forall₂ (fun param m => paramMember param = .ok m) params.entries given := by
  refine ⟨params.entries.map fun param => (param.1, (c.toJson.member? param.1).getD .null), ?_⟩
  rw [List.forall₂_map_right_iff, List.forall₂_same]
  intro param member
  obtain ⟨j, there, accepted⟩ := paramMember_of_mem (gives.known param member)
  rw [there]
  exact accepted

variable {given : List (String × Json)}

theorem GivenBy.get?_given (gives : c.GivenBy params)
    (each : List.Forall₂ (fun param m => paramMember param = .ok m) params.entries given)
    (name : String) :
    Entries.get? name given = (params.get? name).bind fun _ => c.toJson.member? name := by
  have values := get?_paramMembers each name
  have own : Entries.get? name params.entries = params.get? name := rfl
  rw [own] at values
  cases param : params.get? name with
  | none =>
    rw [param] at values
    exact Option.map_eq_none_iff.mp values
  | some text =>
    rw [param] at values
    obtain ⟨j, held, same⟩ := Option.map_eq_some_iff.mp values
    have member := gives.known _ (Table.get?_eq_some_iff.mp param)
    rw [held, Option.bind_some, member?_of_mem member, Option.elim_some, ← same]

theorem GivenBy.has (gives : c.GivenBy params)
    (each : List.Forall₂ (fun param m => paramMember param = .ok m) params.entries given) :
    ∀ field ∈ slots.all.map Slot.known, Loosening.Has
      (Entries.ofList (("address", .str c.address) :: given)) (toJson default) c.toJson field := by
  intro field known
  obtain ⟨s, member, rfl⟩ := List.mem_map.mp known
  have there := slots.tree c member
  have own := s.restores.refl (s.get c)
  have distinct : (given.map Prod.fst).Nodup := by
    rw [keys_of_paramMembers each]
    exact params.keys_nodup
  have found := get?_object distinct c.address s.name
  rw [gives.get?_given each] at found
  cases param : params.get? s.name with
  | some text =>
    rw [param, Option.bind_some, there, Option.some_or] at found
    exact .kept there found own
  | none =>
    rw [param, Option.bind_none, Option.none_or] at found
    -- no parameter is called so, but the address stands in the object from the start
    by_cases address : s.name = "address"
    · have tree : some (s.tree c) = some (.str c.address) := by
        rw [← there, address]
        rfl
      rw [if_pos address, ← tree] at found
      exact .kept there found own
    · rw [if_neg address] at found
      have names : s.name ∈ slots.all.map Slot.name := List.mem_map_of_mem member
      rw [paramTexts_names c] at names
      have listed := (List.mem_cons.mp names).resolve_left address
      have same := gives.member?_of_absent listed param
      rw [there] at same
      exact .spared there (Entries.get?_eq_none_iff.mp found) same

end Params

theorem ofParams_of_givenBy (gives : c.GivenBy params) : ofParams c.address params = .ok c := by
  obtain ⟨given, each⟩ := gives.exists_given
  have sorted : Entries.Sorted (Entries.ofList (("address", .str c.address) :: given)) :=
    Entries.Sorted.insertAll List.Pairwise.nil _
  have object : read .json (.ofJson (.ofMembers (("address", .str c.address) :: given))) = .ok c :=
    restores.reads ⟨_, rfl, sorted.keys_nodup, gives.has each⟩ .json
  exact bind_eq_ok_iff.mpr ⟨given, mapM_eq_ok each, by rw [object]⟩

theorem parse_written_config {query : List Char} (addressed : c.address ≠ "")
    (unmarked : '?' ∉ c.address.toList) (trimmed : c.address.toList.getLast? ≠ some '/')
    (writes : Url.Queries params query) :
    Url.parse (urlScheme ++ "://" ++ c.address ++ "?" ++ String.ofList query) =
      .ok ⟨urlScheme, c.address, params⟩ := by
  let l : Url.Layout := ⟨urlScheme.toList, c.address.toList, 0, some query⟩
  have clear : ¬Url.separator <:+: urlScheme.toList := by decide
  have schemed : urlScheme.toList ≠ [] := by decide
  have addressed' : c.address.toList ≠ [] := fun empty =>
    addressed (String.toList_inj.mp empty)
  have exact : l.Exact := ⟨clear, unmarked, trimmed⟩
  have text : urlScheme ++ "://" ++ c.address ++ "?" ++ String.ofList query =
      String.ofList l.text := by
    apply String.toList_inj.mp
    simp [l, Url.Layout.text, Url.Layout.path, Url.Layout.tail, Url.separator]
  have lower : Text.lower urlScheme = urlScheme := by decide +kernel
  have parsed := l.parse_of_queries exact schemed addressed' rfl writes
  rw [text, parsed]
  simp only [l, String.ofList_toList, lower]

theorem ofUrl_written {query : List Char} (valid : c.Valid) (unmarked : '?' ∉ c.address.toList)
    (trimmed : c.address.toList.getLast? ≠ some '/') (gives : c.GivenBy params)
    (writes : Url.Queries params query) :
    ofUrl (urlScheme ++ "://" ++ c.address ++ "?" ++ String.ofList query) = .ok c := by
  have addressed : c.address ≠ "" := by
    intro empty
    have visible := valid.addressed
    rw [empty] at visible
    cases visible
  refine bind_eq_ok_iff.mpr ⟨_, parse_written_config addressed unmarked trimmed writes, ?_⟩
  rw [if_neg (not_not_intro rfl)]
  exact bind_eq_ok_iff.mpr ⟨c, ofParams_of_givenBy gives, validate_eq_ok_iff.mpr valid⟩

theorem valid_of_ofUrl {url : String} (accepted : ofUrl url = .ok c) : c.Valid := by
  obtain ⟨parsed, -, accepted⟩ := bind_eq_ok_iff.mp accepted
  split at accepted
  · cases accepted
  · obtain ⟨config, -, valid⟩ := bind_eq_ok_iff.mp accepted
    obtain rfl := validate_eq_ok valid
    exact validate_eq_ok_iff.mp valid

theorem paramTexts_nodup (c : Config) : (c.paramTexts.map Prod.fst).Nodup := by
  have distinct := slots.distinct
  rw [paramTexts_names c] at distinct
  exact (List.nodup_cons.mp distinct).2

theorem exists_givenBy (c : Config) : ∃ params, c.GivenBy params := by
  let entries := c.paramTexts.filterMap fun field => field.2.map fun text => (field.1, text)
  have listed (name text : String) : (name, text) ∈ entries ↔ (name, some text) ∈ c.paramTexts := by
    simp [entries]
  have distinct : (entries.map Prod.fst).Nodup := by
    refine List.pairwise_map.mpr (List.pairwise_filterMap.mpr ?_)
    refine (List.pairwise_map.mp c.paramTexts_nodup).imp fun {first second} apart => ?_
    intro m made m' made'
    obtain ⟨_, -, rfl⟩ := Option.map_eq_some_iff.mp made
    obtain ⟨_, -, rfl⟩ := Option.map_eq_some_iff.mp made'
    exact apart
  refine ⟨.ofList entries, ?_, ?_⟩
  · intro param member
    have found := Table.get?_eq_some_iff.mpr member
    exact (listed param.1 param.2).mp ((Table.get?_ofList_eq_some_iff distinct).mp found)
  · rintro ⟨name, text?⟩ member
    left
    cases text? with
    | some text =>
      have given := (listed name text).mpr member
      exact (Table.get?_ofList_eq_some_iff distinct).mpr given
    | none =>
      refine Option.eq_none_iff_forall_ne_some.mpr fun text found => ?_
      have given := (listed name text).mp ((Table.get?_ofList_eq_some_iff distinct).mp found)
      cases List.inj_on_of_nodup_map c.paramTexts_nodup member given rfl

/-- A valid configuration is read back from each way to write it, and there is one; what is read is
always valid. -/
theorem valid_configs_have_urls :
    (∀ (c : Config) (params : Table String) (query : List Char), c.Valid →
        '?' ∉ c.address.toList → c.address.toList.getLast? ≠ some '/' →
        c.GivenBy params → Url.Queries params query →
        ofUrl (urlScheme ++ "://" ++ c.address ++ "?" ++ String.ofList query) = .ok c) ∧
      (∀ c : Config, ∃ params query, c.GivenBy params ∧ Url.Queries params query) ∧
      ∀ (url : String) (c : Config), ofUrl url = .ok c → c.Valid := by
  refine ⟨?_, ?_, fun url c => valid_of_ofUrl⟩
  · intro c params query valid unmarked trimmed gives writes
    exact ofUrl_written valid unmarked trimmed gives writes
  · intro c
    obtain ⟨params, gives⟩ := c.exists_givenBy
    obtain ⟨query, writes⟩ := Url.exists_queries params
    exact ⟨params, query, gives, writes⟩

def awkward : Config :=
  { ofAddress "h:1/a" with
    ns := "", token := some "", username := some "a&é=", includeCircuitBroken := true,
    watchRetryInitialMs := 1, watchRetryMaxMs := 18446744073709551615 }

def awkwardParams : Table String :=
  .ofList [("watch_retry_max_ms", "18446744073709551615"), ("token", ""), ("username", "a&é="),
    ("namespace", ""), ("include_circuit_broken", "true"), ("watch_retry_initial_ms", "1")]

theorem givenBy_awkward : awkward.GivenBy awkwardParams := ⟨by decide, by decide⟩

def awkwardQuery : List Char :=
  "watch_retry_max_ms=18446744073709551615&token=&&username=a%26%c3%A9=&namespace".toList ++
    "&include_circuit_broken=true&watch_retry_initial_ms=1".toList

theorem queries_awkward : Url.Queries awkwardParams awkwardQuery := by
  have ampersand : Percent.Escapes (String.utf8EncodeChar '&') "%26".toList :=
    show Percent.Escapes [0x26] ['%', '2', '6'] from .cons (by decide) (by decide) .nil
  have accented : Percent.Escapes (String.utf8EncodeChar 'é') "%c3%A9".toList :=
    show Percent.Escapes [0xC3, 0xA9] ['%', 'c', '3', '%', 'A', '9'] from
      .cons (by decide) (by decide) (.cons (by decide) (by decide) .nil)
  have username : Percent.Spells Url.valueMarks ['a', '&', 'é', '=']
      ('a' :: ("%26".toList ++ ("%c3%A9".toList ++ ['=']))) :=
    .plain (by decide) (.escaped ampersand (.escaped accented (.plain (by decide) .nil)))
  have plain {key value : String} (named : key.toList.all (· ∉ Url.keyMarks) = true)
      (valued : value.toList.all (· ∉ Url.valueMarks) = true) :
      Url.Item key value (key.toList ++ '=' :: value.toList) := .pair (.self named) (.self valued)
  have written : Url.Items [("watch_retry_max_ms", "18446744073709551615"), ("token", ""),
      ("username", "a&é="), ("namespace", ""), ("include_circuit_broken", "true"),
      ("watch_retry_initial_ms", "1")] _ :=
    .item (plain (by decide) (by decide)) (.item (plain (by decide) (by decide))
      (.stray (.item (.pair (.self (by decide)) username)
        (.item (.bare (by decide) (.self (by decide))) (.item (plain (by decide) (by decide))
          (.item (plain (by decide) (by decide)) .nil))))))
  exact ⟨_, _, by decide +kernel, written, by decide +kernel⟩

theorem valid_configs_have_urls_awkward :
    (awkward.Valid ∧ '?' ∉ awkward.address.toList ∧ awkward.address.toList.getLast? ≠ some '/' ∧
        awkward.GivenBy awkwardParams ∧ Url.Queries awkwardParams awkwardQuery) ∧
      ofUrl (urlScheme ++ "://" ++ awkward.address ++ "?" ++ String.ofList awkwardQuery) =
        .ok awkward := by
  have valid : awkward.Valid := ⟨by decide, by decide, by decide⟩
  have unmarked : '?' ∉ awkward.address.toList := by decide
  have trimmed : awkward.address.toList.getLast? ≠ some '/' := by decide
  have read := valid_configs_have_urls.1 awkward awkwardParams awkwardQuery valid unmarked trimmed
    givenBy_awkward queries_awkward
  exact ⟨⟨valid, unmarked, trimmed, givenBy_awkward, queries_awkward⟩, read⟩

end TrafficControl.Config
