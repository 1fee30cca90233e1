import TrafficControl.Proofs.Text.Percent
import TrafficControl.Proofs.Url.Layout

namespace TrafficControl.Url

open Text Percent

def keyMarks : List Char := ['%', '&', '=']

def valueMarks : List Char := ['%', '&']

/-- A way to write a parameter. An empty value can be left out with its mark, unless nothing would be
left. -/
inductive Item (key : String) : String → List Char → Prop
  | pair {value : String} {k v : List Char} :
    Spells keyMarks key.toList k → Spells valueMarks value.toList v → Item key value (k ++ '=' :: v)
  | bare {k : List Char} : key ≠ "" → Spells keyMarks key.toList k → Item key "" k

inductive Items : List (String × String) → List (List Char) → Prop
  | nil : Items [] []
  | stray {entries : List (String × String)} {items : List (List Char)} :
    Items entries items → Items entries ([] :: items)
  | item {key value : String} {entries : List (String × String)} {item : List Char}
    {items : List (List Char)} :
    Item key value item → Items entries items → Items ((key, value) :: entries) (item :: items)

def Queries (params : Table String) (query : List Char) : Prop :=
  ∃ entries items, entries.Perm params.entries ∧ Items entries items ∧
    query = ['&'].intercalate items

variable {key value : String} {item : List Char}

theorem unescape_spells {reserved cs text : List Char} (spells : Spells reserved cs text)
    (marked : '%' ∈ reserved) : unescape text = .ok (String.ofList cs) := by
  rw [unescape, spells.decode marked, Utf8.decode_encode]

theorem equals_not_mem {cs text : List Char} (spells : Spells keyMarks cs text) : '=' ∉ text :=
  spells.not_mem (by decide) (by decide)

theorem Item.param (writes : Item key value item) : Url.param item = .ok (key, value) := by
  cases writes with
  | @pair _ k v keyed valued =>
    have cut : cut? '=' (k ++ '=' :: v) = some (k, v) := cut?_append (equals_not_mem keyed)
    have readKey := unescape_spells keyed (by decide)
    have readValue := unescape_spells valued (by decide)
    rw [String.ofList_toList] at readKey readValue
    simp only [Url.param, cut, Option.getD_some, readKey, readValue]
    rfl
  | bare _ keyed =>
    have uncut : cut? '=' item = none := cut?_eq_none (equals_not_mem keyed)
    have readKey := unescape_spells keyed (by decide)
    have readValue : unescape [] = .ok "" :=
      unescape_spells (Spells.nil : Spells valueMarks [] []) (by decide)
    rw [String.ofList_toList] at readKey
    simp only [Url.param, uncut, Option.getD_none, readKey, readValue]
    rfl

theorem Item.ne_nil (writes : Item key value item) : item ≠ [] := by
  cases writes with
  | pair => exact List.append_ne_nil_of_right_ne_nil _ (List.cons_ne_nil _ _)
  | bare named keyed =>
    refine keyed.ne_nil fun empty => named ?_
    rw [← String.ofList_toList (s := key), empty]

theorem Item.ampersand_not_mem (writes : Item key value item) : '&' ∉ item := by
  have absent {reserved cs text : List Char} (spells : Spells reserved cs text)
      (listed : '&' ∈ reserved) : '&' ∉ text := spells.not_mem listed (by decide)
  cases writes with
  | pair keyed valued =>
    intro member
    rcases List.mem_append.mp member with member | member
    · exact absent keyed (by decide) member
    · rcases List.mem_cons.mp member with same | member
      · cases same
      · exact absent valued (by decide) member
  | bare _ keyed => exact absent keyed (by decide)

variable {entries : List (String × String)} {items : List (List Char)}

theorem Items.ampersand_not_mem (writes : Items entries items) : ∀ item ∈ items, '&' ∉ item := by
  induction writes with
  | nil => exact fun item member => nomatch member
  | stray _ ih => exact List.forall_mem_cons.mpr ⟨List.not_mem_nil, ih⟩
  | item written _ ih => exact List.forall_mem_cons.mpr ⟨written.ampersand_not_mem, ih⟩

theorem Items.params (writes : Items entries items) :
    (items.filter (!·.isEmpty)).mapM param = .ok entries := by
  induction writes with
  | nil => rfl
  | stray _ ih => exact ih
  | @item _ _ _ item _ written _ ih =>
    have kept : (!item.isEmpty) = true := by simp [written.ne_nil]
    rw [List.filter_cons, if_pos kept, List.mapM_cons, written.param, ih]
    rfl

theorem parseQuery_intercalate (writes : Items entries items) :
    parseQuery (['&'].intercalate items) = .ok (Table.ofList entries) := by
  have parts : (splitOn '&' (['&'].intercalate items)).filter (!·.isEmpty) =
      items.filter (!·.isEmpty) := by
    by_cases empty : items = []
    · rw [empty]
      rfl
    · rw [splitOn_intercalate empty writes.ampersand_not_mem]
  rw [parseQuery, parts, writes.params]
  rfl

theorem Queries.parse {params : Table String} {query : List Char} (writes : Queries params query) :
    parseQuery query = .ok params := by
  obtain ⟨entries, items, perm, written, rfl⟩ := writes
  rw [parseQuery_intercalate written, Table.ofList_of_perm perm]

theorem exists_item (key value : String) : ∃ item, Item key value item := by
  obtain ⟨k, keyed⟩ := exists_spells keyMarks key.toList
  obtain ⟨v, valued⟩ := exists_spells valueMarks value.toList
  exact ⟨k ++ '=' :: v, .pair keyed valued⟩

theorem exists_items (entries : List (String × String)) : ∃ items, Items entries items := by
  induction entries with
  | nil => exact ⟨[], .nil⟩
  | cons entry entries ih =>
    obtain ⟨items, written⟩ := ih
    obtain ⟨item, own⟩ := exists_item entry.1 entry.2
    exact ⟨item :: items, .item own written⟩

theorem exists_queries (params : Table String) : ∃ query, Queries params query := by
  obtain ⟨items, written⟩ := exists_items params.entries
  exact ⟨_, params.entries, items, .refl _, written, rfl⟩

theorem Layout.parse_of_queries {l : Layout} {params : Table String} {query : List Char}
    (exact : l.Exact) (schemed : l.scheme ≠ []) (addressed : l.authority ≠ [])
    (queried : l.query? = some query) (writes : Queries params query) :
    Url.parse (String.ofList l.text) =
      .ok ⟨Text.lower (String.ofList l.scheme), String.ofList l.authority, params⟩ := by
  have given : ¬(l.scheme = [] ∨ l.path = []) := by
    simp [Layout.path, schemed, addressed]
  rw [Layout.parse_text exact, if_neg given, queried, Option.getD_some, writes.parse]
  rfl

/-- An address is read as the scheme, in lower case, the authority and the parameters that it has
been written with. -/
theorem parse_written {scheme address : String} {params : Table String} {query : List Char}
    (schemed : scheme ≠ "") (clear : ¬separator <:+: scheme.toList) (addressed : address ≠ "")
    (unmarked : '?' ∉ address.toList) (trimmed : address.toList.getLast? ≠ some '/')
    (slashes : Nat) (writes : Queries params query) :
    Url.parse (scheme ++ "://" ++ address ++ String.ofList (List.replicate slashes '/') ++ "?" ++
        String.ofList query) =
      .ok ⟨Text.lower scheme, address, params⟩ := by
  let l : Layout := ⟨scheme.toList, address.toList, slashes, some query⟩
  have exact : l.Exact := ⟨clear, unmarked, trimmed⟩
  have text : scheme ++ "://" ++ address ++ String.ofList (List.replicate slashes '/') ++ "?" ++
      String.ofList query = String.ofList l.text := by
    apply String.toList_inj.mp
    simp [l, Layout.text, Layout.path, Layout.tail, separator]
  have given : ¬(l.scheme = [] ∨ l.path = []) := by
    simp [l, Layout.path, schemed, addressed]
  rw [text, Layout.parse_text exact, if_neg given]
  simp only [l, Option.getD_some, writes.parse, String.ofList_toList]
  rfl

def scattered : Table String := .ofList [("", "=+?"), ("a=b", ""), ("π", "1&é")]

theorem queries_scattered : Queries scattered "&%cF%80=1%26é&a%3Db&=%3D+?".toList := by
  have pi : Escapes (String.utf8EncodeChar 'π') "%cF%80".toList :=
    show Escapes [0xCF, 0x80] ['%', 'c', 'F', '%', '8', '0'] from
      .cons (by decide) (by decide) (.cons (by decide) (by decide) .nil)
  have ampersand : Escapes (String.utf8EncodeChar '&') "%26".toList :=
    show Escapes [0x26] ['%', '2', '6'] from .cons (by decide) (by decide) .nil
  have equals : Escapes (String.utf8EncodeChar '=') "%3D".toList :=
    show Escapes [0x3D] ['%', '3', 'D'] from .cons (by decide) (by decide) .nil
  have sum : Spells valueMarks ['1', '&', 'é'] ('1' :: ("%26".toList ++ ['é'])) :=
    .plain (by decide) (.escaped ampersand (.plain (by decide) .nil))
  have bare : Spells keyMarks ['a', '=', 'b'] ('a' :: ("%3D".toList ++ ['b'])) :=
    .plain (by decide) (.escaped equals (.plain (by decide) .nil))
  have signs : Spells valueMarks ['=', '+', '?'] ("%3D".toList ++ ['+', '?']) :=
    .escaped equals (.plain (by decide) (.plain (by decide) .nil))
  refine ⟨[("π", "1&é"), ("a=b", ""), ("", "=+?")], _, by decide +kernel,
    .stray (.item (.pair (.escaped pi .nil) sum)
      (.item (.bare (by decide) bare) (.item (.pair .nil signs) .nil))), ?_⟩
  decide +kernel

theorem parse_written_scattered :
    ¬separator <:+: "GOV".toList ∧ '?' ∉ "h:1/a://b".toList ∧
      "h:1/a://b".toList.getLast? ≠ some '/' ∧
      Queries scattered "&%cF%80=1%26é&a%3Db&=%3D+?".toList ∧
      Url.parse "GOV://h:1/a://b//?&%cF%80=1%26é&a%3Db&=%3D+?" =
        .ok ⟨"gov", "h:1/a://b", scattered⟩ := by
  have clear : ¬separator <:+: "GOV".toList := by decide
  have unmarked : '?' ∉ "h:1/a://b".toList := by decide
  have trimmed : "h:1/a://b".toList.getLast? ≠ some '/' := by decide
  exact ⟨clear, unmarked, trimmed, queries_scattered,
    parse_written (by decide) clear (by decide) unmarked trimmed 2 queries_scattered⟩

end TrafficControl.Url
