import TrafficControl.Label
import TrafficControl.Proofs.Text.Trim

namespace TrafficControl.Label

open Text

def namedKinds : List (String × (String → Label)) :=
  [(headerKey, .header), (queryKey, .query), (callerServiceKey, .callerService)]

def plainKeys : List String := [methodKey, pathKey, callerIpKey]

/-- What the keys of routing sources name, once the white space around them is gone. -/
inductive Names : String → Label → Prop
  | method : Names methodKey .method
  | path : Names pathKey .path
  | callerIp : Names callerIpKey .callerIp
  | named {key name : String} {kind : String → Label} (listed : (key, kind) ∈ namedKinds)
      (visible : isBlank name = false) : Names (key ++ name) (kind (trim name))
  | custom {key : String} (visible : key ≠ "") (other : key ∉ plainKeys)
      (apart : ∀ k ∈ namedKinds, ¬k.1.toList <+: key.toList) : Names key (.custom key)

def Tidy : Label → Prop
  | .method | .path | .callerIp => True
  | .header name | .query name | .callerService name | .custom name =>
    trim name = name ∧ isBlank name = false

variable {key other name rest : String} {kind : String → Label} {l : Label}

theorem named_cases (listed : (key, kind) ∈ namedKinds) :
    key = headerKey ∧ kind = .header ∨ key = queryKey ∧ kind = .query ∨
      key = callerServiceKey ∧ kind = .callerService := by
  simpa [namedKinds] using listed

theorem trimmed_of_named : ∀ k ∈ namedKinds, trim k.1 = k.1 ∧ k.1 ≠ "" := by decide

theorem named_apart : ∀ k ∈ namedKinds, ∀ k' ∈ namedKinds,
    k.1.toList <+: k'.1.toList → k.1 = k'.1 := by decide

theorem named_longer : ∀ k ∈ namedKinds, ∀ word ∈ "" :: plainKeys,
    ¬k.1.toList <+: word.toList := by decide

theorem behind?_append (key rest : String) : behind? key (key ++ rest) = some rest := by
  rw [behind?, String.toList_append, afterWord?_append, Option.map_some, String.ofList_toList]

theorem behind?_eq_none_iff : behind? key other = none ↔ ¬key.toList <+: other.toList := by
  rw [behind?, Option.map_eq_none_iff, afterWord?_eq_none_iff]

theorem named_ne_word (listed : (key, kind) ∈ namedKinds) (rest : String) :
    ∀ word ∈ "" :: plainKeys, key ++ rest ≠ word := by
  intro word member same
  have longer := named_longer _ listed word member
  rw [← same, String.toList_append] at longer
  exact longer (List.prefix_append _ _)

theorem behind?_named (listed : (key, kind) ∈ namedKinds) (rest : String) :
    ∀ k ∈ namedKinds, behind? k.1 (key ++ rest) = if k.1 = key then some rest else none := by
  intro k member
  split
  · next same => rw [same, behind?_append]
  · next differ =>
    rw [behind?_eq_none_iff, String.toList_append]
    intro start
    rcases List.prefix_or_prefix_of_prefix start (List.prefix_append _ _) with inside | inside
    · exact differ (named_apart k member _ listed inside)
    · exact differ (named_apart _ listed k member inside).symm

theorem parse?_congr (same : trim key = trim other) : parse? key = parse? other := by
  rw [parse?, parse?, same]

theorem parse?_named (listed : (key, kind) ∈ namedKinds) (name : String) :
    parse? (key ++ name) = (trimmedNonBlank? name).map kind := by
  obtain ⟨trimmed, nonempty⟩ := trimmed_of_named _ listed
  -- the key stays whole under trimming, so what is compared is the key and some rest
  obtain ⟨rest, cut, same⟩ := exists_trim_append trimmed nonempty name
  have words := named_ne_word listed rest
  have behind := behind?_named listed rest
  simp only [plainKeys, List.forall_mem_cons] at words
  simp only [namedKinds, List.forall_mem_cons] at behind
  obtain ⟨empty, method, path, callerIp, -⟩ := words
  obtain ⟨header, query, callerService, -⟩ := behind
  rw [← trimmedNonBlank?_congr same]
  simp only [parse?, cut, empty, method, path, callerIp, header, query, callerService, if_false]
  rcases named_cases listed with ⟨rfl, rfl⟩ | ⟨rfl, rfl⟩ | ⟨rfl, rfl⟩
  · rfl
  · rfl
  · rfl

theorem parse?_custom (trimmed : trim key = key) (visible : key ≠ "") (other : key ∉ plainKeys)
    (apart : ∀ k ∈ namedKinds, ¬k.1.toList <+: key.toList) : parse? key = some (.custom key) := by
  have behind : ∀ k ∈ namedKinds, behind? k.1 key = none :=
    fun k member => behind?_eq_none_iff.mpr (apart k member)
  simp only [namedKinds, List.forall_mem_cons] at behind
  obtain ⟨header, query, callerService, -⟩ := behind
  simp only [plainKeys, List.mem_cons, List.not_mem_nil, or_false, not_or] at other
  obtain ⟨method, path, callerIp⟩ := other
  simp only [parse?, trimmed, visible, method, path, callerIp, header, query, callerService,
    if_false]

theorem names_of_parse? (trimmed : trim key = key) (found : parse? key = some l) :
    Names key l := by
  by_cases visible : key = ""
  · rw [visible] at found
    cases found
  by_cases other : key ∈ plainKeys
  · simp only [plainKeys, List.mem_cons, List.not_mem_nil, or_false] at other
    rcases other with rfl | rfl | rfl
    · cases found
      exact .method
    · cases found
      exact .path
    · cases found
      exact .callerIp
  by_cases started : ∃ k ∈ namedKinds, k.1.toList <+: key.toList
  · obtain ⟨⟨front, kind⟩, listed, rest, whole⟩ := started
    have cut : key = front ++ String.ofList rest := by
      rw [← String.toList_inj, ← whole, String.toList_append, String.toList_ofList]
    rw [cut, parse?_named listed, trimmedNonBlank?_eq] at found
    rw [cut]
    split at found
    · cases found
    · next visible =>
      cases found
      exact .named listed (Bool.eq_false_iff.mpr visible)
  · have apart : ∀ k ∈ namedKinds, ¬k.1.toList <+: key.toList :=
      fun k member start => started ⟨k, member, start⟩
    rw [parse?_custom trimmed visible other apart] at found
    cases found
    exact .custom visible other apart

theorem parse?_of_names (trimmed : trim key = key) (names : Names key l) : parse? key = some l := by
  cases names with
  | method => rfl
  | path => rfl
  | callerIp => rfl
  | named listed visible =>
    rw [parse?_named listed, trimmedNonBlank?_eq, visible]
    rfl
  | custom visible other apart => exact parse?_custom trimmed visible other apart

theorem parse?_eq_some_iff : parse? key = some l ↔ Names (trim key) l := by
  rw [← parse?_congr (trim_trim key)]
  exact ⟨names_of_parse? (trim_trim key), parse?_of_names (trim_trim key)⟩

theorem display_named (listed : (key, kind) ∈ namedKinds) (name : String) :
    (kind name).display = key ++ name := by
  rcases named_cases listed with ⟨rfl, rfl⟩ | ⟨rfl, rfl⟩ | ⟨rfl, rfl⟩
  · rfl
  · rfl
  · rfl

theorem tidy_named (listed : (key, kind) ∈ namedKinds) :
    (kind name).Tidy ↔ trim name = name ∧ isBlank name = false := by
  rcases named_cases listed with ⟨rfl, rfl⟩ | ⟨rfl, rfl⟩ | ⟨rfl, rfl⟩
  · rfl
  · rfl
  · rfl

theorem Names.display (names : Names key l) : Names l.display l := by
  cases names with
  | method => exact .method
  | path => exact .path
  | callerIp => exact .callerIp
  | @named key name kind listed visible =>
    have again : Names (key ++ trim name) (kind (trim (trim name))) :=
      .named listed ((isBlank_trim name).trans visible)
    rw [display_named listed]
    rwa [trim_trim] at again
  | custom visible other apart => exact .custom visible other apart

theorem Names.trim_display (names : Names key l) (trimmed : trim key = key) :
    trim l.display = l.display := by
  cases names with
  | method => rfl
  | path => rfl
  | callerIp => rfl
  | @named key name kind listed visible =>
    obtain ⟨fixed, nonempty⟩ := trimmed_of_named _ listed
    rw [display_named listed]
    exact trim_append_self fixed nonempty (trim_trim name)
  | custom visible other apart => exact trimmed

theorem Names.tidy (names : Names key l) (trimmed : trim key = key) : l.Tidy := by
  cases names with
  | method => trivial
  | path => trivial
  | callerIp => trivial
  | @named key name kind listed visible =>
    rw [tidy_named listed]
    exact ⟨trim_trim name, (isBlank_trim name).trans visible⟩
  | custom visible other apart =>
    refine ⟨trimmed, Bool.eq_false_iff.mpr fun blank => visible ?_⟩
    rw [← trimmed]
    exact isBlank_iff_trim.mp blank

theorem parse?_display (found : parse? key = some l) : parse? l.display = some l := by
  rw [parse?_eq_some_iff] at found
  exact parse?_of_names (found.trim_display (trim_trim key)) found.display

theorem exists_key_of_mem_labelsOf {rule : RoutingRule} (member : l ∈ labelsOf (.routing rule)) :
    ∃ key, parse? key = some l := by
  rw [labelsOf, Ascending.mem_ofList, List.mem_flatMap] at member
  obtain ⟨route, -, inside⟩ := member
  obtain ⟨source, -, inside⟩ := List.mem_flatMap.mp inside
  obtain ⟨key, -, found⟩ := List.mem_filterMap.mp inside
  exact ⟨key, found⟩

/-- What a key names is read back from its text, whatever white space stands around the key. -/
theorem labels_read_back :
    (∀ key l, parse? key = some l → parse? l.display = some l ∧ l.Tidy) ∧
      (∀ front key back, isBlank front = true → isBlank back = true →
        parse? (front ++ key ++ back) = parse? key) ∧
      ∀ rule, ∀ a ∈ labelsOf (.routing rule), ∀ b ∈ labelsOf (.routing rule),
        a ≠ b → a.display ≠ b.display := by
  refine ⟨?_, ?_, ?_⟩
  · intro key l found
    have names := parse?_eq_some_iff.mp found
    exact ⟨parse?_display found, names.tidy (trim_trim key)⟩
  · intro front key back before behind
    exact parse?_congr (trim_pad before behind key)
  · intro rule a inside b inside' differ same
    obtain ⟨key, found⟩ := exists_key_of_mem_labelsOf inside
    obtain ⟨key', found'⟩ := exists_key_of_mem_labelsOf inside'
    have read := parse?_display found
    rw [same, parse?_display found'] at read
    exact differ (Option.some.inj read).symm

def nestedKeys : RoutingRule where
  inbounds := [⟨[⟨none, none, .ofList [("$header. $query.uid\t", default)]⟩], []⟩]
  outbounds := [⟨[⟨none, none, .ofList [("$headers", default)]⟩], []⟩]

theorem labels_read_back_nested :
    let key := "$header. $query.uid"
    let nested : Label := .header "$query.uid"
    let custom : Label := .custom "$headers"
    (parse? key = some nested ∧ parse? nested.display = some nested ∧ nested.Tidy) ∧
      parse? ("\u3000" ++ key ++ "\t ") = some nested ∧
      (nested ∈ labelsOf (.routing nestedKeys) ∧ custom ∈ labelsOf (.routing nestedKeys) ∧
        nested.display ≠ custom.display) := by
  intro key nested custom
  obtain ⟨reads, pads, differ⟩ := labels_read_back
  have named : parse? key = some nested := by decide
  have members : nested ∈ (labelsOf (.routing nestedKeys)).elems ∧
      custom ∈ (labelsOf (.routing nestedKeys)).elems := by decide
  refine ⟨⟨named, reads key nested named⟩, ?_, members.1, members.2, ?_⟩
  · rw [pads "\u3000" key "\t " (by decide) (by decide), named]
  · exact differ nestedKeys nested members.1 custom members.2 (by decide)

end TrafficControl.Label
