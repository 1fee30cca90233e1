import TrafficControl.Proofs.Json.ArrayText
import TrafficControl.Proofs.Query.Canonical
import TrafficControl.Proofs.Text.Scan
import TrafficControl.Query.Resolver

namespace TrafficControl.Query

open Text (EndsVisibly trimChars)

theorem trimChars_counted {cs : List Char} (ends : EndsVisibly cs) :
    trimChars (cs ++ lengthSuffix) = trimChars cs ++ lengthSuffix :=
  Text.trimChars_append ends (.cons (by decide)) (by decide)

section Split

variable {cs rest behind path : List Char} {n : Nat}

theorem argument?_suffix (read : argument? rest = some (n, behind)) : behind <:+ rest := by
  unfold argument? at read
  split at read
  · next inner =>
    simp only [Option.bind_eq_bind, Option.bind_eq_some_iff] at read
    obtain ⟨⟨digits, after⟩, cut, index, -, same⟩ := read
    cases same
    obtain ⟨text, -⟩ := Text.eq_of_cut? cut
    exact ⟨'[' :: digits ++ [']'], by simp [text]⟩
  · split at read
    · cases read
      exact List.suffix_rfl
    · obtain ⟨index, -, same⟩ := Option.map_eq_some_iff.mp read
      cases same
      exact List.dropWhile_suffix _

theorem pathAfter?_suffix (read : pathAfter? behind = some path) : path <:+ behind := by
  unfold pathAfter? at read
  split at read <;> cases read
  · exact List.suffix_rfl
  · exact List.suffix_rfl
  · exact List.suffix_cons _ _

theorem splitParam?_eq_some_iff :
    splitParam? cs = some (n, path) ↔
      ∃ rest behind, trimChars cs = "param".toList ++ rest ∧
        argument? rest = some (n, behind) ∧ pathAfter? behind = some path := by
  constructor
  · intro read
    simp only [splitParam?, Option.bind_eq_bind, Option.bind_eq_some_iff] at read
    obtain ⟨rest, word, ⟨m, behind⟩, argument, last, after, same⟩ := read
    cases same
    exact ⟨rest, behind, Text.afterWord?_eq_some_iff.mp word, argument, after⟩
  · rintro ⟨rest, behind, text, argument, after⟩
    rw [splitParam?, text, Text.afterWord?_append]
    simp [argument, after]

theorem splitParam?_suffix (ends : EndsVisibly cs) (read : splitParam? cs = some (n, path)) :
    path <:+ cs := by
  obtain ⟨rest, behind, text, argument, after⟩ := splitParam?_eq_some_iff.mp read
  have last : rest <:+ cs := .trans ⟨_, text.symm⟩ (Text.trimChars_suffix ends)
  exact ((pathAfter?_suffix after).trans (argument?_suffix argument)).trans last

theorem argument?_append (read : argument? rest = some (n, behind)) :
    argument? (rest ++ lengthSuffix) = some (n, behind ++ lengthSuffix) := by
  have stops : Text.Stops Decimal.isDigit lengthSuffix := .cons (by decide)
  unfold argument? at read
  split at read
  · next inner =>
    simp only [Option.bind_eq_bind, Option.bind_eq_some_iff] at read
    obtain ⟨⟨digits, after⟩, cut, index, parsed, same⟩ := read
    cases same
    obtain ⟨text, closed⟩ := Text.eq_of_cut? cut
    have again : Text.cut? ']' (inner ++ lengthSuffix) = some (digits, after ++ lengthSuffix) := by
      rw [text, List.append_assoc, List.cons_append, Text.cut?_append closed]
    simp [argument?, again, parsed]
  · next unbracketed =>
    -- the bare word stays without a bracket, for the suffix starts with a point
    have still : ∀ inner, rest ++ lengthSuffix ≠ '[' :: inner := by
      intro inner same
      cases rest with
      | nil => cases same
      | cons c more => exact unbracketed more (by rw [(List.cons.inj same).1])
    unfold argument?
    split
    · next inner same => exact absurd same (still inner)
    · rw [Text.takeWhile_append stops, Text.dropWhile_append stops]
      split at read
      · cases read
        rfl
      · obtain ⟨index, parsed, same⟩ := Option.map_eq_some_iff.mp read
        cases same
        simp [parsed]

theorem pathAfter?_append (more : behind ≠ []) (read : pathAfter? behind = some path) :
    pathAfter? (behind ++ lengthSuffix) = some (path ++ lengthSuffix) := by
  unfold pathAfter? at read
  split at read
  · exact absurd rfl more
  · cases read
    rfl
  · cases read
    rfl
  · cases read

end Split

/-- The query is the name of an argument, with nothing behind it. -/
def NamesArgument (query : String) : Prop :=
  ∃ rest, trimChars query.toList = "param".toList ++ rest ∧ ∃ n, argument? rest = some (n, [])

instance (query : String) : Decidable (NamesArgument query) :=
  decidable_of_iff
    (((Text.afterWord? "param".toList (trimChars query.toList)).bind argument?).any
      fun read => read.2.isEmpty) <| by
    simp only [Option.any_eq_true, Option.bind_eq_some_iff, Text.afterWord?_eq_some_iff,
      List.isEmpty_iff, Prod.exists, exists_eq_right]
    rw [exists_comm]
    simp only [exists_and_left, NamesArgument]

/-- The query can be followed on the arguments, as written, and selects the nodes. -/
def Selects (query : String) (arguments : List Value) (nodes : List Json) : Prop :=
  ∃ n path segments argument, splitParam? query.toList = some (n, path) ∧
    JsonPath.ofText? (absolute (trimChars path)) = some segments ∧
    arguments[n]? = some argument ∧ nodes = JsonPath.query segments argument.toJson

section Split

variable {query : String} {path : List Char} {n : Nat}

theorem toList_lengthSuffix (query : String) :
    (query ++ ".length()").toList = query.toList ++ lengthSuffix := String.toList_append

theorem splitParam?_counted (ends : EndsVisibly query.toList) (more : ¬ NamesArgument query)
    (read : splitParam? query.toList = some (n, path)) :
    splitParam? (query ++ ".length()").toList = some (n, path ++ lengthSuffix) := by
  obtain ⟨rest, behind, text, argument, after⟩ := splitParam?_eq_some_iff.mp read
  have longer : behind ≠ [] := by
    rintro rfl
    exact more ⟨rest, text, n, argument⟩
  rw [toList_lengthSuffix, splitParam?_eq_some_iff]
  refine ⟨rest ++ lengthSuffix, behind ++ lengthSuffix, ?_, argument?_append argument,
    pathAfter?_append longer after⟩
  rw [trimChars_counted ends, text, List.append_assoc]

theorem splitParam?_bare (ends : EndsVisibly query.toList) (bare : NamesArgument query) :
    ∃ n, splitParam? query.toList = some (n, []) ∧
      splitParam? (query ++ ".length()").toList = some (n, "length()".toList) := by
  obtain ⟨rest, text, n, argument⟩ := bare
  refine ⟨n, splitParam?_eq_some_iff.mpr ⟨rest, [], text, argument, rfl⟩, ?_⟩
  rw [toList_lengthSuffix, splitParam?_eq_some_iff]
  refine ⟨rest ++ lengthSuffix, lengthSuffix, ?_, argument?_append argument, rfl⟩
  rw [trimChars_counted ends, text, List.append_assoc]

end Split

section Read

variable {query : String} {arguments : List Value} {nodes : List Json}

theorem read?_plain (ends : EndsVisibly query.toList) (uncounted : ¬ lengthSuffix <:+ query.toList)
    (selects : Selects query arguments nodes) :
    Resolver.jsonPath.read? query arguments = showNodes? nodes := by
  obtain ⟨n, path, segments, argument, split, parsed, found, rfl⟩ := selects
  have part : path <:+ query.toList := splitParam?_suffix ends split
  have inner : trimChars path <:+ path := Text.trimChars_suffix (ends.of_suffix part)
  have different : ¬ lengthSuffix <:+ trimChars path :=
    fun last => uncounted ((last.trans inner).trans part)
  simp [Resolver.read?, readJsonPath?, split, withoutLength_of_not_suffix different, parsed, found]

theorem read?_counted (ends : EndsVisibly query.toList) (more : ¬ NamesArgument query)
    (selects : Selects query arguments nodes) :
    Resolver.jsonPath.read? (query ++ ".length()") arguments = (countNodes? nodes).map toString := by
  obtain ⟨n, path, segments, argument, split, parsed, found, rfl⟩ := selects
  have counted := splitParam?_counted ends more split
  have trimmed : trimChars (path ++ lengthSuffix) = trimChars path ++ lengthSuffix :=
    trimChars_counted (ends.of_suffix (splitParam?_suffix ends split))
  simp only [Resolver.read?, readJsonPath?, counted, trimmed, withoutLength_append, parsed, found,
    Option.bind_eq_bind, Option.bind_some, if_true]
  rfl

theorem read?_bare (ends : EndsVisibly query.toList) (bare : NamesArgument query)
    (arguments : List Value) : Resolver.jsonPath.read? (query ++ ".length()") arguments = none := by
  obtain ⟨n, -, counted⟩ := splitParam?_bare ends bare
  have left : withoutLength (trimChars "length()".toList) = ("length()".toList, false) := by decide
  have refused : JsonPath.ofText? (absolute "length()".toList) = none := rfl
  simp only [Resolver.read?, readJsonPath?, counted, left, refused, Option.bind_eq_bind,
    Option.bind_some, Option.bind_none]

theorem Selects.of_bare (ends : EndsVisibly query.toList) (bare : NamesArgument query)
    (selects : Selects query arguments nodes) : ∃ argument : Value, nodes = [argument.toJson] := by
  obtain ⟨n, path, segments, argument, split, parsed, found, rfl⟩ := selects
  obtain ⟨m, alone, -⟩ := splitParam?_bare ends bare
  have root : JsonPath.ofText? (absolute (trimChars [])) = some [] := rfl
  rw [split] at alone
  cases alone
  rw [root] at parsed
  cases parsed
  exact ⟨argument, rfl⟩

end Read

structure Counts (answer text : Option String) (nodes : List Json) : Prop where
  absent : answer = none ↔ nodes = []
  elements : ∀ elems, nodes = [.array elems] → answer = some (toString elems.length)
  members : ∀ members, nodes = [.object members] → answer = some (toString members.length)
  several : 2 ≤ nodes.length → answer = some (toString nodes.length) ∧
    text = some (Json.array nodes).render ∧
    Json.elementsShown (Json.array nodes).render = nodes.length

theorem countNodes?_eq_none_iff {nodes : List Json} : countNodes? nodes = none ↔ nodes = [] := by
  unfold countNodes?
  split
  · simp
  · simp
  · simp
  · next filled _ _ => exact ⟨nofun, fun empty => absurd empty filled⟩

theorem counts_nodes (nodes : List Json) :
    Counts ((countNodes? nodes).map toString) (showNodes? nodes) nodes where
  absent := by rw [Option.map_eq_none_iff, countNodes?_eq_none_iff]
  elements := by
    rintro elems rfl
    rfl
  members := by
    rintro members rfl
    rfl
  several := by
    intro several
    obtain ⟨a, b, rest, rfl⟩ : ∃ a b rest, nodes = a :: b :: rest := by
      match nodes, several with
      | a :: b :: rest, _ => exact ⟨a, b, rest, rfl⟩
    exact ⟨by simp [countNodes?], by simp [showNodes?], Json.elementsShown_render several⟩

/-- With `.length()` behind it a query counts what it selects, unless it is the bare name of an
argument. -/
theorem length_counts_iff {query : String} {arguments : List Value} {nodes : List Json}
    (ends : EndsVisibly query.toList) (uncounted : ¬ lengthSuffix <:+ query.toList)
    (selects : Selects query arguments nodes) :
    Counts (Resolver.jsonPath.read? (query ++ ".length()") arguments)
      (Resolver.jsonPath.read? query arguments) nodes ↔ ¬ NamesArgument query := by
  constructor
  · intro counts bare
    obtain ⟨argument, rfl⟩ := selects.of_bare ends bare
    exact nomatch counts.absent.mp (read?_bare ends bare arguments)
  · intro more
    rw [read?_counted ends more selects, read?_plain ends uncounted selects]
    exact counts_nodes nodes

def shelf : Value := .seq [.record "Book" [("isbn", .str "a,[b")], .str "x", .bytes [7, 8]]

theorem length_counts_iff_shelf :
    let nodes : List Json := [.object [("isbn", .str "a,[b")], .array [.int 7, .int 8]]
    Resolver.jsonPath.read? "param[1][0,2]" [.null, shelf] = some (Json.array nodes).render ∧
      Json.elementsShown (Json.array nodes).render = 2 ∧
      Resolver.jsonPath.read? "param[1][0,2].length()" [.null, shelf] = some "2" := by
  intro nodes
  have ends : EndsVisibly "param[1][0,2]".toList := by decide
  have selects : Selects "param[1][0,2]" [.null, shelf] nodes :=
    ⟨1, "[0,2]".toList, [.child [.index 0, .index 2]], shelf, by decide +kernel, rfl, rfl, rfl⟩
  have counts := (length_counts_iff ends (by decide) selects).mpr (by decide +kernel)
  obtain ⟨counted, text, shown⟩ := counts.several (Nat.le_refl 2)
  have spelled : "param[1][0,2]" ++ ".length()" = "param[1][0,2].length()" := by decide
  have two : toString nodes.length = "2" := by decide
  rw [← spelled, ← two]
  exact ⟨text, shown, counted⟩

/-- The first argument is an array of two elements, and its name with `.length()` behind it reads
nothing. -/
theorem bare_length_reads_nothing :
    Selects "param" [.seq [.int 7, .int 8]] [.array [.int 7, .int 8]] ∧
      Resolver.jsonPath.read? "param.length()" [.seq [.int 7, .int 8]] = none ∧
      ¬ Counts (Resolver.jsonPath.read? "param.length()" [.seq [.int 7, .int 8]])
        (Resolver.jsonPath.read? "param" [.seq [.int 7, .int 8]]) [.array [.int 7, .int 8]] := by
  have nothing : Resolver.jsonPath.read? "param.length()" [.seq [.int 7, .int 8]] = none := by
    decide +kernel
  refine ⟨⟨0, [], [], .seq [.int 7, .int 8], by decide +kernel, rfl, rfl, rfl⟩, nothing, ?_⟩
  intro counts
  exact nomatch counts.absent.mp nothing

end TrafficControl.Query
