import TrafficControl.Proofs.Text.Marks
import TrafficControl.Url

namespace TrafficControl.Url

open Text

@[ext]
structure Layout where
  scheme : List Char
  authority : List Char
  slashes : Nat
  query? : Option (List Char)

namespace Layout

def path (l : Layout) : List Char := l.authority ++ List.replicate l.slashes '/'

def tail (l : Layout) : List Char := l.query?.elim [] fun query => '?' :: query

def text (l : Layout) : List Char := l.scheme ++ (separator ++ (l.path ++ l.tail))

/-- The scheme ends at the first separator, the authority at the first question mark, and no slash
at its end is left in it. -/
structure Exact (l : Layout) : Prop where
  scheme : ¬separator <:+: l.scheme
  authority : '?' ∉ l.authority
  trimmed : l.authority.getLast? ≠ some '/'

end Layout

variable {stop : Char} {front : List Char}

theorem dropTrailing_append (ends : front.getLast? ≠ some stop) (n : Nat) :
    dropTrailing stop (front ++ List.replicate n stop) = front := by
  have run : ∀ c ∈ List.replicate n stop, decide (c = stop) = true :=
    fun c member => by simpa using List.eq_of_mem_replicate member
  have stops : Stops (fun c => decide (c = stop)) front.reverse := by
    intro c first
    rw [List.head?_reverse] at first
    simp only [decide_eq_false_iff_not]
    rintro rfl
    exact ends first
  rw [dropTrailing, List.reverse_append, List.reverse_replicate, dropWhile_run run stops,
    List.reverse_reverse]

theorem dropTrailing_spec (stop : Char) (cs : List Char) :
    (∃ n, cs = dropTrailing stop cs ++ List.replicate n stop) ∧
      (dropTrailing stop cs).getLast? ≠ some stop := by
  constructor
  · have parts : cs.reverse.takeWhile (· = stop) ++ cs.reverse.dropWhile (· = stop) = cs.reverse :=
      List.takeWhile_append_dropWhile
    have run : cs.reverse.takeWhile (· = stop) =
        List.replicate (cs.reverse.takeWhile (· = stop)).length stop :=
      List.eq_replicate_of_mem fun c member => by simpa using List.mem_takeWhile_imp member
    refine ⟨(cs.reverse.takeWhile (· = stop)).length, ?_⟩
    have whole := congrArg List.reverse parts
    rw [List.reverse_append, List.reverse_reverse, run, List.reverse_replicate] at whole
    exact whole.symm
  · intro last
    have first := List.head?_dropWhile_not (fun c => decide (c = stop)) cs.reverse
    rw [dropTrailing, List.getLast?_reverse] at last
    rw [last] at first
    simp at first

namespace Layout

variable {l : Layout}

theorem cutWord?_text (exact : l.Exact) :
    cutWord? separator l.text = some (l.scheme, l.path ++ l.tail) := by
  have once : LeadsOnce ':' separator := by decide
  rw [text, cutWord?_append once exact.scheme]

theorem cut?_path (exact : l.Exact) :
    cut? '?' (l.path ++ l.tail) = l.query?.map fun query => (l.path, query) := by
  have absent : '?' ∉ l.path := by
    simp only [path, List.mem_append, List.mem_replicate, not_or]
    exact ⟨exact.authority, by simp⟩
  unfold tail
  cases l.query? with
  | none => simp [cut?_eq_none absent]
  | some query => simp [cut?_append absent]

theorem dropTrailing_path (exact : l.Exact) : dropTrailing '/' l.path = l.authority :=
  dropTrailing_append exact.trimmed l.slashes

theorem eq_of_text {l₁ l₂ : Layout} (exact₁ : l₁.Exact) (exact₂ : l₂.Exact)
    (same : l₁.text = l₂.text) : l₁ = l₂ := by
  have cuts := cutWord?_text exact₁
  rw [same, cutWord?_text exact₂, Option.some.injEq, Prod.mk.injEq] at cuts
  obtain ⟨schemes, rests⟩ := cuts
  have queries := cut?_path exact₁
  rw [← rests, cut?_path exact₂] at queries
  have both : l₁.path = l₂.path ∧ l₁.query? = l₂.query? := by
    cases query₁ : l₁.query? <;> cases query₂ : l₂.query? <;>
      simp_all [tail]
  obtain ⟨paths, queries⟩ := both
  have authorities : l₁.authority = l₂.authority := by
    rw [← dropTrailing_path exact₁, ← dropTrailing_path exact₂, paths]
  have slashes : l₁.slashes = l₂.slashes := by
    have lengths := congrArg List.length paths
    simpa [path, authorities] using lengths
  exact Layout.ext schemes.symm authorities slashes queries

theorem parse_text (exact : l.Exact) :
    Url.parse (String.ofList l.text) =
      if l.scheme = [] ∨ l.path = [] then .error (malformed (String.ofList l.text))
      else (parseQuery (l.query?.getD [])).map fun params =>
        ⟨Text.lower (String.ofList l.scheme), String.ofList l.authority, params⟩ := by
  have cut : cutWord? separator (String.ofList l.text).toList =
      some (l.scheme, l.path ++ l.tail) := by
    rw [String.toList_ofList, cutWord?_text exact]
  have parts : (cut? '?' (l.path ++ l.tail)).getD (l.path ++ l.tail, []) =
      (l.path, l.query?.getD []) := by
    rw [cut?_path exact]
    cases query : l.query? with
    | none => simp [tail, query]
    | some => rfl
  unfold Url.parse
  simp only [cut, parts, Bool.or_eq_true, List.isEmpty_iff]
  split
  · rfl
  · rw [dropTrailing_path exact]
    cases parseQuery (l.query?.getD []) <;> rfl

theorem exists_of_path {scheme path : List Char} (query? : Option (List Char))
    (clear : ¬separator <:+: scheme) (absent : '?' ∉ path) :
    ∃ l : Layout, l.Exact ∧ l.scheme = scheme ∧ l.path = path ∧ l.query? = query? := by
  obtain ⟨⟨slashes, whole⟩, trimmed⟩ := dropTrailing_spec '/' path
  refine ⟨⟨scheme, dropTrailing '/' path, slashes, query?⟩, ⟨clear, ?_, trimmed⟩, rfl, whole.symm, rfl⟩
  intro member
  rw [whole] at absent
  exact absent (List.mem_append_left _ member)

theorem exists_of_cut {cs scheme rest : List Char}
    (found : cutWord? separator cs = some (scheme, rest)) :
    ∃ l : Layout, l.Exact ∧ cs = l.text := by
  obtain ⟨whole, clear⟩ := eq_of_cutWord? (by decide) found
  cases cut : cut? '?' rest with
  | none =>
    obtain ⟨l, exact, rfl, rfl, without⟩ :=
      exists_of_path none clear (not_mem_of_cut?_eq_none cut)
    exact ⟨l, exact, by rw [whole, text, tail, without, Option.elim_none, List.append_nil]⟩
  | some parts =>
    obtain ⟨before, query⟩ := parts
    obtain ⟨rfl, absent⟩ := eq_of_cut? cut
    obtain ⟨l, exact, rfl, rfl, with_query⟩ := exists_of_path (some query) clear absent
    exact ⟨l, exact, by rw [whole, text, tail, with_query, Option.elim_some]⟩

theorem exists_of_parse {url : String} {parsed : Url} (accepted : Url.parse url = .ok parsed) :
    ∃ l : Layout, l.Exact ∧ url.toList = l.text ∧
      parseQuery (l.query?.getD []) = .ok parsed.params ∧
      parsed.scheme = Text.lower (String.ofList l.scheme) ∧
      parsed.address = String.ofList l.authority := by
  have found : ∃ scheme rest, cutWord? separator url.toList = some (scheme, rest) := by
    cases cut : cutWord? separator url.toList with
    | none => simp [Url.parse, cut] at accepted
    | some parts => exact ⟨parts.1, parts.2, rfl⟩
  obtain ⟨scheme, rest, found⟩ := found
  obtain ⟨l, exact, whole⟩ := exists_of_cut found
  have text : url = String.ofList l.text := by rw [← whole, String.ofList_toList]
  rw [text, parse_text exact] at accepted
  split at accepted
  · cases accepted
  · cases params : parseQuery (l.query?.getD []) with
    | error failure =>
      rw [params] at accepted
      cases accepted
    | ok table =>
      rw [params] at accepted
      cases accepted
      exact ⟨l, exact, whole, params, rfl, rfl⟩

end Layout

end TrafficControl.Url
