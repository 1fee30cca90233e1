import TrafficControl.Text.Blank
import TrafficControl.Text.Split
import Mathlib.Data.List.Infix
import Mathlib.Data.List.TakeWhile

namespace TrafficControl.Text

variable {p : Char → Bool} {front rest : List Char} {stop : Char}

def Stops (p : Char → Bool) (text : List Char) : Prop := ∀ c ∈ text.head?, p c = false

theorem Stops.nil : Stops p [] := nofun

theorem Stops.cons {c : Char} (ends : p c = false) : Stops p (c :: rest) := by
  rintro _ ⟨⟩
  exact ends

theorem forall_mem_of_all {cs : List Char} {b : Bool} (checked : cs.all (p · == b) = true) :
    ∀ c ∈ cs, p c = b := by
  simpa using checked

theorem takeWhile_append (stops : Stops p rest) :
    (front ++ rest).takeWhile p = front.takeWhile p := by
  induction front with
  | nil =>
    cases rest with
    | nil => rfl
    | cons c more => simp [stops c rfl]
  | cons c front ih => simp only [List.cons_append, List.takeWhile_cons, ih]

theorem dropWhile_append (stops : Stops p rest) :
    (front ++ rest).dropWhile p = front.dropWhile p ++ rest := by
  induction front with
  | nil =>
    cases rest with
    | nil => rfl
    | cons c more => simp [stops c rfl]
  | cons c front ih =>
    simp only [List.cons_append, List.dropWhile_cons, ih]
    split <;> rfl

theorem takeWhile_run (run : ∀ c ∈ front, p c = true) (stops : Stops p rest) :
    (front ++ rest).takeWhile p = front := by
  rw [takeWhile_append stops, List.takeWhile_eq_self_iff.mpr run]

theorem dropWhile_run (run : ∀ c ∈ front, p c = true) (stops : Stops p rest) :
    (front ++ rest).dropWhile p = rest := by
  rw [dropWhile_append stops, List.dropWhile_eq_nil_iff.mpr run, List.nil_append]

theorem cut?_append (absent : stop ∉ front) :
    cut? stop (front ++ stop :: rest) = some (front, rest) := by
  induction front with
  | nil => simp [cut?]
  | cons c front ih =>
    obtain ⟨other, later⟩ : stop ≠ c ∧ stop ∉ front := by simpa using absent
    simp [cut?, Ne.symm other, ih later]

theorem splitOn_single (absent : stop ∉ front) : splitOn stop front = [front] := by
  induction front with
  | nil => rfl
  | cons c front ih =>
    obtain ⟨other, later⟩ : stop ≠ c ∧ stop ∉ front := by simpa using absent
    simp [splitOn, Ne.symm other, ih later]

theorem splitOn_append (absent : stop ∉ front) :
    splitOn stop (front ++ stop :: rest) = front :: splitOn stop rest := by
  induction front with
  | nil => simp [splitOn]
  | cons c front ih =>
    obtain ⟨other, later⟩ : stop ≠ c ∧ stop ∉ front := by simpa using absent
    simp [splitOn, Ne.symm other, ih later]

theorem splitOn_intercalate {parts : List (List Char)} (nonempty : parts ≠ [])
    (absent : ∀ part ∈ parts, stop ∉ part) : splitOn stop ([stop].intercalate parts) = parts := by
  induction parts with
  | nil => exact absurd rfl nonempty
  | cons part more ih =>
    obtain ⟨own, others⟩ := List.forall_mem_cons.mp absent
    cases more with
    | nil => simpa using splitOn_single own
    | cons next rest =>
      rw [List.intercalate_cons_cons, List.append_assoc, List.singleton_append, splitOn_append own,
        ih (List.cons_ne_nil _ _) others]

theorem splitOn_ne_nil (sep : Char) (cs : List Char) : splitOn sep cs ≠ [] := by
  cases cs with
  | nil => exact List.cons_ne_nil _ _
  | cons c rest =>
    rw [splitOn]
    split
    · exact List.cons_ne_nil _ _
    · split <;> exact List.cons_ne_nil _ _

theorem splitOn_cons_other {sep c : Char} (other : c ≠ sep) (cs : List Char) :
    ∃ part parts, splitOn sep cs = part :: parts ∧
      splitOn sep (c :: cs) = (c :: part) :: parts := by
  obtain ⟨part, parts, cut⟩ := List.exists_cons_of_ne_nil (splitOn_ne_nil sep cs)
  refine ⟨part, parts, cut, ?_⟩
  rw [splitOn, if_neg other, cut]

theorem splitOn_join (sep : Char) (first second : List Char) :
    splitOn sep (first ++ sep :: second) = splitOn sep first ++ splitOn sep second := by
  induction first with
  | nil => simp [splitOn]
  | cons c first ih =>
    by_cases same : c = sep
    · simp only [List.cons_append, splitOn, same, if_true, ih]
    · obtain ⟨part, parts, cut, longer⟩ := splitOn_cons_other same first
      obtain ⟨part', parts', cut', longer'⟩ := splitOn_cons_other same (first ++ sep :: second)
      rw [List.cons_append, longer, longer', List.cons_append]
      rw [ih, cut, List.cons_append] at cut'
      cases cut'
      rfl

theorem length_splitOn (sep : Char) (cs : List Char) :
    (splitOn sep cs).length = cs.count sep + 1 := by
  induction cs with
  | nil => rfl
  | cons c rest ih =>
    by_cases same : c = sep
    · rw [splitOn, if_pos same, List.length_cons, ih, same, List.count_cons_self]
    · obtain ⟨part, parts, cut, longer⟩ := splitOn_cons_other same rest
      rw [longer, List.count_cons_of_ne same, ← ih, cut, List.length_cons, List.length_cons]

theorem afterWord?_append (word rest : List Char) : afterWord? word (word ++ rest) = some rest := by
  induction word with
  | nil => rfl
  | cons c word ih => simpa [afterWord?] using ih

theorem afterWord?_eq_some_iff {word cs : List Char} :
    afterWord? word cs = some rest ↔ cs = word ++ rest := by
  constructor
  · intro found
    induction word generalizing cs with
    | nil => exact Option.some.inj found
    | cons w word ih =>
      cases cs with
      | nil => cases found
      | cons c cs =>
        rw [afterWord?] at found
        split at found
        · next same => rw [same, ih found, List.cons_append]
        · cases found
  · rintro rfl
    exact afterWord?_append word rest

theorem eq_of_cut? {cs before after : List Char} (found : cut? stop cs = some (before, after)) :
    cs = before ++ stop :: after ∧ stop ∉ before := by
  induction cs generalizing before with
  | nil => cases found
  | cons c cs ih =>
    rw [cut?] at found
    split at found
    · next same =>
      cases found
      exact ⟨by rw [same, List.nil_append], List.not_mem_nil⟩
    · next other =>
      obtain ⟨⟨b, a⟩, cut, same⟩ := Option.map_eq_some_iff.mp found
      cases same
      obtain ⟨text, absent⟩ := ih cut
      exact ⟨by rw [text, List.cons_append], by simp [Ne.symm other, absent]⟩

theorem cut?_eq_none {cs : List Char} (absent : stop ∉ cs) : cut? stop cs = none := by
  induction cs with
  | nil => rfl
  | cons c cs ih =>
    obtain ⟨other, later⟩ : stop ≠ c ∧ stop ∉ cs := by simpa using absent
    simp [cut?, Ne.symm other, ih later]

theorem not_mem_of_cut?_eq_none {cs : List Char} (uncut : cut? stop cs = none) : stop ∉ cs := by
  intro member
  obtain ⟨front, rest, rfl, absent⟩ := List.eq_append_cons_of_mem member
  cases uncut.symm.trans (cut?_append absent)

theorem afterWord?_eq_none_iff {word cs : List Char} :
    afterWord? word cs = none ↔ ¬word <+: cs := by
  constructor
  · rintro absent ⟨rest, rfl⟩
    cases absent.symm.trans (afterWord?_append word rest)
  · intro absent
    cases found : afterWord? word cs with
    | none => rfl
    | some rest => exact absurd ⟨rest, (afterWord?_eq_some_iff.mp found).symm⟩ absent

theorem not_infix_of_cutWord?_eq_none {word cs : List Char} (uncut : cutWord? word cs = none) :
    ¬word <:+: cs := by
  induction cs with
  | nil =>
    rw [cutWord?, Option.map_eq_none_iff, afterWord?_eq_none_iff] at uncut
    simpa using uncut
  | cons c cs ih =>
    rw [cutWord?] at uncut
    split at uncut
    · cases uncut
    · next elsewhere =>
      rw [List.infix_cons_iff]
      rintro (start | later)
      · exact afterWord?_eq_none_iff.mp elsewhere start
      · exact ih (Option.map_eq_none_iff.mp uncut) later

theorem eq_of_cutWord? {word cs before after : List Char} (nonempty : word ≠ [])
    (found : cutWord? word cs = some (before, after)) :
    cs = before ++ (word ++ after) ∧ ¬word <:+: before := by
  induction cs generalizing before with
  | nil =>
    obtain ⟨rest, cut, same⟩ := Option.map_eq_some_iff.mp found
    cases same
    have start : [] = word ++ after := afterWord?_eq_some_iff.mp cut
    exact ⟨start, fun inside => nonempty (List.infix_nil.mp inside)⟩
  | cons c cs ih =>
    rw [cutWord?] at found
    split at found
    · next cut =>
      cases found
      have start : c :: cs = word ++ after := afterWord?_eq_some_iff.mp cut
      exact ⟨start, fun inside => nonempty (List.infix_nil.mp inside)⟩
    · next elsewhere =>
      obtain ⟨⟨b, _⟩, cut, same⟩ := Option.map_eq_some_iff.mp found
      cases same
      obtain ⟨text, absent⟩ := ih cut
      refine ⟨by rw [text, List.cons_append], ?_⟩
      rw [List.infix_cons_iff]
      rintro (⟨rest, start⟩ | later)
      · refine afterWord?_eq_none_iff.mp elsewhere ⟨rest ++ (word ++ after), ?_⟩
        rw [text, ← List.append_assoc, start, List.cons_append]
      · exact absent later

theorem dropWhile_stops (stops : Stops p rest) : rest.dropWhile p = rest := by
  have vacuous : ∀ c ∈ [], p c = true := nofun
  exact dropWhile_run vacuous stops

def EndsVisibly (cs : List Char) : Prop := ∀ c ∈ cs.getLast?, isBlankChar c = false

instance (cs : List Char) : Decidable (EndsVisibly cs) :=
  decidable_of_iff (cs.getLast?.all fun c => isBlankChar c == false) <| by
    simp [EndsVisibly, Option.all_eq_true]

theorem EndsVisibly.of_suffix {cs : List Char} (ends : EndsVisibly cs) (part : rest <:+ cs) :
    EndsVisibly rest := by
  obtain ⟨front, rfl⟩ := part
  intro c last
  cases rest with
  | nil => cases last
  | cons d more => exact ends c (by rwa [List.getLast?_append_of_ne_nil _ (List.cons_ne_nil d more)])

theorem EndsVisibly.append {cs more : List Char} (front : EndsVisibly cs) (back : EndsVisibly more) :
    EndsVisibly (cs ++ more) := by
  cases more with
  | nil => rwa [List.append_nil]
  | cons d more =>
    rw [EndsVisibly, List.getLast?_append_of_ne_nil _ (List.cons_ne_nil d more)]
    exact back

theorem trimChars_of_endsVisibly {cs : List Char} (ends : EndsVisibly cs) :
    trimChars cs = cs.dropWhile isBlankChar := by
  have stops : Stops isBlankChar (cs.dropWhile isBlankChar).reverse := by
    rw [Stops, List.head?_reverse]
    exact ends.of_suffix (List.dropWhile_suffix _)
  rw [trimChars, strip, dropWhile_stops stops, List.reverse_reverse]

theorem trimChars_suffix {cs : List Char} (ends : EndsVisibly cs) : trimChars cs <:+ cs := by
  rw [trimChars_of_endsVisibly ends]
  exact List.dropWhile_suffix _

theorem trimChars_append {cs more : List Char} (ends : EndsVisibly cs)
    (starts : Stops isBlankChar more) (closes : EndsVisibly more) :
    trimChars (cs ++ more) = trimChars cs ++ more := by
  rw [trimChars_of_endsVisibly (ends.append closes), trimChars_of_endsVisibly ends,
    dropWhile_append starts]

theorem trimChars_eq_self {cs : List Char} (visible : ∀ c ∈ cs, isBlankChar c = false) :
    trimChars cs = cs := by
  have ends : EndsVisibly cs := fun c last => visible c (List.mem_of_getLast? last)
  have starts : Stops isBlankChar cs := fun c first => visible c (List.mem_of_head? first)
  rw [trimChars_of_endsVisibly ends, dropWhile_stops starts]

end TrafficControl.Text
