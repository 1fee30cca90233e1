import Mathlib.Algebra.Group.Nat.Defs
import Mathlib.Data.List.Forall2
import Mathlib.Data.List.Induction
import Mathlib.Data.List.Nodup
import Mathlib.Data.List.Pairwise
import TrafficControl.Document.Reader

namespace TrafficControl

namespace Document

theorem elemsOfJson_eq_map (elems : List Json) : elemsOfJson elems = elems.map ofJson := by
  induction elems with
  | nil => rfl
  | cons j rest ih => rw [elemsOfJson, ih, List.map_cons]

theorem entriesOfJson_eq_map (members : List (String × Json)) :
    entriesOfJson members = members.map fun m => (.str m.1, ofJson m.2) := by
  induction members with
  | nil => rfl
  | cons m rest ih => rw [entriesOfJson, ih, List.map_cons]

end Document

/-- How a tree can be loosened: the full tree, and what may stand for it. -/
abbrev Loosening := Json → Json → Prop

namespace Loosening

def rigid : Loosening := fun full loose => loose = full

def optional (content : Loosening) : Loosening := fun full loose =>
  full = .null ∧ loose = .null ∨ full ≠ .null ∧ content full loose

def elements (each : Loosening) : Loosening := fun full loose =>
  ∃ fs ls, full = .array fs ∧ loose = .array ls ∧ List.Forall₂ each fs ls

def values (each : Loosening) : Loosening := fun full loose =>
  ∃ fs ls, full = .object fs ∧ loose = .object ls ∧
    List.Forall₂ (fun f l => l.1 = f.1 ∧ each f.2 l.2) fs ls

/-- A field of the full tree is among the members, loosened itself, or it is left out because its
value is the one in `default`. -/
def Has (members : List (String × Json)) (default full : Json)
    (field : String × Loosening) : Prop :=
  ∃ v, full.member? field.1 = some v ∧
    ((∃ j, (field.1, j) ∈ members ∧ field.2 v j) ∨
      field.1 ∉ members.map Prod.fst ∧ default.member? field.1 = some v)

section Has

variable {members : List (String × Json)} {default full v j : Json} {name : String}
  {loosens : Loosening}

theorem Has.kept (there : full.member? name = some v) (found : Entries.get? name members = some j)
    (loosened : loosens v j) : Has members default full (name, loosens) :=
  ⟨v, there, .inl ⟨j, Entries.mem_of_get? found, loosened⟩⟩

theorem Has.spared (there : full.member? name = some v) (absent : name ∉ members.map Prod.fst)
    (same : default.member? name = some v) : Has members default full (name, loosens) :=
  ⟨v, there, .inr ⟨absent, same⟩⟩

theorem Has.without {before after : List (String × Json)} {m : String × Json}
    {field : String × Loosening} (has : Has (before ++ m :: after) default full field)
    (other : field.1 ≠ m.1) : Has (before ++ after) default full field := by
  obtain ⟨v, there, ⟨j, member, loosened⟩ | ⟨absent, spared⟩⟩ := has
  · refine ⟨v, there, .inl ⟨j, ?_, loosened⟩⟩
    have same : (field.1, j) ≠ m := fun same => other (congrArg Prod.fst same)
    simpa [same] using member
  · refine ⟨v, there, .inr ⟨?_, spared⟩⟩
    simp only [List.map_append, List.map_cons, List.mem_append, List.mem_cons] at absent ⊢
    exact fun member => absent (member.imp_right .inr)

end Has

/-- A record with the known fields. Fields that are not known may be there with any value, and the
fields may stand in any order. -/
def record (default : Json) (known : List (String × Loosening)) : Loosening := fun full loose =>
  ∃ members, loose = .object members ∧ (members.map Prod.fst).Nodup ∧
    ∀ field ∈ known, Has members default full field

end Loosening

namespace Reader

section Accepted

variable {ε : Type*} {α : Type u} {β : Type u}

theorem bind_eq_ok_iff {x : Except ε α} {f : α → Except ε β} {b : β} :
    x >>= f = .ok b ↔ ∃ a, x = .ok a ∧ f a = .ok b := by
  cases x with
  | error => simp [bind, Except.bind]
  | ok a => simp [bind, Except.bind]

theorem map_eq_ok_iff {x : Except ε α} {f : α → β} {b : β} :
    x.map f = .ok b ↔ ∃ a, x = .ok a ∧ f a = b := by
  cases x with
  | error => simp [Except.map]
  | ok a => simp [Except.map]

end Accepted

/-- Reading gives back what was written, from the full tree and from any loosened one. -/
structure Restores {α : Type} (read : Reader α) (write : α → Json)
    (loosens : Loosening) : Prop where
  refl : ∀ x, loosens (write x) (write x)
  reads : ∀ {x loose}, loosens (write x) loose → ∀ place, read place (.ofJson loose) = .ok x

section Values

variable {α : Type} {read : Reader α} {write : α → Json} {loosens : Loosening}

theorem Restores.injective (restores : Restores read write loosens) {x y : α}
    (same : write x = write y) : x = y := by
  have first := restores.reads (restores.refl x) .json
  rw [same, restores.reads (restores.refl y) .json] at first
  exact (Except.ok.inj first).symm

theorem Restores.of_rigid (reads : ∀ place x, read place (.ofJson (write x)) = .ok x) :
    Restores read write .rigid where
  refl := fun _ => rfl
  reads := by
    rintro x _ rfl place
    exact reads place x

theorem restores_text : Restores text .str .rigid :=
  .of_rigid fun place _ => by cases place <;> rfl

theorem restores_boolean : Restores boolean .bool .rigid :=
  .of_rigid fun place _ => by cases place <;> rfl

theorem word_of_lt {bits n : Nat} (small : n < 2 ^ bits) (place : Place) :
    word bits place (.int n) = .ok n := by
  have seen : seen place (.int n) = .int n := by cases place <;> rfl
  simp [word, seen, Nat.shiftLeft_eq, small]

theorem restores_word16 : Restores word16 (fun n => .int n.toNat) .rigid := by
  apply Restores.of_rigid
  intro place n
  rw [word16, Document.ofJson, word_of_lt n.toNat_lt]
  simp [Except.map]

theorem restores_word32 : Restores word32 (fun n => .int n.toNat) .rigid := by
  apply Restores.of_rigid
  intro place n
  rw [word32, Document.ofJson, word_of_lt n.toNat_lt]
  simp [Except.map]

theorem restores_word64 : Restores word64 (fun n => .int n.toNat) .rigid := by
  apply Restores.of_rigid
  intro place n
  rw [word64, Document.ofJson, word_of_lt n.toNat_lt]
  simp [Except.map]

theorem restores_choice {choices : List (String × α)} {name : α → String}
    (named : ∀ c, chosen choices (name c) = .ok c) :
    Restores (choice choices) (fun c => .str (name c)) .rigid :=
  .of_rigid fun place c => by cases place <;> exact named c

theorem Restores.optional (restores : Restores read write loosens)
    (present : ∀ {x loose}, loosens (write x) loose → loose ≠ .null) :
    Restores (Reader.optional read) (fun x? => .ofOption (x?.map write)) loosens.optional where
  refl := by
    intro x?
    cases x? with
    | none => exact .inl ⟨rfl, rfl⟩
    | some x => exact .inr ⟨present (restores.refl x), restores.refl x⟩
  reads := by
    intro x? loose loosened place
    cases x? with
    | none =>
      rcases loosened with ⟨_, rfl⟩ | ⟨there, _⟩
      · rfl
      · exact absurd rfl there
    | some x =>
      rcases loosened with ⟨missing, _⟩ | ⟨_, loosened⟩
      · exact absurd missing (present (restores.refl x))
      · have read_some : read place (.ofJson loose) = .ok x := restores.reads loosened place
        -- any tree but null is left to the reader of the content
        have there := present loosened
        cases loose with
        | null => exact absurd rfl there
        | _ => exact congrArg (Except.map some) read_some

theorem mapM_eq_ok {β ε : Type} {f : α → Except ε β} {as : List α} {bs : List β}
    (each : List.Forall₂ (fun a b => f a = .ok b) as bs) : as.mapM f = .ok bs := by
  induction each with
  | nil => rfl
  | cons head _ ih =>
    rw [List.mapM_cons, head, ih]
    rfl

theorem forall₂_of_mapM {β ε : Type} {f : α → Except ε β} {as : List α} {bs : List β}
    (mapped : as.mapM f = .ok bs) : List.Forall₂ (fun a b => f a = .ok b) as bs := by
  induction as generalizing bs with
  | nil =>
    cases mapped
    exact .nil
  | cons a as ih =>
    rw [List.mapM_cons] at mapped
    obtain ⟨b, first, mapped⟩ := bind_eq_ok_iff.mp mapped
    obtain ⟨bs, rest, same⟩ := bind_eq_ok_iff.mp mapped
    cases same
    exact .cons first (ih rest)

theorem Restores.sequence (restores : Restores read write loosens) :
    Restores (Reader.sequence read) (fun xs => .array (xs.map write)) loosens.elements where
  refl := by
    intro xs
    exact ⟨_, _, rfl, rfl, List.forall₂_same.mpr fun _ member => by
      obtain ⟨x, _, rfl⟩ := List.mem_map.mp member
      exact restores.refl x⟩
  reads := by
    rintro xs _ ⟨_, ls, ⟨⟩, rfl, each⟩ place
    have seen : seen place (.ofJson (.array ls)) = .seq (ls.map Document.ofJson) := by
      rw [Document.ofJson, Document.elemsOfJson_eq_map]
      cases place <;> rfl
    rw [Reader.sequence, seen]
    apply mapM_eq_ok
    rw [List.forall₂_map_left_iff] at each ⊢
    exact each.flip.imp fun _ _ loosened => restores.reads loosened place

theorem Restores.table (restores : Restores read write loosens) :
    Restores (Reader.table read) (fun t => .object (t.entries.map fun e => (e.1, write e.2)))
      loosens.values where
  refl := by
    intro t
    exact ⟨_, _, rfl, rfl, List.forall₂_same.mpr fun _ member => by
      obtain ⟨e, _, rfl⟩ := List.mem_map.mp member
      exact ⟨rfl, restores.refl e.2⟩⟩
  reads := by
    rintro t _ ⟨_, ls, ⟨⟩, rfl, each⟩ place
    have seen : seen place (.ofJson (.object ls)) =
        .map (ls.map fun m => (.str m.1, .ofJson m.2)) := by
      rw [Document.ofJson, Document.entriesOfJson_eq_map]
      cases place <;> rfl
    have entries :
        (ls.map fun m => (Document.str m.1, Document.ofJson m.2)).mapM (entry read place) =
          .ok t.entries := by
      apply mapM_eq_ok
      rw [List.forall₂_map_left_iff] at each ⊢
      apply each.flip.imp
      rintro ⟨_, j⟩ e ⟨rfl, loosened⟩
      have key : text place (.str e.1) = .ok e.1 := restores_text.reads rfl place
      simp only [entry, key, restores.reads loosened place]
      rfl
    simp only [Reader.table, seen, entries, Except.map, Table.ofList,
      Entries.ofList_eq_self t.sorted]

end Values

section Records

variable {α : Type}

/-- A field of a record type: how it is read and put into a record, and how it is taken out and
written. -/
structure Slot (α : Type) where
  name : String
  {β : Type}
  {read : Reader β}
  {write : β → Json}
  {loosens : Loosening}
  restores : Restores read write loosens
  put : β → α → α
  get : α → β
  get_put : ∀ v x, get (put v x) = v

namespace Slot

def field (s : Slot α) : Field α := Reader.field s.name s.read s.put

def known (s : Slot α) : String × Loosening := (s.name, s.loosens)

def tree (s : Slot α) (x : α) : Json := s.write (s.get x)

def Apart (s t : Slot α) : Prop :=
  (∀ v x, t.get (s.put v x) = t.get x) ∧ ∀ v x, s.get (t.put v x) = s.get x

instance : Std.Symm (@Apart α) := ⟨fun _ _ apart => ⟨apart.2, apart.1⟩⟩

end Slot

/-- The fields of a form, each with its tree in what is written. There is nothing else in a
record. -/
structure Form.Slots (form : Form α) (write : α → Json) where
  all : List (Slot α)
  fields : form.fields = all.map Slot.field := by rfl
  distinct : (all.map Slot.name).Nodup := by simp
  apart : all.Pairwise Slot.Apart := by simp [Slot.Apart]
  ext : ∀ x y, (∀ s ∈ all, s.get x = s.get y) → x = y := by
    rintro ⟨⟩ ⟨⟩ same
    simpa using same
  object : ∀ x, ∃ members, write x = .object members ∧ (members.map Prod.fst).Nodup := by
    exact fun _ => ⟨_, rfl, by simp⟩
  trees : ∀ x, all.map (fun s => (write x).member? s.name) =
      all.map fun s => some (s.tree x) := by
    exact fun _ => rfl

variable {form : Form α} {write : α → Json}

structure Draft.Filled (draft : Draft α) (slots : form.Slots write) (x start : α)
    (met : List String) : Prop where
  set : ∀ s ∈ slots.all, s.name ∈ draft.set ↔ s.name ∈ met
  got : ∀ s ∈ slots.all, s.get draft.record = if s.name ∈ met then s.get x else s.get start

namespace Form.Slots

variable (slots : form.Slots write)

theorem eq_of_name {s t : Slot α} (first : s ∈ slots.all) (second : t ∈ slots.all)
    (same : s.name = t.name) : s = t :=
  List.inj_on_of_nodup_map slots.distinct first second same

theorem apart_of_ne {s t : Slot α} (first : s ∈ slots.all) (second : t ∈ slots.all)
    (other : s.name ≠ t.name) : s.Apart t :=
  slots.apart.forall first second fun same => other (congrArg _ same)

theorem find?_field {s : Slot α} (member : s ∈ slots.all) :
    (form.fields.find? fun f => some f.name = some s.name) = some s.field := by
  cases found : form.fields.find? fun f => some f.name = some s.name with
  | none =>
    have there : s.field ∈ form.fields := by
      rw [slots.fields]
      exact List.mem_map_of_mem member
    exact absurd (by simp [Slot.field, field]) (List.find?_eq_none.mp found s.field there)
  | some f =>
    have named := List.find?_some found
    have there := List.mem_of_find?_eq_some found
    rw [slots.fields] at there
    obtain ⟨t, other, rfl⟩ := List.mem_map.mp there
    have same : t.name = s.name := by simpa [Slot.field, field] using named
    rw [slots.eq_of_name other member same]

theorem find?_none {key : String} (unknown : ∀ s ∈ slots.all, s.name ≠ key) :
    (form.fields.find? fun f => some f.name = some key) = none := by
  rw [slots.fields, List.find?_eq_none]
  intro f member
  obtain ⟨s, own, rfl⟩ := List.mem_map.mp member
  simpa [Slot.field, field] using unknown s own

end Form.Slots

theorem fieldName_str (fields : List (Field α)) (place : Place) (key : String) :
    fieldName fields place (.str key) = .ok (some key) := by
  cases place <;> rfl

variable {slots : form.Slots write} {x : α}

theorem Draft.Filled.setField {draft : Draft α} {start : α} {met : List String}
    (filled : draft.Filled slots x start met) {key : String} {j : Json}
    (fresh : key ∉ met) (fits : ∀ s ∈ slots.all, s.name = key → s.loosens (s.tree x) j)
    (place : Place) :
    ∃ next, Reader.setField form.fields place draft (.str key, .ofJson j) = .ok next ∧
      next.Filled slots x start (met ++ [key]) := by
  by_cases known : ∃ s ∈ slots.all, s.name = key
  · obtain ⟨s, member, rfl⟩ := known
    have unset : s.name ∉ draft.set := fun set => fresh ((filled.set s member).mp set)
    have read := s.restores.reads (fits s member rfl) place
    refine ⟨⟨s.put (s.get x) draft.record, s.name :: draft.set⟩, ?_, ?_, ?_⟩
    · simp only [Reader.setField, fieldName_str, bind, Except.bind, slots.find?_field member]
      simp only [Slot.field, field, List.contains_eq_mem, unset, decide_false, read]
      rfl
    · intro t other
      simp [filled.set t other, or_comm]
    · intro t other
      by_cases same : t.name = s.name
      · obtain rfl := slots.eq_of_name other member same
        simp [t.get_put]
      · have apart := slots.apart_of_ne member other (Ne.symm same)
        simp [apart.1, filled.got t other, same]
  · have unknown : ∀ s ∈ slots.all, s.name ≠ key := fun s member same => known ⟨s, member, same⟩
    refine ⟨draft, ?_, ?_, ?_⟩
    · simp only [Reader.setField, fieldName_str, bind, Except.bind, slots.find?_none unknown]
      rfl
    · intro s member
      simp [filled.set s member, unknown s member]
    · intro s member
      simp [filled.got s member, unknown s member]

theorem foldlM_setField (slots : form.Slots write) (start : α) {members : List (String × Json)}
    (distinct : (members.map Prod.fst).Nodup)
    (fits : ∀ s ∈ slots.all, ∀ j, (s.name, j) ∈ members → s.loosens (s.tree x) j) (place : Place) :
    ∃ draft, (Document.entriesOfJson members).foldlM (setField form.fields place) ⟨start, []⟩ =
        .ok draft ∧ draft.Filled slots x start (members.map Prod.fst) := by
  rw [Document.entriesOfJson_eq_map]
  induction members using List.reverseRecOn with
  | nil => exact ⟨⟨start, []⟩, rfl, by simp, by simp⟩
  | append_singleton before m ih =>
    rw [List.map_append, List.nodup_append] at distinct
    obtain ⟨distinct, _, apart⟩ := distinct
    obtain ⟨draft, built, filled⟩ := ih distinct fun s member j there =>
      fits s member j (List.mem_append_left _ there)
    have fresh : m.1 ∉ before.map Prod.fst := fun earlier =>
      apart m.1 earlier m.1 (by simp) rfl
    have here : ∀ s ∈ slots.all, s.name = m.1 → s.loosens (s.tree x) m.2 := by
      intro s member same
      apply fits s member
      simp [same]
    obtain ⟨next, set, filled⟩ := filled.setField fresh here place
    refine ⟨next, ?_, by simpa using filled⟩
    rw [List.map_append, List.foldlM_append, built, List.map_singleton]
    simp only [List.foldlM_cons, List.foldlM_nil, bind, Except.bind, set]
    rfl

theorem ofEntries_members (slots : form.Slots write) {members : List (String × Json)}
    (distinct : (members.map Prod.fst).Nodup)
    (complete : ∀ s ∈ slots.all, (∃ j, (s.name, j) ∈ members ∧ s.loosens (s.tree x) j) ∨
      s.name ∉ members.map Prod.fst ∧ form.required = false ∧ s.get x = s.get form.start)
    (place : Place) : ofEntries form place (Document.entriesOfJson members) = .ok x := by
  have fits : ∀ s ∈ slots.all, ∀ j, (s.name, j) ∈ members → s.loosens (s.tree x) j := by
    intro s member j there
    rcases complete s member with ⟨k, also, fits⟩ | ⟨absent, _⟩
    · have same := List.inj_on_of_nodup_map distinct there also rfl
      cases same
      exact fits
    · exact absurd (List.mem_map_of_mem there) absent
  obtain ⟨draft, built, filled⟩ := foldlM_setField slots form.start distinct fits place
  -- a field that was not met has the value of `start`, and that is the one in `x` as well
  have whole : draft.record = x := by
    apply slots.ext
    intro s member
    rw [filled.got s member]
    rcases complete s member with ⟨j, there, _⟩ | ⟨absent, _, same⟩
    · rw [if_pos (List.mem_map_of_mem there)]
    · rw [if_neg absent, same]
  have enough :
      (form.fields.find? fun f => form.required && !draft.set.contains f.name) = none := by
    rw [slots.fields, List.find?_eq_none]
    intro f member
    obtain ⟨s, own, rfl⟩ := List.mem_map.mp member
    rcases complete s own with ⟨j, there, _⟩ | ⟨_, free, _⟩
    · have set := (filled.set s own).mpr (List.mem_map_of_mem there)
      simp [Slot.field, field, set]
    · simp [free]
  simp only [ofEntries, built, bind, Except.bind, enough, whole]
  rfl

namespace Form.Slots

variable (slots : form.Slots write) {default : Json}

theorem tree (x : α) {s : Slot α} (member : s ∈ slots.all) :
    (write x).member? s.name = some (s.tree x) :=
  List.map_inj_left.mp (slots.trees x) s member

def Defaults (default : Json) : Prop :=
  ∀ s ∈ slots.all, ∀ v, default.member? s.name = some v →
    form.required = false ∧ v = s.tree form.start

theorem defaults_of_trees (free : form.required = false)
    (trees : slots.all.map (fun s => default.member? s.name) =
      slots.all.map fun s => some (s.tree form.start)) :
    slots.Defaults default := by
  intro s member v found
  rw [List.map_inj_left.mp trees s member] at found
  cases found
  exact ⟨free, rfl⟩

theorem defaults_none : slots.Defaults (.object []) := by
  intro s _ v found
  cases found

theorem has_self {members : List (String × Json)} (same : write x = .object members) :
    ∀ field ∈ slots.all.map Slot.known, Loosening.Has members default (write x) field := by
  intro field known
  obtain ⟨s, member, rfl⟩ := List.mem_map.mp known
  have there := slots.tree x member
  have found := there
  rw [same] at found
  exact .kept there found (s.restores.refl (s.get x))

theorem complete (defaults : slots.Defaults default) {members : List (String × Json)}
    (fields : ∀ field ∈ slots.all.map Slot.known,
      Loosening.Has members default (write x) field) :
    ∀ s ∈ slots.all, (∃ j, (s.name, j) ∈ members ∧ s.loosens (s.tree x) j) ∨
      s.name ∉ members.map Prod.fst ∧ form.required = false ∧ s.get x = s.get form.start := by
  intro s member
  obtain ⟨v, there, fate⟩ := fields s.known (List.mem_map_of_mem member)
  have same : some (s.tree x) = some v := (slots.tree x member).symm.trans there
  cases same
  rcases fate with kept | ⟨absent, spared⟩
  · exact .inl kept
  · obtain ⟨free, same⟩ := defaults s member _ spared
    exact .inr ⟨absent, free, s.restores.injective same⟩

end Form.Slots

theorem record_object (form : Form α) (place : Place) (members : List (String × Json)) :
    record form place (.ofJson (.object members)) =
      ofEntries form place (Document.entriesOfJson members) := by
  cases place <;> rfl

theorem Restores.record {default : Json} (slots : form.Slots write)
    (defaults : slots.Defaults default) :
    Restores (Reader.record form) write (.record default (slots.all.map Slot.known)) where
  refl := by
    intro x
    obtain ⟨members, same, distinct⟩ := slots.object x
    exact ⟨members, same, distinct, slots.has_self same⟩
  reads := by
    rintro x _ ⟨members, rfl, distinct, fields⟩ place
    rw [record_object]
    exact ofEntries_members slots distinct (slots.complete defaults fields) place

end Records

end Reader

end TrafficControl
