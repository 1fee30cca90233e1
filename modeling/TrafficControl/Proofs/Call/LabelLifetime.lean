import Mathlib.Data.List.Induction
import TrafficControl.Proofs.Call.CachedLabels

namespace TrafficControl

structure Lookup where
  now : Nat
  rule : RevisedRule

def Lookup.key (l : Lookup) : RevisionKey := LabelCache.keyOf l.rule

/-- A lookup and the labels it was given. They were kept, or they were computed for it. -/
structure Served extends Lookup where
  kept : Bool
  shared : SharedLabels

def Served.IsNew (s : Served) (past : List Served) : Prop :=
  s.kept = false ∧ s.shared.labels = labelsOf s.rule.rule ∧
    ∀ e ∈ past, e.shared.serial ≠ s.shared.serial

def Served.outcome (s : Served) : Bool × LabelSet := (s.kept, s.shared.labels)

def lastComputed? (log : List Served) (key : RevisionKey) : Nat → Option Nat
  | 0 => none
  | n + 1 =>
    match log[n]? with
    | some s => if s.key = key ∧ s.kept = false then some n else lastComputed? log key n
    | none => lastComputed? log key n

def computation? (log : List Served) (key : RevisionKey) : Option Served :=
  (lastComputed? log key log.length).bind fun place => log[place]?

section Log

variable {log : List Served} {key : RevisionKey} {n j : Nat}

theorem lastComputed?_append (log more : List Served) (within : n ≤ log.length) :
    lastComputed? (log ++ more) key n = lastComputed? log key n := by
  induction n with
  | zero => rfl
  | succ n ih =>
    simp only [lastComputed?, List.getElem?_append_left within, ih (Nat.le_of_succ_le within)]

theorem lastComputed?_append_singleton (s : Served) :
    lastComputed? (log ++ [s]) key (log.length + 1) =
      if s.key = key ∧ s.kept = false then some log.length
      else lastComputed? log key log.length := by
  simp only [lastComputed?, List.getElem?_concat_length,
    lastComputed?_append log [s] (Nat.le_refl _)]

theorem lastComputed?_take (within : n ≤ log.length) :
    lastComputed? (log.take n) key n = lastComputed? log key n := by
  have inside : n ≤ (log.take n).length := by simp [within]
  rw [← lastComputed?_append (log.take n) (log.drop n) inside, List.take_append_drop]

theorem lastComputed?_eq_some (found : lastComputed? log key n = some j) :
    j < n ∧ ∃ e, log[j]? = some e ∧ e.key = key ∧ e.kept = false := by
  induction n with
  | zero => cases found
  | succ n ih =>
    simp only [lastComputed?] at found
    split at found
    · next e known =>
      split at found
      · next own =>
        cases found
        exact ⟨Nat.lt_succ_self _, e, known, own⟩
      · obtain ⟨before, computed⟩ := ih found
        exact ⟨Nat.lt_succ_of_lt before, computed⟩
    · obtain ⟨before, computed⟩ := ih found
      exact ⟨Nat.lt_succ_of_lt before, computed⟩

theorem computation?_append_singleton (s : Served) :
    computation? (log ++ [s]) key =
      if s.key = key ∧ s.kept = false then some s else computation? log key := by
  simp only [computation?, List.length_append, List.length_singleton,
    lastComputed?_append_singleton]
  split
  · simp
  · apply Option.bind_congr
    intro place last
    exact List.getElem?_append_left (lastComputed?_eq_some last).1

theorem computation?_eq_some {e : Served} (found : computation? log key = some e) :
    e ∈ log ∧ e.key = key ∧ e.kept = false ∧
      ∃ place, lastComputed? log key log.length = some place ∧ log[place]? = some e := by
  obtain ⟨place, last, known⟩ := Option.bind_eq_some_iff.mp found
  obtain ⟨_, also, there, own, computed⟩ := lastComputed?_eq_some last
  rw [known] at there
  cases there
  exact ⟨List.mem_of_getElem? known, own, computed, place, last, known⟩

end Log

namespace LabelCache

def serve (c : LabelCache) (l : Lookup) : Served where
  toLookup := l
  kept := (c.lookup? l.now l.key).isSome
  shared := (c.labelsFor l.now l.rule).1

def next (c : LabelCache) (l : Lookup) : LabelCache := (c.labelsFor l.now l.rule).2

def after (c : LabelCache) (lookups : List Lookup) : LabelCache := lookups.foldl next c

def serveAll (c : LabelCache) : List Lookup → List Served
  | [] => []
  | l :: rest => c.serve l :: (c.next l).serveAll rest

variable {c : LabelCache} {l : Lookup} {lookups : List Lookup} {log : List Served}
  {key : RevisionKey}

theorem serveAll_append_singleton :
    c.serveAll (lookups ++ [l]) = c.serveAll lookups ++ [(c.after lookups).serve l] := by
  induction lookups generalizing c with
  | nil => rfl
  | cons first rest ih => simp [serveAll, after, ih]

theorem after_append_singleton : c.after (lookups ++ [l]) = (c.after lookups).next l := by
  simp [after]

theorem serve_cases (c : LabelCache) (l : Lookup) :
    (∃ t, c.entry? l.key = some t ∧ l.now - t.since < c.lifetime ∧
      c.serve l = ⟨l, true, t.value⟩ ∧ c.next l = c) ∨
    ((∀ t, c.entry? l.key = some t → c.lifetime ≤ l.now - t.since) ∧
      c.serve l = ⟨l, false, ⟨c.computed, labelsOf l.rule.rule⟩⟩ ∧
      c.next l = c.store l.now l.key (labelsOf l.rule.rule)) := by
  by_cases old : ∀ t, c.entry? l.key = some t → c.lifetime ≤ l.now - t.since
  · right
    have expired : c.lookup? l.now (keyOf l.rule) = none := by
      simp only [lookup?]
      split
      · next t found => simp [Timed.isExpired, old t found]
      · rfl
    refine ⟨old, ?_, ?_⟩
    · simp [serve, labelsFor, Lookup.key, expired]
    · simp [next, labelsFor, Lookup.key, expired]
  · left
    obtain ⟨t, fresh⟩ := not_forall.mp old
    obtain ⟨found, fresh⟩ := Classical.not_imp.mp fresh
    have young : l.now - t.since < c.lifetime := Nat.lt_of_not_le fresh
    have hit : c.lookup? l.now (keyOf l.rule) = some t.value := by
      have found : c.entry? (keyOf l.rule) = some t := found
      simp [lookup?, found, Timed.isExpired, young]
    refine ⟨t, found, young, ?_, ?_⟩
    · simp [serve, labelsFor, Lookup.key, hit]
    · simp [next, labelsFor, hit]

structure Records (c : LabelCache) (lifetime : Nat) (log : List Served) : Prop where
  lifetime : c.lifetime = lifetime
  computed : c.computed = log.countP fun s => !s.kept
  entry : ∀ key, c.entry? key = (computation? log key).map fun e => ⟨e.shared, e.now⟩
  serials : ∀ e ∈ log, e.shared.serial < c.computed

variable {lifetime : Nat}

namespace Records

theorem empty (lifetime : Nat) : (LabelCache.empty lifetime).Records lifetime [] where
  lifetime := rfl
  computed := rfl
  entry := fun _ => rfl
  serials := fun _ member => nomatch member

theorem computation_of_entry (records : c.Records lifetime log) {t : Timed SharedLabels}
    (found : c.entry? key = some t) :
    ∃ e, computation? log key = some e ∧ t = ⟨e.shared, e.now⟩ := by
  rw [records.entry, Option.map_eq_some_iff] at found
  obtain ⟨e, last, same⟩ := found
  exact ⟨e, last, same.symm⟩

theorem next (records : c.Records lifetime log) (l : Lookup) :
    (c.next l).Records lifetime (log ++ [c.serve l]) := by
  rcases serve_cases c l with ⟨t, found, young, served, next⟩ | ⟨old, served, next⟩
  · obtain ⟨e, last, rfl⟩ := records.computation_of_entry found
    rw [served, next]
    refine ⟨records.lifetime, ?_, ?_, ?_⟩
    · simp [records.computed]
    · intro key
      simp [records.entry, computation?_append_singleton]
    · intro s member
      rcases List.mem_append.mp member with before | own
      · exact records.serials s before
      · rw [List.mem_singleton.mp own]
        exact records.serials e (computation?_eq_some last).1
  · rw [served, next]
    refine ⟨records.lifetime, ?_, ?_, ?_⟩
    · simp [store, records.computed]
    · intro key
      rw [entry?_store, computation?_append_singleton, records.entry]
      by_cases own : l.key = key
      · rw [if_pos own, if_pos ⟨own, rfl⟩]
        rfl
      · rw [if_neg own, if_neg fun same => own same.1]
    · intro s member
      rcases List.mem_append.mp member with before | own
      · exact Nat.lt_succ_of_lt (records.serials s before)
      · rw [List.mem_singleton.mp own]
        exact Nat.lt_succ_self _

theorem serve_young (records : c.Records lifetime log) {e : Served}
    (last : computation? log l.key = some e) (young : l.now - e.now < lifetime) :
    (c.serve l).kept = true ∧ (c.serve l).shared = e.shared := by
  have entry := records.entry l.key
  rw [last] at entry
  rcases serve_cases c l with ⟨t, found, _, served, _⟩ | ⟨old, _, _⟩
  · rw [entry] at found
    cases found
    rw [served]
    exact ⟨rfl, rfl⟩
  · have old := old _ entry
    rw [records.lifetime] at old
    exact absurd young (Nat.not_lt_of_le old)

theorem serve_old (records : c.Records lifetime log)
    (old : ∀ e, computation? log l.key = some e → lifetime ≤ l.now - e.now) :
    (c.serve l).IsNew log := by
  rcases serve_cases c l with ⟨t, found, young, _, _⟩ | ⟨_, served, _⟩
  · obtain ⟨e, last, rfl⟩ := records.computation_of_entry found
    rw [records.lifetime] at young
    exact absurd young (Nat.not_lt_of_le (old e last))
  · rw [served]
    exact ⟨rfl, rfl, fun e member => Nat.ne_of_lt (records.serials e member)⟩

end Records

theorem records_after (lifetime : Nat) (lookups : List Lookup) :
    ((empty lifetime).after lookups).Records lifetime ((empty lifetime).serveAll lookups) := by
  induction lookups using List.reverseRecOn with
  | nil => exact .empty lifetime
  | append_singleton past l ih =>
    rw [after_append_singleton, serveAll_append_singleton]
    exact ih.next l

theorem serveAll_at {i : Nat} {s : Served} (served : (c.serveAll lookups)[i]? = some s) :
    s = (c.after (lookups.take i)).serve s.toLookup ∧
      (c.serveAll lookups).take i = c.serveAll (lookups.take i) := by
  induction lookups generalizing c i with
  | nil => simp [serveAll] at served
  | cons l rest ih =>
    cases i with
    | zero =>
      cases served
      exact ⟨rfl, rfl⟩
    | succ i =>
      obtain ⟨same, past⟩ := ih served
      exact ⟨same, by simp [serveAll, past]⟩

theorem served_young {i : Nat} {s e : Served}
    (served : ((empty lifetime).serveAll lookups)[i]? = some s)
    (last : computation? (((empty lifetime).serveAll lookups).take i) s.key = some e)
    (young : s.now - e.now < lifetime) : s.kept = true ∧ s.shared = e.shared := by
  obtain ⟨same, past⟩ := serveAll_at served
  rw [past] at last
  rw [same]
  exact (records_after lifetime (lookups.take i)).serve_young last young

theorem served_old {i : Nat} {s : Served}
    (served : ((empty lifetime).serveAll lookups)[i]? = some s)
    (old : ∀ e, computation? (((empty lifetime).serveAll lookups).take i) s.key = some e →
      lifetime ≤ s.now - e.now) :
    s.IsNew (((empty lifetime).serveAll lookups).take i) := by
  obtain ⟨same, past⟩ := serveAll_at served
  rw [past] at old ⊢
  rw [same]
  exact (records_after lifetime (lookups.take i)).serve_old old

theorem served_from {i : Nat} {s : Served}
    (served : ((empty lifetime).serveAll lookups)[i]? = some s) :
    ∃ place e, lastComputed? ((empty lifetime).serveAll lookups) s.key (i + 1) = some place ∧
      ((empty lifetime).serveAll lookups)[place]? = some e ∧ e.kept = false ∧ e.key = s.key ∧
      e.shared = s.shared := by
  generalize logged : (empty lifetime).serveAll lookups = log at served ⊢
  cases kept : s.kept with
  | false =>
    refine ⟨i, s, ?_, served, kept, rfl, rfl⟩
    simp [lastComputed?, served, kept]
  | true =>
    -- what was kept is still young, and it is the labels of an earlier computation
    have within : i ≤ log.length := Nat.le_of_lt (List.getElem?_eq_some_iff.mp served).1
    subst logged
    have fresh : ¬∀ e, computation? (((empty lifetime).serveAll lookups).take i) s.key = some e →
        lifetime ≤ s.now - e.now := by
      intro old
      have new := (served_old served old).1
      rw [kept] at new
      cases new
    obtain ⟨e, fresh⟩ := not_forall.mp fresh
    obtain ⟨last, fresh⟩ := Classical.not_imp.mp fresh
    obtain ⟨_, same⟩ := served_young served last (Nat.lt_of_not_le fresh)
    obtain ⟨_, own, computed, place, last, known⟩ := computation?_eq_some last
    rw [List.length_take_of_le within, lastComputed?_take within] at last
    obtain ⟨before, _⟩ := lastComputed?_eq_some last
    rw [List.getElem?_take_of_lt before] at known
    refine ⟨place, e, ?_, known, computed, own, same.symm⟩
    simp [lastComputed?, served, kept, last]

theorem computed_apart {i k : Nat} {a b : Served} (before : i < k)
    (first : ((empty lifetime).serveAll lookups)[i]? = some a)
    (second : ((empty lifetime).serveAll lookups)[k]? = some b) (computed : b.kept = false) :
    a.shared.serial ≠ b.shared.serial := by
  have old : ∀ e, computation? (((empty lifetime).serveAll lookups).take k) b.key = some e →
      lifetime ≤ b.now - e.now := by
    intro e last
    apply Nat.le_of_not_lt
    intro young
    have kept := (served_young second last young).1
    rw [computed] at kept
    cases kept
  apply (served_old second old).2.2
  apply List.mem_of_getElem?
  rw [List.getElem?_take_of_lt before]
  exact first

theorem shared_iff {i k : Nat} {a b : Served}
    (first : ((empty lifetime).serveAll lookups)[i]? = some a)
    (second : ((empty lifetime).serveAll lookups)[k]? = some b) :
    a.shared.serial = b.shared.serial ↔
      lastComputed? ((empty lifetime).serveAll lookups) a.key (i + 1) =
        lastComputed? ((empty lifetime).serveAll lookups) b.key (k + 1) := by
  obtain ⟨p, e, from_p, at_p, computed_p, _, same_a⟩ := served_from first
  obtain ⟨q, f, from_q, at_q, computed_q, _, same_b⟩ := served_from second
  rw [from_p, from_q, ← same_a, ← same_b, Option.some.injEq]
  constructor
  · intro serial
    -- of two computations the later one has a set of its own
    rcases Nat.lt_trichotomy p q with before | same | behind
    · exact absurd serial (computed_apart before at_p at_q computed_q)
    · exact same
    · exact absurd serial.symm (computed_apart behind at_q at_p computed_p)
  · rintro rfl
    rw [at_p] at at_q
    cases at_q
    rfl

theorem key_of_shared {i k : Nat} {a b : Served}
    (first : ((empty lifetime).serveAll lookups)[i]? = some a)
    (second : ((empty lifetime).serveAll lookups)[k]? = some b)
    (serial : a.shared.serial = b.shared.serial) : a.key = b.key := by
  obtain ⟨p, e, from_p, at_p, _, own_p, _⟩ := served_from first
  obtain ⟨q, f, from_q, at_q, _, own_q, _⟩ := served_from second
  have same := (shared_iff first second).mp serial
  rw [from_p, from_q, Option.some.injEq] at same
  rw [same, at_q, Option.some.injEq] at at_p
  rw [← own_p, ← own_q, at_p]

structure Alike (c d : LabelCache) (key : RevisionKey) : Prop where
  lifetime : c.lifetime = d.lifetime
  entry : ((c.entry? key).map fun t => (t.value.labels, t.since)) =
    (d.entry? key).map fun t => (t.value.labels, t.since)

namespace Alike

variable {d : LabelCache}

theorem foreign (alike : c.Alike d key) (other : l.key ≠ key) : (c.next l).Alike d key := by
  rcases serve_cases c l with ⟨_, _, _, _, next⟩ | ⟨_, _, next⟩
  · rw [next]
    exact alike
  · rw [next]
    refine ⟨alike.lifetime, ?_⟩
    rw [entry?_store, if_neg other]
    exact alike.entry

theorem serve (alike : c.Alike d l.key) :
    (c.serve l).outcome = (d.serve l).outcome ∧ (c.next l).Alike (d.next l) l.key := by
  have lifetime := alike.lifetime
  have entry := alike.entry
  rcases serve_cases c l with ⟨t, found, young, served, next⟩ | ⟨old, served, next⟩
  · rw [found] at entry
    obtain ⟨u, there, same⟩ := Option.map_eq_some_iff.mp entry.symm
    obtain ⟨labels, since⟩ := Prod.mk.inj same
    rcases serve_cases d l with ⟨v, also, _, served', next'⟩ | ⟨old, _, _⟩
    · rw [there] at also
      cases also
      rw [served, served', next, next']
      exact ⟨by simp [Served.outcome, labels], alike⟩
    · have old := old u there
      rw [since, ← lifetime] at old
      exact absurd young (Nat.not_lt_of_le old)
  · rcases serve_cases d l with ⟨u, there, young, _, _⟩ | ⟨_, served', next'⟩
    · rw [there] at entry
      obtain ⟨t, found, same⟩ := Option.map_eq_some_iff.mp entry
      obtain ⟨_, since⟩ := Prod.mk.inj same
      have old := old t found
      rw [since, lifetime] at old
      exact absurd young (Nat.not_lt_of_le old)
    · rw [served, served', next, next']
      refine ⟨rfl, lifetime, ?_⟩
      simp [entry?_store]

theorem outcomes (alike : c.Alike d key) (lookups : List Lookup) :
    (d.serveAll (lookups.filter fun l => l.key = key)).map Served.outcome =
      ((c.serveAll lookups).filter fun s => s.key = key).map Served.outcome := by
  induction lookups generalizing c d with
  | nil => rfl
  | cons l rest ih =>
    have stated : (c.serve l).key = l.key := rfl
    by_cases own : l.key = key
    · subst own
      obtain ⟨same, after⟩ := alike.serve
      simp [serveAll, stated, same, ih after]
    · simp [serveAll, stated, own, ih (alike.foreign own)]

end Alike

theorem map_toLookup_serveAll : (c.serveAll lookups).map Served.toLookup = lookups := by
  induction lookups generalizing c with
  | nil => rfl
  | cons l rest ih => simp [serveAll, serve, ih]

/-- A lookup is served the set of the last computation for its key as long as that is younger than
the lifetime, and a set of its own from then on. The cache keeps what was computed last for each key,
since then and no later, and counts the computations. A set is shared exactly by the lookups of one
computation, all of one key, and the lookups of a key are served as if there were no others. -/
theorem labels_follow_revision_and_clock (lifetime : Nat) (lookups : List Lookup) :
    let log := (empty lifetime).serveAll lookups
    let last := (empty lifetime).after lookups
    log.map Served.toLookup = lookups ∧
    (∀ i s e, log[i]? = some s → computation? (log.take i) s.key = some e →
      s.now - e.now < lifetime → s.kept = true ∧ s.shared = e.shared) ∧
    (∀ i s, log[i]? = some s →
      (∀ e, computation? (log.take i) s.key = some e → lifetime ≤ s.now - e.now) →
        s.IsNew (log.take i)) ∧
    (∀ key, last.entry? key = (computation? log key).map fun e => ⟨e.shared, e.now⟩) ∧
    (∀ (i k : Nat) a b, log[i]? = some a → log[k]? = some b →
      (a.shared.serial = b.shared.serial ↔
        lastComputed? log a.key (i + 1) = lastComputed? log b.key (k + 1)) ∧
      (a.shared.serial = b.shared.serial → a.key = b.key)) ∧
    (∀ key, ((empty lifetime).serveAll (lookups.filter fun l => l.key = key)).map Served.outcome =
      (log.filter fun s => s.key = key).map Served.outcome) ∧
    last.computed = log.countP fun s => !s.kept := by
  intro log last
  have records := records_after lifetime lookups
  refine ⟨map_toLookup_serveAll, fun _ _ _ => served_young, fun _ _ => served_old, records.entry,
    ?_, fun key => Alike.outcomes ⟨rfl, rfl⟩ lookups, records.computed⟩
  intro i k a b first second
  exact ⟨shared_iff first second, key_of_shared first second⟩

def headed (revision header : String) : RevisedRule :=
  let source : Source := { ns := none, service := none, metadata := .ofList [(header, default)] }
  ⟨revision, .routing ⟨[⟨[source], []⟩], []⟩⟩

def recurring : List Lookup :=
  [⟨0, headed "v1" "$header.a"⟩, ⟨3, ⟨"v1", .rateLimit default⟩⟩, ⟨9, headed "v1" "$header.b"⟩,
    ⟨10, headed "v1" "$header.b"⟩, ⟨12, headed "v1" "$header.a"⟩]

theorem labels_follow_revision_and_clock_recurring :
    let log := (empty 10).serveAll recurring
    log.map (fun s => (s.kept, s.shared.serial)) =
        [(false, 0), (false, 1), (true, 0), (false, 2), (true, 2)] ∧
      (∃ s e, log[2]? = some s ∧ computation? (log.take 2) s.key = some e ∧ s.now - e.now < 10 ∧
        s.kept = true ∧ s.shared = e.shared) ∧
      (∃ s, log[3]? = some s ∧
        (∀ e, computation? (log.take 3) s.key = some e → 10 ≤ s.now - e.now) ∧
        s.IsNew (log.take 3)) ∧
      ((empty 10).after recurring).computed = 3 := by
  intro log
  obtain ⟨_, young, old, _, _, _, computed⟩ := labels_follow_revision_and_clock 10 recurring
  refine ⟨by decide +kernel, ?_, ?_, computed.trans (by decide +kernel)⟩
  · obtain ⟨s, served, at_nine⟩ : ∃ s, log[2]? = some s ∧ (s.now, s.key) = (9, .routing, "v1") :=
      Option.map_eq_some_iff.mp (by decide +kernel)
    obtain ⟨now, key⟩ := Prod.mk.inj at_nine
    obtain ⟨e, last, since⟩ :
        ∃ e, computation? (log.take 2) (.routing, "v1") = some e ∧ e.now = 0 :=
      Option.map_eq_some_iff.mp (by decide +kernel)
    rw [← key] at last
    have fresh : s.now - e.now < 10 := by omega
    exact ⟨s, e, served, last, fresh, young 2 s e served last fresh⟩
  · obtain ⟨s, served, at_ten⟩ : ∃ s, log[3]? = some s ∧ (s.now, s.key) = (10, .routing, "v1") :=
      Option.map_eq_some_iff.mp (by decide +kernel)
    obtain ⟨now, key⟩ := Prod.mk.inj at_ten
    have expired : ∀ e, computation? (log.take 3) s.key = some e → 10 ≤ s.now - e.now := by
      obtain ⟨e, last, since⟩ :
          ∃ e, computation? (log.take 3) (.routing, "v1") = some e ∧ e.now = 0 :=
        Option.map_eq_some_iff.mp (by decide +kernel)
      intro other found
      rw [key, last] at found
      cases found
      omega
    exact ⟨s, served, expired, old 3 s served expired⟩

end LabelCache

end TrafficControl
