import TrafficControl.Client.Registry
import TrafficControl.Proofs.Config.ClientKey

namespace TrafficControl

variable {γ : Type u} {r : Registry γ} {client : γ} {config : Config} {make : Factory γ}

namespace Registry

def Holds (r : Registry γ) (client : γ) : Prop := ∃ key, r.stored.get? key = some client

def Apart (r : Registry γ) : Prop :=
  ∀ key key' client, r.stored.get? key = some client → r.stored.get? key' = some client → key = key'

theorem apart_empty : (empty : Registry γ).Apart := by
  intro key key' client held
  cases held

end Registry

structure Factory.MakesNew (make : Factory γ) (r : Registry γ) : Prop where
  made_new : ∀ made, (make r).1 = .ok made → ¬ r.Holds made ∧ ¬ (make r).2.Holds made
  kept_or_new : ∀ key client, (make r).2.stored.get? key = some client →
    r.stored.get? key = some client ∨ ¬ r.Holds client
  apart : r.Apart → (make r).2.Apart

def Factory.making (client : γ) : Factory γ := fun r => (.ok client, r)

theorem Factory.MakesNew.making (new : ¬ r.Holds client) : (Factory.making client).MakesNew r where
  made_new := by
    rintro made ⟨⟩
    exact ⟨new, new⟩
  kept_or_new := fun _ _ held => .inl held
  apart := id

namespace Registry

inductive Loads (r : Registry γ) (config : Config) (make : Factory γ) (client : γ) :
    Registry γ → Prop
  | found (stored : r.get? config = some client) : Loads r config make client r
  | raced (unknown : r.get? config = none) (stored : (make r).2.get? config = some client) :
    Loads r config make client (make r).2
  | made (unknown : r.get? config = none) (made : (make r).1 = .ok client) :
    Loads r config make client
      { (make r).2 with stored := (make r).2.stored.insert config.clientKey client }

theorem loads_of_ok (ok : (r.loadOrStore config make).1 = .ok client) :
    r.Loads config make client (r.loadOrStore config make).2 := by
  unfold loadOrStore at ok ⊢
  cases found : r.get? config with
  | some stored =>
    simp only [found, Except.ok.injEq] at ok ⊢
    exact .found (ok ▸ found)
  | none =>
    simp only [found] at ok ⊢
    rcases run : make r with ⟨failure | made, after⟩
    · simp [run] at ok
    · simp only [run] at ok ⊢
      have after_eq : after = (make r).2 := by rw [run]
      cases raced : after.get? config with
      | some stored =>
        simp only [raced, Except.ok.injEq] at ok ⊢
        subst ok after_eq
        exact .raced found raced
      | none =>
        simp only [raced, Except.ok.injEq] at ok ⊢
        subst ok after_eq
        exact .made found (by rw [run])

variable {after : Registry γ}

theorem Loads.get?_eq (loads : r.Loads config make client after) :
    after.stored.get? config.clientKey = some client := by
  cases loads with
  | found stored => exact stored
  | raced _ stored => exact stored
  | made _ _ => simp [Table.get?_insert]

theorem Apart.insert {key : String} (apart : r.Apart) (new : ¬ r.Holds client) :
    Apart { r with stored := r.stored.insert key client } := by
  intro key₁ key₂ other held₁ held₂
  simp only [Table.get?_insert] at held₁ held₂
  split at held₁ <;> split at held₂
  · next same₁ same₂ => exact same₁.symm.trans same₂
  · cases held₁
    exact absurd ⟨_, held₂⟩ new
  · cases held₂
    exact absurd ⟨_, held₁⟩ new
  · exact apart key₁ key₂ other held₁ held₂

theorem Loads.apart (loads : r.Loads config make client after) (new : make.MakesNew r)
    (apart : r.Apart) : after.Apart := by
  cases loads with
  | found _ => exact apart
  | raced _ _ => exact new.apart apart
  | made _ made => exact (new.apart apart).insert (new.made_new client made).2

theorem Loads.key_eq {key : String} (loads : r.Loads config make client after)
    (new : make.MakesNew r) (apart : r.Apart) (held : r.stored.get? key = some client) :
    key = config.clientKey := by
  cases loads with
  | found stored => exact apart _ _ client held stored
  | raced unknown stored =>
    rcases new.kept_or_new _ _ stored with kept | gone
    · exact absurd (unknown.symm.trans kept) (by simp)
    · exact absurd ⟨key, held⟩ gone
  | made _ made => exact absurd ⟨key, held⟩ (new.made_new client made).1

theorem loadOrStore_eq_iff {key : String} (new : make.MakesNew r) (apart : r.Apart)
    (held : r.stored.get? key = some client) :
    (r.loadOrStore config make).1 = .ok client ↔ key = config.clientKey := by
  constructor
  · intro ok
    exact (loads_of_ok ok).key_eq new apart held
  · rintro rfl
    have found : r.get? config = some client := held
    simp only [loadOrStore, found]

/-- Unambiguous configurations share the key, and with it the client, exactly if they agree on the
backend. -/
theorem shared_iff_sameBackend {c₁ c₂ : Config} (clear₁ : c₁.Unambiguous)
    (clear₂ : c₂.Unambiguous) :
    (c₁.clientKey = c₂.clientKey ↔ c₁.SameBackend c₂) ∧
      ∀ (γ : Type u) (first second : Factory γ) (client : γ) (after : Registry γ),
        Registry.empty.loadOrStore c₁ first = (.ok client, after) →
        first.MakesNew .empty → second.MakesNew after →
        ((after.loadOrStore c₂ second).1 = .ok client ↔ c₁.SameBackend c₂) := by
  refine ⟨clear₁.clientKey_eq_iff clear₂, ?_⟩
  intro γ first second client after loaded firstNew secondNew
  have loads : Registry.empty.Loads c₁ first client after := by
    have ok := loads_of_ok (congrArg Prod.fst loaded)
    rwa [loaded] at ok
  have apart : after.Apart := loads.apart firstNew apart_empty
  rw [← clear₁.clientKey_eq_iff clear₂]
  exact loadOrStore_eq_iff secondNew apart loads.get?_eq

def signedIn (token : String) : Config :=
  { Config.ofAddress "127.0.0.1:8848" with token := some token }

theorem signedIn_unambiguous {token : String} (absent : '&' ∉ token.toList) :
    (signedIn token).Unambiguous := by
  apply Config.unambiguous_of_separators_absent
  · show '|' ∉ "127.0.0.1:8848".toList
    decide
  · show '&' ∉ defaultNamespace.toList
    decide
  · rintro _ ⟨⟩
    exact absent
  · rintro _ ⟨⟩

theorem shared_iff_sameBackend_signedIn :
    let first := signedIn "t"
    let second := signedIn "s"
    let after := (Registry.empty.loadOrStore first (.making 0)).2
    (first.clientKey = second.clientKey ↔ first.SameBackend second) ∧
      ((after.loadOrStore second (.making 1)).1 = .ok 0 ↔ first.SameBackend second) := by
  intro first second after
  have clear₁ : first.Unambiguous := signedIn_unambiguous (by decide)
  have clear₂ : second.Unambiguous := signedIn_unambiguous (by decide)
  obtain ⟨keys, loads⟩ := shared_iff_sameBackend clear₁ clear₂
  refine ⟨keys, loads Nat (.making 0) (.making 1) 0 after rfl ?_ ?_⟩
  · apply Factory.MakesNew.making
    rintro ⟨key, ⟨⟩⟩
  · apply Factory.MakesNew.making
    rintro ⟨key, held⟩
    change (Table.empty.insert first.clientKey 0).get? key = some 1 at held
    rw [Table.get?_insert] at held
    split at held <;> cases held

/-- The second namespace holds what looks like the token of the first configuration, and with that
the second configuration gets the client of the first. -/
theorem shared_between_backends :
    let first := { Config.ofAddress "127.0.0.1:8848" with ns := "dev", token := some "t" }
    let second := { Config.ofAddress "127.0.0.1:8848" with ns := "dev&token=t" }
    let after := (Registry.empty.loadOrStore first (.making 0)).2
    first.clientKey = second.clientKey ∧ ¬ first.SameBackend second ∧
      (Registry.empty.loadOrStore first (.making 0)).1 = .ok 0 ∧
      (after.loadOrStore second (.making 1)).1 = .ok 0 := by
  intro first second after
  have keys : first.clientKey = second.clientKey := by decide +kernel
  refine ⟨keys, ?_, rfl, ?_⟩
  · rintro ⟨-, names, -, -, -⟩
    exact absurd names (by decide)
  · have held : after.get? second = some 0 := by
      change (Table.empty.insert first.clientKey 0).get? second.clientKey = some 0
      rw [Table.get?_insert, if_pos keys]
    simp only [loadOrStore, held]

end Registry

end TrafficControl
