import TrafficControl.Config.Basic
import TrafficControl.Proofs.Text.Marks
import Mathlib.Data.Prod.Lex
import Mathlib.Order.WellFounded

namespace TrafficControl

namespace Config

open Text

def marked (mark : String) (value? : Option String) : List Char :=
  value?.elim [] fun value => mark.toList ++ value.toList

def afterToken (c : Config) : List Char := marked "&username=" c.username

def afterNamespace (c : Config) : List Char := marked "&token=" c.token ++ c.afterToken

def afterGroup (c : Config) : List Char := "&namespace=".toList ++ (c.ns.toList ++ c.afterNamespace)

def afterAddress (c : Config) : List Char :=
  match c.group with
  | some group => "|group=".toList ++ (group.toList ++ c.afterGroup)
  | none => "|namespace=".toList ++ (c.ns.toList ++ c.afterNamespace)

theorem toList_clientKey (c : Config) :
    c.clientKey.toList = c.address.toList ++ c.afterAddress := by
  unfold clientKey afterAddress afterGroup afterNamespace afterToken marked keyPart?
  cases c.group <;> cases c.token <;> cases c.username <;> simp

structure SameBackend (c₁ c₂ : Config) : Prop where
  address : c₁.address = c₂.address
  ns : c₁.ns = c₂.ns
  token : c₁.token = c₂.token
  group : c₁.group = c₂.group
  username : c₁.username = c₂.username

/-- No value holds the mark of a later field at a place where the key could be cut instead. -/
structure Unambiguous (c : Config) : Prop where
  address_ns : Clear ["|namespace=".toList] c.address.toList
  address_group : ∀ front back, c.address.toList = front ++ ("|group=".toList ++ back) →
    ¬ "&namespace=".toList <:+: back ++ c.afterAddress
  group : ∀ group ∈ c.group, Clear ["&namespace=".toList] group.toList
  ns : Clear ["&token=".toList, "&username=".toList] c.ns.toList
  token : ∀ token ∈ c.token, Clear ["&username=".toList] token.toList

variable {c c₁ c₂ : Config}

theorem SameBackend.clientKey_eq (same : c₁.SameBackend c₂) : c₁.clientKey = c₂.clientKey := by
  simp only [clientKey, same.address, same.ns, same.token, same.group, same.username]

theorem begins_afterToken (c : Config) : Begins ["&username=".toList] c.afterToken := by
  unfold afterToken marked
  cases c.username with
  | none => exact .inl rfl
  | some username => exact .inr ⟨_, by simp, username.toList, rfl⟩

theorem begins_afterNamespace (c : Config) :
    Begins ["&token=".toList, "&username=".toList] c.afterNamespace := by
  unfold afterNamespace marked
  cases c.token with
  | none =>
    rcases c.begins_afterToken with empty | ⟨mark, listed, starts⟩
    · exact .inl empty
    · exact .inr ⟨mark, List.mem_cons_of_mem _ listed, starts⟩
  | some token => exact .inr ⟨_, List.mem_cons_self, token.toList ++ c.afterToken, by simp⟩

theorem begins_afterGroup (c : Config) : Begins ["&namespace=".toList] c.afterGroup :=
  .inr ⟨_, List.mem_cons_self, _, rfl⟩

theorem ns_infix_afterGroup (c : Config) (front : List Char) :
    "&namespace=".toList <:+: front ++ c.afterGroup :=
  ⟨front, c.ns.toList ++ c.afterNamespace, by unfold afterGroup; simp⟩

theorem username_of_afterToken (same : c₁.afterToken = c₂.afterToken) :
    c₁.username = c₂.username := by
  unfold afterToken marked at same
  cases h₁ : c₁.username <;> cases h₂ : c₂.username <;>
    simp_all [String.toList_inj]

theorem token_of_afterNamespace (clear₁ : c₁.Unambiguous) (clear₂ : c₂.Unambiguous)
    (same : c₁.afterNamespace = c₂.afterNamespace) :
    c₁.token = c₂.token ∧ c₁.username = c₂.username := by
  unfold afterNamespace marked at same
  cases token₁ : c₁.token with
  | none =>
    cases token₂ : c₂.token with
    | none => exact ⟨rfl, username_of_afterToken (by simpa [token₁, token₂] using same)⟩
    | some token =>
      simp only [token₁, token₂, afterToken, marked] at same
      cases h : c₁.username <;> simp [h] at same
  | some value₁ =>
    cases token₂ : c₂.token with
    | none =>
      simp only [token₁, token₂, afterToken, marked] at same
      cases h : c₂.username <;> simp [h] at same
    | some value₂ =>
      simp only [token₁, token₂, Option.elim, List.append_assoc, List.append_cancel_left_eq] at same
      obtain ⟨tokens, later⟩ := append_inj_of_clear '&' (by decide) (clear₁.token _ token₁)
        (clear₂.token _ token₂) c₁.begins_afterToken c₂.begins_afterToken same
      exact ⟨by rw [String.toList_inj.mp tokens], username_of_afterToken later⟩

theorem ns_of_afterMark (clear₁ : c₁.Unambiguous) (clear₂ : c₂.Unambiguous)
    (same : c₁.ns.toList ++ c₁.afterNamespace = c₂.ns.toList ++ c₂.afterNamespace) :
    c₁.ns = c₂.ns ∧ c₁.token = c₂.token ∧ c₁.username = c₂.username := by
  obtain ⟨names, later⟩ := append_inj_of_clear '&' (by decide) clear₁.ns clear₂.ns
    c₁.begins_afterNamespace c₂.begins_afterNamespace same
  exact ⟨String.toList_inj.mp names, token_of_afterNamespace clear₁ clear₂ later⟩

theorem afterAddress_grouped {group : String} (grouped : c.group = some group) :
    c.afterAddress = "|group=".toList ++ (group.toList ++ c.afterGroup) := by
  simp only [afterAddress, grouped]

theorem afterAddress_ungrouped (ungrouped : c.group = none) :
    c.afterAddress = "|namespace=".toList ++ (c.ns.toList ++ c.afterNamespace) := by
  simp only [afterAddress, ungrouped]

theorem Unambiguous.address_clear (clear : c.Unambiguous) {group : String}
    (grouped : c.group = some group) :
    Clear ["|group=".toList, "|namespace=".toList] c.address.toList := by
  intro mark listed inside
  rcases List.mem_cons.mp listed with rfl | listed
  · -- the namespace after the group would close the group that starts inside the address
    obtain ⟨front, back, whole⟩ := inside
    have later : "&namespace=".toList <:+: back ++ c.afterAddress := by
      rw [afterAddress_grouped grouped, ← List.append_assoc, ← List.append_assoc]
      exact c.ns_infix_afterGroup _
    exact clear.address_group front back (by simpa using whole.symm) later
  · exact clear.address_ns mark listed inside

theorem Unambiguous.group_apart (clear₁ : c₁.Unambiguous) (clear₂ : c₂.Unambiguous) {group : String}
    (grouped : c₁.group = some group) (ungrouped : c₂.group = none) :
    c₁.address.toList ++ c₁.afterAddress ≠ c₂.address.toList ++ c₂.afterAddress := by
  intro same
  have groupOnce : LeadsOnce '|' "|group=".toList := by decide
  have nsOnce : LeadsOnce '|' "|namespace=".toList := by decide
  have cuts := same
  rw [afterAddress_grouped grouped, afterAddress_ungrouped ungrouped] at cuts
  rcases groupOnce.cuts nsOnce cuts with ⟨-, marks⟩ | ⟨between, inside, later⟩ | ⟨_, inside, -⟩
  · simp at marks
  · apply clear₂.address_group _ _ inside
    rw [afterAddress_ungrouped ungrouped, ← later]
    exact c₁.ns_infix_afterGroup _
  · exact clear₁.address_ns _ List.mem_cons_self (infix_of_between inside)

theorem Unambiguous.sameBackend (clear₁ : c₁.Unambiguous) (clear₂ : c₂.Unambiguous)
    (same : c₁.clientKey = c₂.clientKey) : c₁.SameBackend c₂ := by
  have texts : c₁.address.toList ++ c₁.afterAddress = c₂.address.toList ++ c₂.afterAddress := by
    rw [← toList_clientKey, ← toList_clientKey, same]
  cases group₁ : c₁.group with
  | none =>
    cases group₂ : c₂.group with
    | none =>
      rw [afterAddress_ungrouped group₁, afterAddress_ungrouped group₂] at texts
      obtain ⟨addresses, later⟩ := append_inj_of_clear '|' (by decide) clear₁.address_ns
        clear₂.address_ns (.inr ⟨_, List.mem_cons_self, _, rfl⟩)
        (.inr ⟨_, List.mem_cons_self, _, rfl⟩) texts
      obtain ⟨names, tokens, usernames⟩ :=
        ns_of_afterMark clear₁ clear₂ (List.append_cancel_left later)
      exact ⟨String.toList_inj.mp addresses, names, tokens, group₁.trans group₂.symm, usernames⟩
    | some group => exact absurd texts.symm (clear₂.group_apart clear₁ group₂ group₁)
  | some value₁ =>
    cases group₂ : c₂.group with
    | none => exact absurd texts (clear₁.group_apart clear₂ group₁ group₂)
    | some value₂ =>
      rw [afterAddress_grouped group₁, afterAddress_grouped group₂] at texts
      obtain ⟨addresses, later⟩ := append_inj_of_clear '|' (by decide)
        (clear₁.address_clear group₁) (clear₂.address_clear group₂)
        (.inr ⟨_, List.mem_cons_self, _, rfl⟩) (.inr ⟨_, List.mem_cons_self, _, rfl⟩) texts
      obtain ⟨groups, later⟩ := append_inj_of_clear '&' (by decide) (clear₁.group _ group₁)
        (clear₂.group _ group₂) c₁.begins_afterGroup c₂.begins_afterGroup
        (List.append_cancel_left later)
      obtain ⟨names, tokens, usernames⟩ :=
        ns_of_afterMark clear₁ clear₂ (List.append_cancel_left later)
      exact ⟨String.toList_inj.mp addresses, names, tokens,
        by rw [group₁, group₂, String.toList_inj.mp groups], usernames⟩

theorem Unambiguous.clientKey_eq_iff (clear₁ : c₁.Unambiguous) (clear₂ : c₂.Unambiguous) :
    c₁.clientKey = c₂.clientKey ↔ c₁.SameBackend c₂ :=
  ⟨clear₁.sameBackend clear₂, SameBackend.clientKey_eq⟩

theorem clientKey_of_afterAddress (addresses : c₁.address.toList ++ c₁.afterAddress =
    c₂.address.toList ++ c₂.afterAddress) : c₁.clientKey = c₂.clientKey := by
  rw [← String.toList_inj, toList_clientKey, toList_clientKey, addresses]

theorem clientKey_of_afterNamespace (address : c₁.address = c₂.address)
    (group : c₁.group = c₂.group)
    (names : c₁.ns.toList ++ c₁.afterNamespace = c₂.ns.toList ++ c₂.afterNamespace) :
    c₁.clientKey = c₂.clientKey := by
  apply clientKey_of_afterAddress
  unfold afterAddress afterGroup
  rw [address, group, names]

def extents (c : Config) : Nat ×ₗ Nat ×ₗ Nat ×ₗ Nat :=
  toLex (c.address.toList.length, toLex ((c.group.getD "").toList.length,
    toLex (c.ns.toList.length, (c.token.getD "").toList.length)))

def Least (c : Config) : Prop :=
  ∀ c' : Config, c'.clientKey = c.clientKey → ¬ c'.extents < c.extents

theorem front_shorter {front back whole : List Char} {mark : String} (pos : 0 < mark.toList.length)
    (cut : front ++ mark.toList ++ back = whole) : front.length < whole.length := by
  have lengths := congrArg List.length cut
  simp only [List.length_append] at lengths
  omega

def restated (c : Config) (address : List Char) (group? : Option (List Char)) (ns : List Char) :
    Config :=
  { c with
    address := String.ofList address, group := group?.map String.ofList, ns := String.ofList ns
    token := none, username := none }

theorem afterNamespace_restated (c : Config) (address : List Char) (group? : Option (List Char))
    (ns : List Char) : (c.restated address group? ns).afterNamespace = [] := rfl

theorem afterAddress_restated_none (c : Config) (address ns : List Char) :
    (c.restated address none ns).afterAddress = "|namespace=".toList ++ ns := by
  rw [afterAddress_ungrouped rfl, afterNamespace_restated]
  simp only [restated, String.toList_ofList, List.append_nil]

theorem afterAddress_restated_some (c : Config) (address group ns : List Char) :
    (c.restated address (some group) ns).afterAddress =
      "|group=".toList ++ (group ++ ("&namespace=".toList ++ ns)) := by
  rw [afterAddress_grouped rfl]
  unfold afterGroup
  rw [afterNamespace_restated]
  simp only [restated, String.toList_ofList, List.append_nil]

theorem Least.address_ns (least : c.Least) : Clear ["|namespace=".toList] c.address.toList := by
  intro mark listed inside
  obtain rfl := List.mem_singleton.mp listed
  obtain ⟨front, back, whole⟩ := inside
  apply least (c.restated front none (back ++ c.afterAddress))
  · apply clientKey_of_afterAddress
    rw [afterAddress_restated_none, ← whole]
    simp only [restated, String.toList_ofList, List.append_assoc]
  · have shorter := front_shorter (by decide) whole
    simp [extents, restated, Prod.Lex.lt_iff, shorter]

theorem Least.address_group (least : c.Least) (front back : List Char)
    (whole : c.address.toList = front ++ ("|group=".toList ++ back)) :
    ¬ "&namespace=".toList <:+: back ++ c.afterAddress := by
  rintro ⟨group, ns, cut⟩
  rw [List.append_assoc] at cut
  apply least (c.restated front (some group) ns)
  · apply clientKey_of_afterAddress
    rw [afterAddress_restated_some, cut, whole]
    simp only [restated, String.toList_ofList, List.append_assoc]
  · have shorter := front_shorter (by decide) ((List.append_assoc _ _ _).trans whole.symm)
    simp [extents, restated, Prod.Lex.lt_iff, shorter]

theorem Least.group (least : c.Least) (group : String) (set : group ∈ c.group) :
    Clear ["&namespace=".toList] group.toList := by
  intro mark listed inside
  obtain rfl := List.mem_singleton.mp listed
  obtain ⟨front, back, whole⟩ := inside
  have grouped : c.group = some group := set
  apply least (c.restated c.address.toList (some front) (back ++ c.afterGroup))
  · apply clientKey_of_afterAddress
    rw [afterAddress_restated_some, afterAddress_grouped grouped, ← whole]
    simp only [restated, String.toList_ofList, List.append_assoc]
  · have shorter := front_shorter (by decide) whole
    simp [extents, restated, Prod.Lex.lt_iff, grouped, shorter]

theorem Least.ns (least : c.Least) : Clear ["&token=".toList, "&username=".toList] c.ns.toList := by
  intro mark listed inside
  rcases List.mem_pair.mp listed with rfl | rfl
  · obtain ⟨front, back, whole⟩ := inside
    have shorter := front_shorter (by decide) whole
    apply least { c with
      ns := String.ofList front
      token := some (String.ofList (back ++ c.afterNamespace)), username := none }
    · refine clientKey_of_afterNamespace (by rfl) (by rfl) ?_
      simp [← whole, afterNamespace, afterToken, marked]
    · simp [extents, Prod.Lex.lt_iff, shorter]
  · obtain ⟨front, back, whole⟩ := inside
    have shorter := front_shorter (by decide) whole
    apply least { c with
      ns := String.ofList front, token := none
      username := some (String.ofList (back ++ c.afterNamespace)) }
    · refine clientKey_of_afterNamespace (by rfl) (by rfl) ?_
      simp [← whole, afterNamespace, afterToken, marked]
    · simp [extents, Prod.Lex.lt_iff, shorter]

theorem Least.token (least : c.Least) (token : String) (set : token ∈ c.token) :
    Clear ["&username=".toList] token.toList := by
  intro mark listed inside
  obtain rfl := List.mem_singleton.mp listed
  obtain ⟨front, back, whole⟩ := inside
  have shorter := front_shorter (by decide) whole
  have signed : c.token = some token := set
  apply least { c with
    token := some (String.ofList front)
    username := some (String.ofList (back ++ c.afterToken)) }
  · refine clientKey_of_afterNamespace (by rfl) (by rfl) ?_
    simp [← whole, afterNamespace, afterToken, marked, signed]
  · simp [extents, Prod.Lex.lt_iff, signed, shorter]

theorem Least.unambiguous (least : c.Least) : c.Unambiguous where
  address_ns := least.address_ns
  address_group := least.address_group
  group := least.group
  ns := least.ns
  token := least.token

/-- Every key is that of an unambiguous configuration: the one that ends every field at the first
mark of a later one. -/
theorem exists_unambiguous (c : Config) :
    ∃ c' : Config, c'.Unambiguous ∧ c'.clientKey = c.clientKey := by
  obtain ⟨c', same, first⟩ := (InvImage.wf extents wellFounded_lt).has_min
    {c' : Config | c'.clientKey = c.clientKey} ⟨c, rfl⟩
  have least : c'.Least := fun other sameKey => first other (sameKey.trans same)
  exact ⟨c', least.unambiguous, same⟩

theorem SameBackend.unambiguous (same : c₁.SameBackend c₂) (clear : c₁.Unambiguous) :
    c₂.Unambiguous := by
  have rest : c₁.afterAddress = c₂.afterAddress := by
    unfold afterAddress afterGroup afterNamespace afterToken
    rw [same.group, same.ns, same.token, same.username]
  constructor
  · exact same.address ▸ clear.address_ns
  · rw [← same.address, ← rest]
    exact clear.address_group
  · exact same.group ▸ clear.group
  · exact same.ns ▸ clear.ns
  · exact same.token ▸ clear.token

/-- A configuration is ambiguous exactly when another backend has its key and is not. -/
theorem unambiguous_iff :
    c.Unambiguous ↔
      ∀ c' : Config, c'.Unambiguous → c'.clientKey = c.clientKey → c'.SameBackend c := by
  constructor
  · intro clear c' clear' same
    exact clear'.sameBackend clear same
  · intro alone
    obtain ⟨c', clear, same⟩ := c.exists_unambiguous
    exact (alone c' clear same).unambiguous clear

theorem unambiguous_of_separators_absent (address : '|' ∉ c.address.toList)
    (ns : '&' ∉ c.ns.toList) (token : ∀ token ∈ c.token, '&' ∉ token.toList)
    (group : ∀ group ∈ c.group, '&' ∉ group.toList) : c.Unambiguous := by
  have clear {sep : Char} {marks : List (List Char)} {text : List Char}
      (starts : ∀ mark ∈ marks, sep ∈ mark) (absent : sep ∉ text) : Clear marks text :=
    fun mark listed inside => absent (inside.subset (starts mark listed))
  constructor
  · exact clear (by decide) address
  · intro front back whole
    simp [whole] at address
  · exact fun value set => clear (by decide) (group value set)
  · exact clear (by decide) ns
  · exact fun value set => clear (by decide) (token value set)

end Config

end TrafficControl
