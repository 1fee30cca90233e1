import TrafficControl.Call.RateLimit
import TrafficControl.Call.Routing

namespace TrafficControl

inductive Handling where
  | check (limiter : RateLimiter) (call : Call)
  | route (router : Router) (call : Call) (offered : Instances)

def Inquiry.arguments? : Inquiry → Option ArgumentSet
  | .quota request => some request.arguments
  | .route request => some request.arguments
  | _ => none

namespace Handling

def service : Handling → ServiceKey
  | .check _ call => call.service
  | .route _ call _ => call.service

def rule? : Handling → Option RevisedRule
  | .check limiter call =>
    match limiter.quota?, limiter.rules call.service .rateLimiting with
    | some _, .ok rule? => rule?
    | _, _ => none
  | .route router call offered =>
    match router.route?, router.rules call.service .routing with
    | some _, .ok rule? => if offered.isEmpty then none else rule?
    | _, _ => none

def arguments (h : Handling) (labels : LabelSet) : ArgumentSet :=
  match h with
  | .check limiter call => limiter.argumentsOf labels call
  | .route router call _ => call.argumentsOf router.resolver labels

def carryOut (h : Handling) (cache : LabelCache) (now : Nat) : List Inquiry × LabelCache :=
  match h with
  | .check limiter call =>
    let admission := limiter.check cache now call
    (admission.asked, admission.cache)
  | .route router call offered =>
    let routed := router.route cache now call offered
    (routed.asked, routed.cache)

def carryOutAll (cache : LabelCache) : List (Nat × Handling) → List (Handling × List Inquiry)
  | [] => []
  | (now, h) :: rest =>
    (h, (h.carryOut cache now).1) :: carryOutAll (h.carryOut cache now).2 rest

end Handling

namespace LabelCache

def Holds (c : LabelCache) (rules : List RevisedRule) : Prop :=
  ∀ key t, c.entry? key = some t → ∃ r ∈ rules, keyOf r = key ∧ t.value.labels = labelsOf r.rule

variable {c : LabelCache} {rules : List RevisedRule}

theorem holds_empty (lifetime : Nat) : (empty lifetime).Holds [] := by
  intro key t found
  cases found

theorem Holds.mono {more : List RevisedRule} (held : c.Holds rules) (sub : rules ⊆ more) :
    c.Holds more := by
  intro key t found
  obtain ⟨r, known, same⟩ := held key t found
  exact ⟨r, sub known, same⟩

theorem entry?_store (c : LabelCache) (now : Nat) (key other : RevisionKey) (labels : LabelSet) :
    LabelCache.entry? (c.store now key labels) other =
      if key = other then some ⟨⟨c.computed, labels⟩, now⟩ else c.entry? other := by
  unfold store entry?
  by_cases same : key = other
  · simp [same]
  · have kept : (c.entries.filter fun e => e.1 ≠ key).find? (fun e => e.1 = other) =
        c.entries.find? fun e => e.1 = other := by
      rw [List.find?_filter]
      congr 1
      funext e
      by_cases at_other : e.1 = other
      · simp [at_other, Ne.symm same]
      · simp [at_other]
    simp only [List.find?_cons, same, decide_false, if_false]
    rw [kept]

theorem entry?_of_lookup? {now : Nat} {key : RevisionKey} {shared : SharedLabels}
    (found : c.lookup? now key = some shared) : ∃ t, c.entry? key = some t ∧ t.value = shared := by
  unfold lookup? at found
  cases entry : c.entry? key with
  | none => simp [entry] at found
  | some t =>
    simp only [entry] at found
    split at found
    · cases found
    · cases found
      exact ⟨t, rfl, rfl⟩

theorem Holds.labelsFor (held : c.Holds rules) (now : Nat) (rule : RevisedRule) :
    (∃ r ∈ rule :: rules,
        keyOf r = keyOf rule ∧ (c.labelsFor now rule).1.labels = labelsOf r.rule) ∧
      (c.labelsFor now rule).2.Holds (rule :: rules) := by
  unfold LabelCache.labelsFor
  cases found : c.lookup? now (keyOf rule) with
  | some shared =>
    obtain ⟨t, entry, same⟩ := entry?_of_lookup? found
    obtain ⟨r, known, key, labels⟩ := held _ t entry
    refine ⟨⟨r, List.mem_cons_of_mem _ known, key, ?_⟩, held.mono (List.subset_cons_self _ _)⟩
    rw [← labels, same]
  | none =>
    refine ⟨⟨rule, List.mem_cons_self, rfl, rfl⟩, ?_⟩
    intro key t entry
    rw [entry?_store] at entry
    by_cases own : keyOf rule = key
    · rw [if_pos own] at entry
      cases entry
      exact ⟨rule, List.mem_cons_self, own, rfl⟩
    · rw [if_neg own] at entry
      obtain ⟨r, known, same⟩ := held key t entry
      exact ⟨r, List.mem_cons_of_mem _ known, same⟩

end LabelCache

namespace Handling

variable {cache : LabelCache} {now : Nat}

def Asks (h : Handling) (cache : LabelCache) (now : Nat) : Prop :=
  (h.carryOut cache now).1.filterMap Inquiry.arguments? =
      (h.rule?.map fun rule => h.arguments (cache.labelsFor now rule).1.labels).toList ∧
    (h.carryOut cache now).2 = h.rule?.elim cache fun rule => (cache.labelsFor now rule).2

theorem asks_check (limiter : RateLimiter) (call : Call) :
    (Handling.check limiter call).Asks cache now := by
  simp only [Asks, carryOut, rule?, arguments, RateLimiter.check]
  cases limiter.quota? with
  | none => exact ⟨rfl, rfl⟩
  | some quota =>
    cases limiter.rules call.service .rateLimiting with
    | error failure => exact ⟨rfl, rfl⟩
    | ok found => cases found <;> exact ⟨rfl, rfl⟩

theorem arguments?_after_checks (checks : List Resource) (more : List Inquiry) :
    (checks.map Inquiry.check ++ more).filterMap Inquiry.arguments? =
      more.filterMap Inquiry.arguments? := by
  induction checks with
  | nil => rfl
  | cons check rest ih => exact ih

theorem asks_route (router : Router) (call : Call) (offered : Instances) :
    (Handling.route router call offered).Asks cache now := by
  simp only [Asks, carryOut, rule?, arguments, Router.route]
  cases offered.isEmpty with
  | true =>
    cases router.route? with
    | none => exact ⟨rfl, rfl⟩
    | some service =>
      cases router.rules call.service .routing <;> exact ⟨rfl, rfl⟩
  | false =>
    cases router.route? with
    | none =>
      have asked := arguments?_after_checks
        (router.gate.filterMethod call.service call.method offered).asked []
      rw [List.append_nil] at asked
      exact ⟨asked, rfl⟩
    | some service =>
      cases router.rules call.service .routing with
      | error failure => exact ⟨arguments?_after_checks _ _, rfl⟩
      | ok found =>
        cases found with
        | none => exact ⟨arguments?_after_checks _ _, rfl⟩
        | some rule =>
          refine ⟨?_, rfl⟩
          simp only [Bool.false_eq_true, if_false]
          rw [List.append_assoc, arguments?_after_checks]
          rfl

theorem asks (h : Handling) (cache : LabelCache) (now : Nat) : h.Asks cache now := by
  cases h with
  | check limiter call => exact asks_check limiter call
  | route router call offered => exact asks_route router call offered

/-- Rules of one kind at one revision are one rule. -/
def RevisionsAgree (rules : List RevisedRule) : Prop :=
  ∀ a ∈ rules, ∀ b ∈ rules, LabelCache.keyOf a = LabelCache.keyOf b → a.rule = b.rule

theorem arguments_of_holds {rules : List RevisedRule} (held : cache.Holds rules) {h : Handling}
    {rule : RevisedRule} (agree : RevisionsAgree (rule :: rules)) :
    h.arguments (cache.labelsFor now rule).1.labels = h.arguments (labelsOf rule.rule) := by
  obtain ⟨r, known, key, labels⟩ := (held.labelsFor now rule).1
  rw [labels, agree r known rule List.mem_cons_self key]

theorem carryOutAll_asked {rules : List RevisedRule} (held : cache.Holds rules)
    (calls : List (Nat × Handling))
    (agree : RevisionsAgree ((calls.filterMap fun c => c.2.rule?) ++ rules)) :
    ∀ a ∈ carryOutAll cache calls,
      a.2.filterMap Inquiry.arguments? =
        (a.1.rule?.map fun rule => a.1.arguments (labelsOf rule.rule)).toList := by
  induction calls generalizing cache rules with
  | nil => exact fun a member => nomatch member
  | cons c rest ih =>
    obtain ⟨now, h⟩ := c
    obtain ⟨asked, after⟩ := h.asks cache now
    cases fetched : h.rule? with
    | none =>
      rw [fetched] at asked after
      simp only [List.filterMap_cons, fetched] at agree
      intro a member
      rcases List.mem_cons.mp member with rfl | later
      · rw [fetched]
        exact asked
      · have next : (h.carryOut cache now).2.Holds rules := by
          rw [after]
          exact held
        exact ih next agree a later
    | some rule =>
      rw [fetched] at asked after
      simp only [List.filterMap_cons, fetched] at agree
      intro a member
      rcases List.mem_cons.mp member with rfl | later
      · rw [fetched]
        refine asked.trans ?_
        have here : RevisionsAgree (rule :: rules) := fun x hx y hy =>
          agree x (by grind) y (by grind)
        simp only [Option.map_some]
        rw [arguments_of_holds held here]
      · have next : (h.carryOut cache now).2.Holds (rule :: rules) := by
          rw [after]
          exact (held.labelsFor now rule).2
        exact ih next (fun x hx y hy => agree x (by grind) y (by grind)) a later

/-- As long as rules of one kind at one revision are one rule, a call is handled with the arguments
for the labels of its own rule, whatever was asked before and whatever has expired. -/
theorem asks_for_own_labels (lifetime : Nat) (calls : List (Nat × Handling))
    (agree : RevisionsAgree (calls.filterMap fun c => c.2.rule?)) :
    ∀ a ∈ carryOutAll (.empty lifetime) calls,
      a.2.filterMap Inquiry.arguments? =
        (a.1.rule?.map fun rule => a.1.arguments (labelsOf rule.rule)).toList := by
  apply carryOutAll_asked (LabelCache.holds_empty lifetime) calls
  rw [List.append_nil]
  exact agree

def headerLimiter (header revision : ServiceKey → String) : RateLimiter where
  rules := fun service _ =>
    .ok (some ⟨revision service,
      .rateLimit ⟨[⟨"", none, [⟨.header, header service, default⟩], false⟩]⟩⟩)
  quota? := some fun _ => .ok ⟨false, ""⟩
  resolver := .object

def callOf (service : String) : Call where
  service := ⟨"default", service⟩
  interface := ""
  method := ""
  attachments := .ofList [("orders", "7"), ("pay", "8")]
  callerIp := none
  callerService := none
  arguments := []

def ownRevisions : List (Nat × Handling) :=
  let limiter := headerLimiter (·.service) (·.service)
  [(0, .check limiter (callOf "orders")), (1, .check limiter (callOf "pay")),
    (2, .check limiter (callOf "orders"))]

theorem asks_for_own_labels_ownRevisions :
    RevisionsAgree (ownRevisions.filterMap fun c => c.2.rule?) ∧
      ∀ a ∈ carryOutAll (.empty labelLifetime) ownRevisions,
        a.2.filterMap Inquiry.arguments? =
          (a.1.rule?.map fun rule => a.1.arguments (labelsOf rule.rule)).toList := by
  have agree : RevisionsAgree (ownRevisions.filterMap fun c => c.2.rule?) := by
    unfold RevisionsAgree
    decide +kernel
  exact ⟨agree, asks_for_own_labels labelLifetime ownRevisions agree⟩

def sharedRevision : List (Nat × Handling) :=
  let limiter := headerLimiter (·.service) fun _ => "v1"
  [(0, .check limiter (callOf "orders")), (1, .check limiter (callOf "pay"))]

/-- The rules of each service agree, and still the second call is handled with the labels of the
first one's rule. -/
theorem asks_for_labels_of_another_service :
    (∀ a ∈ sharedRevision, ∀ b ∈ sharedRevision, a.2.service = b.2.service →
      ∀ r ∈ a.2.rule?, ∀ r' ∈ b.2.rule?,
        LabelCache.keyOf r = LabelCache.keyOf r' → r.rule = r'.rule) ∧
    ¬ ∀ a ∈ carryOutAll (.empty labelLifetime) sharedRevision,
      a.2.filterMap Inquiry.arguments? =
        (a.1.rule?.map fun rule => a.1.arguments (labelsOf rule.rule)).toList := by
  constructor <;> decide +kernel

end Handling

end TrafficControl
