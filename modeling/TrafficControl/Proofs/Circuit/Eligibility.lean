import TrafficControl.Circuit.Gate

namespace TrafficControl

namespace Resource

theorem ofMethod_inj {service : ServiceKey} {i : Instance} {level level' : String}
    (same : ofMethod service i level = ofMethod service i level') : level = level' := by
  simp only [ofMethod, mk.injEq, true_and] at same
  by_cases whole : level = "" <;> by_cases whole' : level' = "" <;> simp_all

end Resource

def Flow.lenient (flow : Flow) : Flow := fun r => if flow r = .failed then .pass else flow r

theorem Flow.lenient_eq_block {flow : Flow} {r : Resource} :
    flow.lenient r = .block ↔ flow r = .block := by
  unfold Flow.lenient
  split <;> simp_all

namespace Circuit

/-- A level lets calls through unless the instance is open there, or carries no state there and a
flow blocks it. -/
def Passable (flow? : Option Flow) (service : ServiceKey) (i : Instance) (level : String) : Prop :=
  match i.methodState? level with
  | some state => state ≠ .opened
  | none => ∀ flow ∈ flow?, flow (.ofMethod service i level) ≠ .block

def Alike (flow? flow?' : Option Flow) (service : ServiceKey) (i i' : Instance) (level : String) :
    Prop :=
  i'.methodState? level = i.methodState? level ∧
    flow?'.map (· (.ofMethod service i' level)) = flow?.map (· (.ofMethod service i level))

variable {flow? flow?' : Option Flow} {service : ServiceKey} {method level : String}
  {i i' : Instance}

theorem Alike.passable_iff (alike : Alike flow? flow?' service i i' level) :
    Passable flow?' service i' level ↔ Passable flow? service i level := by
  obtain ⟨state, answer⟩ := alike
  unfold Passable
  rw [state]
  cases i.methodState? level with
  | some state => rfl
  | none =>
    cases flow? <;> cases flow?' <;> simp_all

theorem not_passable_of_opened (opened : i.methodState? level = some .opened) :
    ¬Passable flow? service i level := by
  unfold Passable
  rw [opened]
  exact fun passes => passes rfl

theorem ask_eligible_iff {resource : Resource} :
    (ask flow? resource).eligible = true ↔ ∀ flow ∈ flow?, flow resource ≠ .block := by
  cases flow? <;> simp [ask]

theorem judge_eligible_iff :
    (judge flow? service i).eligible = true ↔ Passable flow? service i "" := by
  unfold judge Passable
  rw [show i.circuitState? = i.methodState? "" from rfl]
  cases i.methodState? "" with
  | some state => simp
  | none => exact ask_eligible_iff

theorem judgeMethod_eligible_iff :
    (judgeMethod flow? service method i).eligible = true ↔
      Passable flow? service i "" ∧ Passable flow? service i method := by
  unfold judgeMethod
  by_cases whole : method = ""
  · subst whole
    simp [judge_eligible_iff]
  · rw [if_neg whole, ← judge_eligible_iff]
    cases state? : i.methodState? method with
    | some state => cases state <;> simp [Passable, state?]
    | none =>
      have own : Passable flow? service i method ↔
          (ask flow? (.ofMethod service i method)).eligible = true := by
        rw [ask_eligible_iff, Passable, state?]
      rw [own]
      by_cases passes : (judge flow? service i).eligible = true
      · simp [passes]
      · simp [passes]

theorem mem_ask {resource r : Resource} (asked : r ∈ (ask flow? resource).asked) :
    r = resource := by
  cases flow? with
  | none => cases asked
  | some flow => exact List.mem_singleton.mp asked

theorem mem_judge {r : Resource} (asked : r ∈ (judge flow? service i).asked) :
    i.methodState? "" = none ∧ r = .ofMethod service i "" := by
  unfold judge at asked
  rw [show i.circuitState? = i.methodState? "" from rfl] at asked
  cases state? : i.methodState? "" with
  | some state => simp [state?] at asked
  | none =>
    rw [state?] at asked
    exact ⟨rfl, mem_ask asked⟩

theorem mem_judgeMethod {r : Resource} (asked : r ∈ (judgeMethod flow? service method i).asked) :
    ∃ level, i.methodState? level = none ∧ r = .ofMethod service i level := by
  unfold judgeMethod at asked
  by_cases whole : method = ""
  · rw [if_pos whole] at asked
    exact ⟨"", mem_judge asked⟩
  · rw [if_neg whole] at asked
    cases state? : i.methodState? method with
    | some state =>
      rw [state?] at asked
      cases state with
      | opened => cases asked
      | close => exact ⟨"", mem_judge asked⟩
      | halfOpen => exact ⟨"", mem_judge asked⟩
      | destroy => exact ⟨"", mem_judge asked⟩
    | none =>
      rw [state?] at asked
      simp only at asked
      split at asked
      · rcases List.mem_append.mp asked with asked | asked
        · exact ⟨"", mem_judge asked⟩
        · exact ⟨method, state?, mem_ask asked⟩
      · exact ⟨"", mem_judge asked⟩

theorem ask_lenient (resource : Resource) :
    ask (flow?.map Flow.lenient) resource = ask flow? resource := by
  cases flow? with
  | none => rfl
  | some flow => simp [ask, Flow.lenient_eq_block]

theorem judge_lenient : judge (flow?.map Flow.lenient) service i = judge flow? service i := by
  simp only [judge, ask_lenient]

theorem judgeMethod_lenient :
    judgeMethod (flow?.map Flow.lenient) service method i = judgeMethod flow? service method i := by
  simp only [judgeMethod, judge_lenient, ask_lenient]

theorem eligible_congr
    (alike : ∀ level, level = "" ∨ level = method → Alike flow? flow?' service i i' level) :
    (judgeMethod flow?' service method i').eligible =
      (judgeMethod flow? service method i).eligible := by
  rw [Bool.eq_iff_iff, judgeMethod_eligible_iff, judgeMethod_eligible_iff,
    (alike "" (.inl rfl)).passable_iff, (alike method (.inr rfl)).passable_iff]

end Circuit

namespace Gate

def lenient (g : Gate) : Gate := ⟨g.flow?.map Flow.lenient⟩

theorem filterMethod_empty (g : Gate) (service : ServiceKey) (instances : Instances) :
    g.filterMethod service "" instances = g.filter service instances := rfl

theorem filterMethod_lenient (g : Gate) (service : ServiceKey) (method : String)
    (instances : Instances) :
    g.lenient.filterMethod service method instances = g.filterMethod service method instances := by
  have same : Circuit.judgeMethod g.lenient.flow? service method =
      Circuit.judgeMethod g.flow? service method := funext fun _ => Circuit.judgeMethod_lenient
  rw [filterMethod, filterMethod, same]

/-- The gate lets the eligible instances through, or all of them for want of any. An instance is
eligible for a method if its own level and that of the method let calls through; the flow is asked
only about a level without a state, a failure of it is a pass, and nothing is looked at beyond the
two levels. -/
theorem filters_by_level (g : Gate) (service : ServiceKey) (method : String)
    (instances : Instances) :
    let judged (i : Instance) := Circuit.judgeMethod g.flow? service method i
    let eligible := instances.filter fun i => (judged i).eligible
    let left := (g.filterMethod service method instances).left.of instances
    (left = if eligible = [] then instances else eligible) ∧
    (instances ≠ [] → left ≠ []) ∧
    (g.filterMethod service method left).left.of left = left ∧
    g.filterMethod service "" instances = g.filter service instances ∧
    (∀ i, (Circuit.judge g.flow? service i).eligible = true ↔
      Circuit.Passable g.flow? service i "") ∧
    (∀ i, (judged i).eligible = true ↔
      (Circuit.judge g.flow? service i).eligible = true ∧
        Circuit.Passable g.flow? service i method) ∧
    (∀ flow? i, i.methodState? "" = some .opened ∨ i.methodState? method = some .opened →
      (Circuit.judgeMethod flow? service method i).eligible = false) ∧
    (∀ i level, (i.methodState? level).isSome = true →
      .ofMethod service i level ∉ (judged i).asked) ∧
    g.lenient.filterMethod service method instances = g.filterMethod service method instances ∧
    (∀ flow? i i', (∀ level, level = "" ∨ level = method →
        Circuit.Alike g.flow? flow? service i i' level) →
      (Circuit.judgeMethod flow? service method i').eligible = (judged i).eligible) ∧
    ∀ (g' : Gate) (change : Instance → Instance),
      (∀ i ∈ instances, ∀ level, level = "" ∨ level = method →
        Circuit.Alike g.flow? g'.flow? service i (change i) level) →
      (g'.filterMethod service method (instances.map change)).left.of (instances.map change) =
        left.map change := by
  intro judged eligible left
  refine ⟨Narrowed.of_retain, ?_, ?_, filterMethod_empty g service instances,
    fun i => Circuit.judge_eligible_iff, ?_, ?_, ?_, filterMethod_lenient g service method instances,
    fun flow? i i' => Circuit.eligible_congr, ?_⟩
  · exact fun supplied emptied => supplied (Narrowed.of_retain_eq_nil.mp emptied)
  · have settled : (g.filterMethod service method left).left = .whole := Narrowed.retain_of_retain
    rw [settled]
    rfl
  · intro i
    rw [Circuit.judge_eligible_iff]
    exact Circuit.judgeMethod_eligible_iff
  · intro flow? i opened
    rw [← Bool.not_eq_true, Circuit.judgeMethod_eligible_iff]
    rintro ⟨whole, own⟩
    rcases opened with opened | opened
    · exact Circuit.not_passable_of_opened opened whole
    · exact Circuit.not_passable_of_opened opened own
  · intro i level carries asked
    obtain ⟨level', without, same⟩ := Circuit.mem_judgeMethod asked
    rw [Resource.ofMethod_inj same, without] at carries
    cases carries
  · intro g' change alike
    exact Narrowed.of_retain_map fun i member => Circuit.eligible_congr (alike i member)

def blocking (broken : String) : Gate :=
  ⟨some fun r =>
    if r.host = "b" ∨ r.method = some broken then .block
    else if r.host = "d" then .failed
    else .pass⟩

def mixed : Instances :=
  [(Instance.ofAddress "1" "a" 80).withCircuitState "" .halfOpen,
    .ofAddress "2" "b" 80,
    (Instance.ofAddress "3" "c" 80).withCircuitState "create" .opened,
    .ofAddress "4" "d" 80,
    ((Instance.ofAddress "5" "b" 80).withCircuitState "" .close).withCircuitState "create" .destroy]

theorem filters_by_level_mixed :
    let service := ⟨"default", "orders"⟩
    let left := ((blocking "").filterMethod service "create" mixed).left.of mixed
    let change (i : Instance) := i.withCircuitState "pay" .opened
    mixed ≠ [] ∧ left ≠ [] ∧ left.map Instance.id = ["1", "4", "5"] ∧
      (∀ i ∈ mixed, ∀ level, level = "" ∨ level = "create" →
        Circuit.Alike (blocking "").flow? (blocking "pay").flow? service i (change i) level) ∧
      ((blocking "pay").filterMethod service "create" (mixed.map change)).left.of
        (mixed.map change) = left.map change := by
  intro service left change
  obtain ⟨_, supplied, _, _, _, _, _, _, _, _, unseen⟩ :=
    filters_by_level (blocking "") service "create" mixed
  have nonempty : mixed ≠ [] := by simp [mixed]
  have listed : ∀ i ∈ mixed, ∀ level ∈ ["", "create"],
      Circuit.Alike (blocking "").flow? (blocking "pay").flow? service i (change i) level := by
    unfold Circuit.Alike
    decide +kernel
  have alike : ∀ i ∈ mixed, ∀ level, level = "" ∨ level = "create" →
      Circuit.Alike (blocking "").flow? (blocking "pay").flow? service i (change i) level :=
    fun i member level here => listed i member level (by simpa using here)
  exact ⟨nonempty, supplied nonempty, by decide +kernel, alike, unseen (blocking "pay") change alike⟩

end Gate

end TrafficControl
