import Mathlib.Order.Interval.Finset.Nat
import TrafficControl.Selection

namespace TrafficControl.Selection

def weightBefore (instances : Instances) (i : Nat) : Nat := totalWeight (instances.take i)

/-- The offset has the weights before the position behind it, but not its own. -/
def InShare (instances : Instances) (offset i : Nat) : Prop :=
  weightBefore instances i ≤ offset ∧ offset < weightBefore instances (i + 1)

variable {instances rest front back : Instances} {x : Instance} {offset i j : Nat} {draw : UInt64}

theorem totalWeight_cons : totalWeight (x :: rest) = x.weight.toNat + totalWeight rest := rfl

theorem totalWeight_append :
    totalWeight (front ++ back) = totalWeight front + totalWeight back := by
  induction front with
  | nil => exact (Nat.zero_add _).symm
  | cons x front ih => rw [List.cons_append, totalWeight_cons, totalWeight_cons, ih, Nat.add_assoc]

theorem totalWeight_le : totalWeight instances ≤ instances.length * (UInt32.size - 1) := by
  induction instances with
  | nil => exact Nat.zero_le _
  | cons x rest ih =>
    have single : x.weight.toNat ≤ UInt32.size - 1 := Nat.le_pred_of_lt x.weight.toNat_lt
    rw [totalWeight_cons, List.length_cons, Nat.succ_mul]
    omega

theorem totalWeight_lt (few : instances.length < 2 ^ 32) :
    totalWeight instances < UInt64.size := by
  have bound : totalWeight instances ≤ instances.length * (UInt32.size - 1) := totalWeight_le
  simp only [UInt32.size, UInt64.size] at *
  omega

theorem weightBefore_zero : weightBefore instances 0 = 0 := rfl

theorem weightBefore_cons : weightBefore (x :: rest) (i + 1) =
    x.weight.toNat + weightBefore rest i := rfl

theorem weightBefore_succ (inside : i < instances.length) :
    weightBefore instances (i + 1) = weightBefore instances i + instances[i].weight.toNat := by
  rw [weightBefore, List.take_succ_eq_append_getElem inside, totalWeight_append]
  rfl

theorem weightBefore_mono (le : i ≤ j) : weightBefore instances i ≤ weightBefore instances j := by
  have split := List.take_append_drop i (instances.take j)
  rw [List.take_take, Nat.min_eq_left le] at split
  rw [weightBefore, weightBefore, ← split, totalWeight_append]
  exact Nat.le_add_right _ _

theorem weightBefore_le : weightBefore instances i ≤ totalWeight instances := by
  have whole : totalWeight instances = totalWeight (instances.take i ++ instances.drop i) := by
    rw [List.take_append_drop]
  rw [whole, totalWeight_append]
  exact Nat.le_add_right _ _

namespace InShare

theorem unique (first : InShare instances offset i) (second : InShare instances offset j) :
    i = j := by
  rcases Nat.lt_trichotomy i j with lt | same | gt
  · have apart : weightBefore instances (i + 1) ≤ weightBefore instances j := weightBefore_mono lt
    exact absurd (Nat.lt_of_lt_of_le first.2 apart) (Nat.not_lt.mpr second.1)
  · exact same
  · have apart : weightBefore instances (j + 1) ≤ weightBefore instances i := weightBefore_mono gt
    exact absurd (Nat.lt_of_lt_of_le second.2 apart) (Nat.not_lt.mpr first.1)

theorem inside (share : InShare instances offset i) : i < instances.length := by
  by_contra outside
  have all : ∀ j, instances.length ≤ j → weightBefore instances j = totalWeight instances :=
    fun j beyond => by rw [weightBefore, List.take_of_length_le beyond]
  have first := share.1
  have second := share.2
  rw [all i (by omega)] at first
  rw [all (i + 1) (by omega)] at second
  omega

theorem below (share : InShare instances offset i) : offset < totalWeight instances :=
  Nat.lt_of_lt_of_le share.2 weightBefore_le

theorem weight_pos (share : InShare instances offset i) (inside : i < instances.length) :
    0 < instances[i].weight.toNat := by
  have wide := Nat.lt_of_le_of_lt share.1 share.2
  rw [weightBefore_succ inside] at wide
  omega

theorem start (inside : i < instances.length) (weighty : 0 < instances[i].weight.toNat) :
    InShare instances (weightBefore instances i) i := by
  refine ⟨Nat.le_refl _, ?_⟩
  rw [weightBefore_succ inside]
  omega

theorem cons_zero : InShare (x :: rest) offset 0 ↔ offset < x.weight.toNat := by
  simp [InShare, weightBefore_cons, weightBefore_zero]

theorem cons_succ : InShare (x :: rest) offset (i + 1) ↔
    x.weight.toNat ≤ offset ∧ InShare rest (offset - x.weight.toNat) i := by
  simp only [InShare, weightBefore_cons]
  omega

end InShare

theorem exists_inShare (below : offset < totalWeight instances) :
    ∃ i, InShare instances offset i := by
  induction instances generalizing offset with
  | nil => exact absurd below (Nat.not_lt_zero offset)
  | cons x rest ih =>
    by_cases first : offset < x.weight.toNat
    · exact ⟨0, InShare.cons_zero.mpr first⟩
    · have behind : x.weight.toNat ≤ offset := Nat.not_lt.mp first
      rw [totalWeight_cons] at below
      have later : offset - x.weight.toNat < totalWeight rest := by omega
      obtain ⟨i, share⟩ := ih later
      exact ⟨i + 1, InShare.cons_succ.mpr ⟨behind, share⟩⟩

theorem atOffset?_of_inShare (share : InShare instances offset i) :
    atOffset? instances offset = instances[i]? := by
  induction instances generalizing offset i with
  | nil => exact absurd share.inside (Nat.not_lt_zero i)
  | cons x rest ih =>
    cases i with
    | zero => rw [atOffset?, if_pos (InShare.cons_zero.mp share), List.getElem?_cons_zero]
    | succ i =>
      obtain ⟨behind, later⟩ := InShare.cons_succ.mp share
      rw [atOffset?, if_neg (Nat.not_lt.mpr behind), ih later, List.getElem?_cons_succ]

theorem select?_of_inShare (share : InShare instances offset i) :
    select? instances offset = instances[i]? := by
  have weighty : totalWeight instances ≠ 0 := Nat.ne_zero_of_lt share.below
  rw [select?, if_neg weighty, atOffset?_of_inShare share, List.getElem?_eq_getElem share.inside,
    Option.some_or]

theorem atOffset?_eq_none (above : totalWeight instances ≤ offset) :
    atOffset? instances offset = none := by
  induction instances generalizing offset with
  | nil => rfl
  | cons x rest ih =>
    rw [totalWeight_cons] at above
    rw [atOffset?, if_neg (by omega), ih (by omega)]

theorem lt_weight_iff : draw < x.weight.toUInt64 ↔ draw.toNat < x.weight.toNat := by
  rw [UInt64.lt_iff_toNat_lt, UInt32.toNat_toUInt64]

theorem walk_cons_of_le (rest : Instances) (le : x.weight.toNat ≤ draw.toNat) :
    ∃ left : UInt64, left.toNat = draw.toNat - x.weight.toNat ∧
      walk (x :: rest) draw = (walk rest left).next := by
  have le' : x.weight.toUInt64 ≤ draw := by
    rwa [UInt64.le_iff_toNat_le, UInt32.toNat_toUInt64]
  obtain ⟨left, found, value⟩ := Checked.sub?_eq_some le'
  rw [UInt32.toNat_toUInt64] at value
  refine ⟨left, value, ?_⟩
  rw [walk, if_neg (lt_weight_iff.not.mpr (Nat.not_lt.mpr le)), found]

theorem walk_of_inShare (share : InShare instances draw.toNat i) :
    walk instances draw = .position i := by
  induction instances generalizing draw i with
  | nil => exact absurd share.inside (Nat.not_lt_zero i)
  | cons x rest ih =>
    cases i with
    | zero => exact if_pos (lt_weight_iff.mpr (InShare.cons_zero.mp share))
    | succ i =>
      obtain ⟨behind, later⟩ := InShare.cons_succ.mp share
      obtain ⟨left, value, step⟩ := walk_cons_of_le rest behind
      rw [← value] at later
      rw [step, ih later, Choice.next]

theorem walk_of_le (above : totalWeight instances ≤ draw.toNat) :
    walk instances draw = .fallback := by
  induction instances generalizing draw with
  | nil => rfl
  | cons x rest ih =>
    rw [totalWeight_cons] at above
    have behind : x.weight.toNat ≤ draw.toNat := by omega
    obtain ⟨left, value, step⟩ := walk_cons_of_le rest behind
    rw [step, ih (by omega)]
    rfl

theorem foldlM_add? {start : UInt64} (fits : start.toNat + totalWeight instances < UInt64.size) :
    ∃ total, instances.foldlM (fun total i => Checked.add? total i.weight.toUInt64) start =
      some total ∧ total.toNat = start.toNat + totalWeight instances := by
  induction instances generalizing start with
  | nil => exact ⟨start, rfl, rfl⟩
  | cons x rest ih =>
    rw [totalWeight_cons] at fits
    have partly : start.toNat + x.weight.toNat < UInt64.size := by omega
    obtain ⟨sum, added, value⟩ := Checked.exists_word? partly
    have later : sum.toNat + totalWeight rest < UInt64.size := by omega
    obtain ⟨total, found, exact⟩ := ih later
    have step : Checked.add? start x.weight.toUInt64 = some sum := by
      rw [Checked.add?, UInt32.toNat_toUInt64, added]
    refine ⟨total, ?_, ?_⟩
    · rw [List.foldlM_cons, step]
      exact found
    · rw [exact, value, totalWeight_cons, Nat.add_assoc]

theorem exists_wordTotal? (few : instances.length < 2 ^ 32) :
    ∃ total, wordTotal? instances = some total ∧ total.toNat = totalWeight instances := by
  have fits : (0 : UInt64).toNat + totalWeight instances < UInt64.size := by
    rw [UInt64.toNat_zero, Nat.zero_add]
    exact totalWeight_lt few
  obtain ⟨total, found, value⟩ := foldlM_add? fits
  rw [UInt64.toNat_zero, Nat.zero_add] at value
  exact ⟨total, found, value⟩

theorem choose_eq (nonempty : instances ≠ []) (few : instances.length < 2 ^ 32) :
    choose instances draw =
      if totalWeight instances = 0 then .position draw.toNat else walk instances draw := by
  obtain ⟨total, found, value⟩ := exists_wordTotal? few
  have filled : instances.isEmpty = false := by simpa using nonempty
  have weightless : total = 0 ↔ totalWeight instances = 0 := by
    rw [← value, ← UInt64.toNat_inj, UInt64.toNat_zero]
  simp only [choose, filled, found, weightless, Bool.false_eq_true, if_false]

theorem select?_eq_taken? (few : instances.length < 2 ^ 32) :
    select? instances draw.toNat = (choose instances draw).taken? instances := by
  by_cases empty : instances = []
  · subst empty
    rfl
  rw [choose_eq empty few]
  split
  · next weightless =>
    rw [select?, if_pos weightless]
    rfl
  · next weighty =>
    by_cases below : draw.toNat < totalWeight instances
    · obtain ⟨i, share⟩ := exists_inShare below
      rw [select?_of_inShare share, walk_of_inShare share]
      rfl
    · have above : totalWeight instances ≤ draw.toNat := Nat.not_lt.mp below
      rw [select?, if_neg weighty, atOffset?_eq_none above, Option.none_or, walk_of_le above]
      rfl

theorem choose_eq_position_iff (few : instances.length < 2 ^ 32)
    (below : draw.toNat < totalWeight instances) :
    choose instances draw = .position i ↔ InShare instances draw.toNat i := by
  have nonempty : instances ≠ [] := by
    rintro rfl
    exact absurd below (Nat.not_lt_zero _)
  obtain ⟨j, share⟩ := exists_inShare below
  rw [choose_eq nonempty few, if_neg (by omega), walk_of_inShare share]
  constructor
  · rintro ⟨⟩
    exact share
  · intro other
    rw [share.unique other]

theorem card_choose (few : instances.length < 2 ^ 32) (inside : i < instances.length) :
    ((Finset.range (totalWeight instances)).filter
        fun n => choose instances (.ofNat n) = .position i).card =
      instances[i].weight.toNat := by
  have share : (Finset.range (totalWeight instances)).filter
        (fun n => choose instances (.ofNat n) = .position i) =
      Finset.Ico (weightBefore instances i) (weightBefore instances (i + 1)) := by
    ext n
    rw [Finset.mem_filter, Finset.mem_range, Finset.mem_Ico]
    -- a number below the total has 64 bits, so it is the draw that it is made into
    have chosen_iff (below : n < totalWeight instances) :
        choose instances (.ofNat n) = .position i ↔ InShare instances n i := by
      have exact : (UInt64.ofNat n).toNat = n :=
        UInt64.toNat_ofNat_of_lt (below.trans (totalWeight_lt few))
      rw [choose_eq_position_iff few (by rwa [exact]), exact]
    constructor
    · rintro ⟨below, chosen⟩
      exact (chosen_iff below).mp chosen
    · intro share
      have below := InShare.below share
      exact ⟨below, (chosen_iff below).mpr share⟩
  rw [share, Nat.card_Ico, weightBefore_succ inside, Nat.add_sub_cancel_left]

theorem mem_candidates_iff :
    x ∈ candidates instances ↔ ∃ n < draws instances, select? instances n = some x := by
  unfold candidates draws
  split
  · next weightless =>
    simp only [select?, if_pos weightless]
    rw [List.mem_iff_getElem?]
    constructor
    · rintro ⟨n, found⟩
      exact ⟨n, (List.getElem?_eq_some_iff.mp found).1, found⟩
    · rintro ⟨n, -, found⟩
      exact ⟨n, found⟩
  · rw [List.mem_filter, decide_eq_true_iff]
    constructor
    · rintro ⟨member, weighty⟩
      obtain ⟨i, inside, rfl⟩ := List.getElem_of_mem member
      have share := InShare.start inside weighty
      refine ⟨_, share.below, ?_⟩
      rw [select?_of_inShare share, List.getElem?_eq_getElem inside]
    · rintro ⟨n, below, found⟩
      obtain ⟨i, share⟩ := exists_inShare below
      rw [select?_of_inShare share] at found
      obtain ⟨inside, rfl⟩ := List.getElem?_eq_some_iff.mp found
      exact ⟨List.getElem_mem inside, share.weight_pos inside⟩

/-- With equally likely numbers, the chances of the instances are as their weights. -/
structure Proportional (instances : Instances) : Prop where
  summed : ∃ total, wordTotal? instances = some total ∧ total.toNat = totalWeight instances
  taken : ∀ draw : UInt64, select? instances draw.toNat = (choose instances draw).taken? instances
  /-- A number below the total chooses the one position whose share it is in. No difference falls
  below zero on the way there, and the last instance is not fallen back on. -/
  by_share : ∀ draw : UInt64, draw.toNat < totalWeight instances →
    ∃ i, i < instances.length ∧ choose instances draw = .position i ∧
      ∀ j, InShare instances draw.toNat j ↔ j = i
  counted : 0 < totalWeight instances → ∀ i (inside : i < instances.length),
    ((Finset.range (totalWeight instances)).filter
      fun n => choose instances (.ofNat n) = .position i).card = instances[i].weight.toNat
  drained : ∀ i (inside : i < instances.length), instances[i].weight = 0 → ∀ draw : UInt64,
    draw.toNat < totalWeight instances → choose instances draw ≠ .position i
  evenly : totalWeight instances = 0 → ∀ n < instances.length, ∀ i,
    choose instances (.ofNat n) = .position i ↔ n = i
  candidates : ∀ x, x ∈ candidates instances ↔ ∃ n < draws instances, select? instances n = some x

/-- The choice is proportional to the weights wherever there is an instance, and nothing is chosen
where there is none. -/
theorem selection_proportional :
    (∀ draw : UInt64, choose [] draw = .nothing ∧ select? [] draw.toNat = none) ∧
      ∀ instances : Instances, instances ≠ [] → instances.length < 2 ^ 32 →
        Proportional instances := by
  refine ⟨fun draw => ⟨rfl, rfl⟩, fun instances nonempty few => ?_⟩
  constructor
  case summed => exact exists_wordTotal? few
  case taken => exact fun draw => select?_eq_taken? few
  case by_share =>
    intro draw below
    obtain ⟨i, share⟩ := exists_inShare below
    refine ⟨i, share.inside, (choose_eq_position_iff few below).mpr share, fun j => ?_⟩
    constructor
    · exact fun other => other.unique share
    · rintro rfl
      exact share
  case counted => exact fun _ i inside => card_choose few inside
  case drained =>
    intro i inside weightless draw below chosen
    have weighty := ((choose_eq_position_iff few below).mp chosen).weight_pos inside
    rw [weightless] at weighty
    exact absurd weighty (Nat.lt_irrefl _)
  case evenly =>
    intro weightless n below i
    have exact : (UInt64.ofNat n).toNat = n := by
      refine UInt64.toNat_ofNat_of_lt (below.trans (few.trans ?_))
      decide
    rw [choose_eq nonempty few, if_pos weightless, exact, Choice.position.injEq]
  case candidates => exact fun x => mem_candidates_iff

def uneven : Instances :=
  [0, 3, 0, 4294967295].map fun weight => { (default : Instance) with weight }

theorem selection_proportional_uneven :
    (uneven ≠ [] ∧ uneven.length < 2 ^ 32) ∧ totalWeight uneven = 4294967298 ∧
      ((Finset.range (totalWeight uneven)).filter
        fun n => choose uneven (.ofNat n) = .position 3).card = 4294967295 ∧
      (∀ draw : UInt64, draw.toNat < 4294967298 → choose uneven draw ≠ .position 2) ∧
      [0, 2, 3, 4294967297].map (choose uneven) =
        [.position 1, .position 1, .position 3, .position 3] := by
  have nonempty : uneven ≠ [] := by decide
  have few : uneven.length < 2 ^ 32 := by decide
  have total : totalWeight uneven = 4294967298 := by decide
  have shares : Proportional uneven := selection_proportional.2 uneven nonempty few
  refine ⟨⟨nonempty, few⟩, total, ?_, ?_, by decide⟩
  · exact shares.counted (by decide) 3 (by decide)
  · rw [← total]
    exact shares.drained 2 (by decide) (by decide)

end TrafficControl.Selection
