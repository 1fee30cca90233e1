import TrafficControl.Config.File
import TrafficControl.Proofs.Config.WrittenUrl
import TrafficControl.Span

namespace TrafficControl

theorem measure_min {α : Type u} [LE α] [DecidableLE α] {measure : α → Nat}
    (by_measure : ∀ {a b}, a ≤ b ↔ measure a ≤ measure b) (a b : α) :
    measure (if a ≤ b then a else b) = min (measure a) (measure b) := by
  split
  · next le => rw [Nat.min_eq_left (by_measure.mp le)]
  · next gt => rw [Nat.min_eq_right (Nat.le_of_not_le (by_measure.not.mp gt))]

namespace Span

variable {s t : Span}

theorem total_longest : longest.total = maxNanos := by decide

theorem total_le (s : Span) : s.total ≤ maxNanos := by
  have fraction := s.nanos_lt
  have seconds := s.seconds.toNat_lt
  simp only [total, maxNanos, nanosPerSecond, UInt64.size] at *
  omega

theorem le_iff : s ≤ t ↔ s.total ≤ t.total := by
  have fraction := s.nanos_lt
  have fraction' := t.nanos_lt
  have by_parts : s ≤ t ↔
      s.seconds < t.seconds ∨ s.seconds = t.seconds ∧ s.nanos ≤ t.nanos := Iff.rfl
  rw [by_parts, UInt64.lt_iff_toNat_lt, ← UInt64.toNat_inj, UInt32.le_iff_toNat_le]
  simp only [total, nanosPerSecond] at *
  omega

theorem total_min : (min s t).total = min s.total t.total := measure_min le_iff s t

theorem total_ofMillis (millis : UInt64) :
    (ofMillis millis).total = millis.toNat * nanosPerMilli := by
  have parts := Nat.div_add_mod millis.toNat 1000
  have seconds : (millis / 1000).toNat = millis.toNat / 1000 := UInt64.toNat_div _ _
  rw [total, ofMillis, toNat_millisFraction, seconds]
  simp only [nanosPerSecond, nanosPerMilli]
  omega

theorem exists_nanos (s : Span) (factor : UInt32) :
    ∃ nanos, Checked.mul? s.nanos.toUInt64 factor.toUInt64 = some nanos ∧
      nanos.toNat = s.nanos.toNat * factor.toNat := by
  have fits : s.nanos.toNat * factor.toNat < UInt64.size := calc
    s.nanos.toNat * factor.toNat < nanosPerSecond * UInt32.size :=
      Nat.mul_lt_mul'' s.nanos_lt factor.toNat_lt
    _ < UInt64.size := by decide
  rw [Checked.mul?, UInt32.toNat_toUInt64, UInt32.toNat_toUInt64]
  exact Checked.exists_word? fits

theorem total_mul (s : Span) (n : Nat) :
    s.total * n = (s.seconds.toNat * n + s.nanos.toNat * n / nanosPerSecond) * nanosPerSecond +
      s.nanos.toNat * n % nanosPerSecond := calc
  s.total * n = s.seconds.toNat * n * nanosPerSecond + s.nanos.toNat * n := by
    rw [total, Nat.add_mul, Nat.mul_right_comm]
  _ = _ := by rw [Nat.add_mul, Nat.add_assoc, Nat.div_add_mod']

theorem total_times? (s : Span) (factor : UInt32) :
    ∃ t, s.times? factor = some t ∧ t.total = min (s.total * factor.toNat) maxNanos := by
  obtain ⟨nanos, found, product⟩ := s.exists_nanos factor
  have carry : (nanos / perSecond).toNat = nanos.toNat / nanosPerSecond := UInt64.toNat_div _ _
  have parts := s.total_mul factor.toNat
  rw [← product] at parts
  have seconds := Checked.mul?_bind_add? s.seconds factor.toUInt64 (nanos / perSecond)
  rw [UInt32.toNat_toUInt64, carry] at seconds
  rw [times?, found, Option.map_some]
  refine ⟨_, rfl, ?_⟩
  dsimp only
  -- product and carry fit together or not at all, by the exact number of seconds
  split
  · next beyond =>
    have large := Checked.word?_eq_none_iff.mp (seconds.symm.trans beyond)
    have long : maxNanos ≤ s.total * factor.toNat := calc
      maxNanos ≤ UInt64.size * nanosPerSecond := Nat.sub_le _ _
      _ ≤ _ := Nat.mul_le_mul_right nanosPerSecond large
      _ ≤ s.total * factor.toNat := parts ▸ Nat.le_add_right _ _
    rw [total_longest, Nat.min_eq_right long]
  · next whole kept =>
    have exact := Checked.word?_eq_some_iff.mp (seconds.symm.trans kept)
    rw [← exact, ← toNat_rest] at parts
    have short := total_le ⟨whole, (nanos % perSecond).toUInt32, rest_lt nanos⟩
    rw [parts]
    exact (Nat.min_eq_left short).symm

end Span

namespace RetryPolicy

variable {p : RetryPolicy} {n : Nat}

/-- The shift stays below the width of the number, so that no bit is lost. -/
theorem toNat_factor (attempt : UInt32) :
    (factor attempt).toNat = 2 ^ doublings attempt.toNat := by
  have places : (min attempt 31).toNat = doublings attempt.toNat :=
    measure_min UInt32.le_iff_toNat_le attempt 31
  have few : doublings attempt.toNat < 32 := Nat.lt_succ_of_le (Nat.min_le_right _ _)
  have narrow : min attempt 31 < 32 := by rwa [UInt32.lt_iff_toNat_lt, places]
  have fits : 2 ^ doublings attempt.toNat < 2 ^ 32 := Nat.pow_lt_pow_right (by decide) few
  rw [factor, if_pos narrow, UInt32.toNat_shiftLeft, places, Nat.mod_eq_of_lt few,
    UInt32.toNat_one, Nat.one_shiftLeft, Nat.mod_eq_of_lt fits]

theorem delay_eq (p : RetryPolicy) (n : Nat) :
    p.delay n = min (min (p.initial * 2 ^ min n 31) maxNanos) p.max := by
  rw [delay, doublings, Nat.shiftLeft_eq]

theorem spanDelay?_eq (initial max : Span) (attempt : UInt32) :
    ∃ d, spanDelay? initial max attempt = some d ∧
      d.total = (ofSpans initial max).delay attempt.toNat := by
  obtain ⟨t, found, exact⟩ := initial.total_times? (factor attempt)
  refine ⟨min t max, by rw [spanDelay?, found, Option.map_some], ?_⟩
  rw [Span.total_min, exact, toNat_factor, delay_eq, doublings]
  rfl

theorem delay_mono : p.delay n ≤ p.delay (n + 1) := by
  have doubled : p.initial * 2 ^ min n 31 ≤ p.initial * 2 ^ min (n + 1) 31 :=
    Nat.mul_le_mul_left _ (Nat.pow_le_pow_right (by decide) (by omega))
  rw [delay_eq, delay_eq]
  omega

theorem delay_eq_of_le (bounded : p.max ≤ maxNanos) (early : n ≤ 31) :
    p.delay n = min (p.initial * 2 ^ n) p.max := by
  rw [delay_eq, Nat.min_eq_left early]
  omega

theorem delay_eq_max_iff (bounded : p.max ≤ maxNanos) :
    p.delay n = p.max ↔ ∃ k ≤ 31, k ≤ n ∧ p.max ≤ p.initial * 2 ^ k := by
  rw [delay_eq]
  constructor
  · intro reached
    -- the number of doublings there is itself an attempt that reaches the bound
    exact ⟨min n 31, Nat.min_le_right _ _, Nat.min_le_left _ _, by omega⟩
  · rintro ⟨k, early, before, reached⟩
    have later : p.initial * 2 ^ k ≤ p.initial * 2 ^ min n 31 :=
      Nat.mul_le_mul_left _ (Nat.pow_le_pow_right (by decide) (by omega))
    omega

theorem delay_le_max : p.delay n ≤ p.max := Nat.min_le_right _ _

theorem initial_le_delay (ordered : p.initial ≤ p.max) (bounded : p.max ≤ maxNanos) :
    p.initial ≤ p.delay n := by
  have doubled : p.initial ≤ p.initial * 2 ^ min n 31 :=
    Nat.le_mul_of_pos_right _ (Nat.two_pow_pos _)
  rw [delay_eq]
  omega

end RetryPolicy

namespace Config

variable {c : Config}

theorem valid_of_ofFile {name : String} {bytes? : Option (List UInt8)}
    (accepted : ofFile name bytes? = .ok c) : c.Valid := by
  unfold ofFile at accepted
  split at accepted
  · cases accepted
  split at accepted
  · cases accepted
  dsimp only at accepted
  split at accepted
  · cases accepted
  split at accepted
  · cases accepted
  split at accepted
  · next valid =>
    cases accepted
    obtain rfl := validate_eq_ok valid
    exact validate_eq_ok_iff.mp valid
  · cases accepted

def Accepted (c : Config) : Prop :=
  (∃ url, ofUrl url = .ok c) ∨ ∃ name bytes?, ofFile name bytes? = .ok c

theorem Accepted.valid (accepted : c.Accepted) : c.Valid := by
  rcases accepted with ⟨url, accepted⟩ | ⟨name, bytes?, accepted⟩
  · exact valid_of_ofUrl accepted
  · exact valid_of_ofFile accepted

theorem retryPolicy_eq (c : Config) : c.retryPolicy =
    .ofSpans (.ofMillis c.watchRetryInitialMs) (.ofMillis c.watchRetryMaxMs) := by
  rw [RetryPolicy.ofSpans, Span.total_ofMillis, Span.total_ofMillis]
  rfl

end Config

namespace RetryPolicy

/-- On spans the delay is computed without a number that does not fit; it doubles with each of the
first attempts, up to its bound, and then stays. -/
theorem delays_double_up_to_bound :
    (∀ (initial max : Span) (attempt : UInt32), ∃ d, spanDelay? initial max attempt = some d ∧
        d.total = (ofSpans initial max).delay attempt.toNat) ∧
      (∀ (initial max : Span) (n : Nat),
        let p := ofSpans initial max
        p.delay n = min (min (p.initial * 2 ^ min n 31) maxNanos) p.max ∧
          p.delay n ≤ p.delay (n + 1) ∧ p.delay (n + 1) ≤ p.max ∧
          (n ≤ 31 → p.delay n = min (p.initial * 2 ^ n) p.max) ∧
          (p.delay n = p.max ↔ ∃ k ≤ 31, k ≤ n ∧ p.max ≤ p.initial * 2 ^ k)) ∧
      ∀ c : Config, c.Accepted →
        c.retryPolicy =
            ofSpans (.ofMillis c.watchRetryInitialMs) (.ofMillis c.watchRetryMaxMs) ∧
          nanosPerMilli ≤ c.watchRetryInitialMs.toNat * nanosPerMilli ∧
          ∀ n, c.watchRetryInitialMs.toNat * nanosPerMilli ≤ c.retryPolicy.delay n ∧
            c.retryPolicy.delay n ≤ c.watchRetryMaxMs.toNat * nanosPerMilli := by
  refine ⟨spanDelay?_eq, fun initial max n => ?_, fun c accepted => ?_⟩
  · have bounded : (ofSpans initial max).max ≤ maxNanos := max.total_le
    exact ⟨delay_eq _ n, delay_mono, delay_le_max, delay_eq_of_le bounded,
      delay_eq_max_iff bounded⟩
  · have valid := accepted.valid
    have spans := c.retryPolicy_eq
    have bounded : c.retryPolicy.max ≤ maxNanos := by
      rw [spans]
      exact Span.total_le _
    have ordered : c.retryPolicy.initial ≤ c.retryPolicy.max :=
      Nat.mul_le_mul_right _ (UInt64.le_iff_toNat_le.mp valid.bounded)
    have pauses : 0 < c.watchRetryInitialMs.toNat := UInt64.lt_iff_toNat_lt.mp valid.pauses
    refine ⟨spans, Nat.le_mul_of_pos_left _ pauses, fun n => ?_⟩
    exact ⟨initial_le_delay ordered bounded, delay_le_max⟩

def patient : Config :=
  { Config.ofAddress "h" with
    watchRetryInitialMs := 1, watchRetryMaxMs := 18446744073709551615 }

def halfLongest : Span := ⟨9223372036854775808, 0, by decide⟩

theorem delays_double_up_to_bound_saturating :
    let p := ofSpans halfLongest .longest
    (p.delay 1 = maxNanos ∧ p.delay 0 < p.delay 1 ∧ p.delay 4294967295 = maxNanos) ∧
      spanDelay? halfLongest .longest 4294967295 = some .longest ∧
      (Config.ofUrl
          "governance://h?watch_retry_initial_ms=1&watch_retry_max_ms=18446744073709551615" =
        .ok patient ∧
        ∀ n, nanosPerMilli ≤ patient.retryPolicy.delay n ∧
          patient.retryPolicy.delay n ≤ 18446744073709551615 * nanosPerMilli) := by
  intro p
  obtain ⟨-, delays, accepts⟩ := delays_double_up_to_bound
  have reached (n : Nat) (later : 1 ≤ n) : p.delay n = maxNanos :=
    (delays halfLongest .longest n).2.2.2.2.mpr ⟨1, by decide, later, by decide⟩
  have read : Config.ofUrl
      "governance://h?watch_retry_initial_ms=1&watch_retry_max_ms=18446744073709551615" =
      .ok patient := by decide +kernel
  have within := (accepts patient (.inl ⟨_, read⟩)).2.2
  exact ⟨⟨reached 1 (by decide), by decide, reached _ (by decide)⟩, by decide, read, within⟩

end RetryPolicy

end TrafficControl
