/-
Module: WebHost.Proofs.Server.PollInterval
Purpose: Which accepted configurations a server can be started with, and how
  often it polls its handlers at most.
Main exports:
  pollFrequencyAllowed_iff, nanoseconds?_finite, pollInterval?_isSome_iff,
  short_period_iff_of_double, le_pollInterval, ofServer?_of_defaultRate, accepted_router_iff
-/
import WebHost.Proofs.Config.Accepted
import WebHost.Proofs.Number.Rounding
import WebHost.Server.Router

namespace WebHost

open Number Number.Binary

/-!
The time between two polls is the reciprocal of the rate, rounded to a double
and then to nanoseconds.  The greatest rate keeps it at a millisecond and above.
Nothing keeps it below 2^64 seconds, which is more than can be counted, so there
are accepted rates with which no server starts.
-/

/-! ### Accepted rates -/

theorem magnitude_maxPollFrequency :
    maxPollFrequency = .finite false (1000 * 2 ^ 43) (-43) ∧
      magnitude (1000 * 2 ^ 43) (-43) = 1000 := by
  constructor
  · decide +kernel
  · rw [magnitude_mul_pow]
    norm_num [magnitude]

/-- The accepted rates are the positive ones up to 1000. -/
theorem pollFrequencyAllowed_iff (frequency : Binary) :
    pollFrequencyAllowed frequency = true ↔
      ∃ significand exponent, frequency = .finite false significand exponent ∧
        significand ≠ 0 ∧ frequency.value ≤ 1000 := by
  obtain ⟨greatest, thousand⟩ := magnitude_maxPollFrequency
  unfold pollFrequencyAllowed
  rw [greatest]
  constructor
  · intro allowed
    obtain ⟨positive, below⟩ := Bool.and_eq_true_iff.1 allowed
    match frequency with
    | .finite false significand exponent =>
        refine ⟨significand, exponent, rfl, ?_, ?_⟩
        · simpa [isPositive] using positive
        · rw [lessEqual_iff, thousand] at below
          exact below
    | .finite true significand exponent => simp [isPositive] at positive
    | .notANumber => simp [isPositive] at positive
    | .infinite negative =>
        cases negative with
        | true => simp [isPositive] at positive
        | false => simp [lessEqual] at below
  · rintro ⟨significand, exponent, rfl, nonzero, below⟩
    rw [Bool.and_eq_true_iff, lessEqual_iff, thousand]
    exact ⟨by simpa [isPositive] using nonzero, below⟩

/-- Handlers are polled at the configured rate if that is an accepted one. -/
theorem pollRate_of_allowed {frequency : Binary} (allowed : pollFrequencyAllowed frequency = true) :
    pollRate frequency = frequency := by
  obtain ⟨positive, below⟩ := Bool.and_eq_true_iff.1 allowed
  obtain ⟨significand, exponent, rfl, -, -⟩ := (pollFrequencyAllowed_iff frequency).1 allowed
  unfold pollRate
  rw [maxPollFrequency] at below
  simp [isFinite, positive, below]

/-! ### The reciprocal of a rate -/

/-- The time between two polls in seconds: the reciprocal of the rate, rounded. -/
theorem period_roundsTo {significand : Nat} (exponent : Int) (nonzero : significand ≠ 0) :
    RoundsTo binary64 false (magnitude significand exponent)⁻¹
      ((Binary.ofNat 1).divide (.finite false significand exponent)) := by
  have one : Binary.ofNat 1 = .finite false (2 ^ 52) (-52) := by decide +kernel
  have unit : magnitude (2 ^ 52) (-52) = 1 := by norm_num [magnitude]
  have quotient := divide_roundsTo false false (-52) exponent (Nat.two_pow_pos 52).ne' nonzero
  rwa [unit, one_div, ← one] at quotient

/-- A number of seconds below 2^64 is counted in nanoseconds, rounded. -/
theorem nanoseconds?_finite (significand : Nat) (exponent : Int) :
    ((nanoseconds? (.finite false significand exponent)).isSome = true ↔
        magnitude significand exponent < 2 ^ 64) ∧
      ∀ count, nanoseconds? (.finite false significand exponent) = some count →
        IsNearest (magnitude significand exponent * 1000000000) count := by
  have parts := ratio_eq significand exponent
  have positive := ratio_snd_pos significand exponent
  have cast : (0 : ℚ) < (ratio significand exponent).2 := Nat.cast_pos.2 positive
  have bound : wordBound * (ratio significand exponent).2 ≤ (ratio significand exponent).1 ↔
      2 ^ 64 ≤ magnitude significand exponent := by
    rw [← parts, le_div_iff₀ cast]
    have word : ((wordBound : Nat) : ℚ) = 2 ^ 64 := by norm_num [wordBound]
    rw [← word]
    exact_mod_cast Iff.rfl
  have nearest := isNearest_roundEven ((ratio significand exponent).1 * 1000000000) positive
  rw [Nat.cast_mul, mul_div_right_comm, parts] at nearest
  unfold nanoseconds?
  simp only [Bool.false_eq_true, false_and, false_or, bound]
  by_cases long : 2 ^ 64 ≤ magnitude significand exponent
  · simp [long]
  · simp only [long, if_false]
    refine ⟨by simpa using long, ?_⟩
    rintro count ⟨⟩
    exact_mod_cast nearest

/-! ### The interval of an accepted rate -/

/-- At an accepted rate, the interval is counted from its rounded reciprocal. -/
theorem exists_seconds {frequency : Binary} (allowed : pollFrequencyAllowed frequency = true) :
    0 < frequency.value ∧ frequency.value ≤ 1000 ∧
      ∃ seconds, RoundsTo binary64 false frequency.value⁻¹ seconds ∧
        pollInterval? frequency = nanoseconds? seconds := by
  obtain ⟨significand, exponent, rfl, nonzero, below⟩ :=
    (pollFrequencyAllowed_iff frequency).1 allowed
  refine ⟨magnitude_pos exponent nonzero, below, _, period_roundsTo exponent nonzero, ?_⟩
  unfold pollInterval?
  rw [pollRate_of_allowed allowed]

/-- Handlers can be polled at an accepted rate unless its reciprocal is rounded to
2^64 seconds or more. -/
theorem pollInterval?_isSome_iff {frequency : Binary}
    (allowed : pollFrequencyAllowed frequency = true) :
    (pollInterval? frequency).isSome = true ↔ 1 < (2 ^ 64 - 2 ^ 10) * frequency.value := by
  obtain ⟨positive, -, seconds, period, counted⟩ := exists_seconds allowed
  have short : frequency.value⁻¹ < 2 ^ 64 - 2 ^ 10 ↔ 1 < (2 ^ 64 - 2 ^ 10) * frequency.value :=
    inv_lt_iff_one_lt_mul₀ positive
  rw [counted, ← short]
  cases period with
  | finite count power rounding same =>
      have reached := rounding.two_zpow_le_iff (by decide)
        (show binary64.lowest + binary64.precision ≤ 64 by decide)
      have half : (2 : ℚ) ^ (64 : Int) - (2 : ℚ) ^ (64 - (binary64.precision : Int) - 1) =
          2 ^ 64 - 2 ^ 10 := by norm_num [binary64]
      rw [half, ← same] at reached
      rw [(nanoseconds?_finite count power).1, ← not_le, ← not_le]
      exact not_congr (by exact_mod_cast reached)
  | infinite rounding above =>
      -- The last bit is at the top of the format, and so far above 2^64.
      have long : (2 : ℚ) ^ 64 ≤ frequency.value⁻¹ := by
        rcases rounding.normal with bottom | normal
        · rw [bottom] at above
          exact absurd above (by decide)
        · apply le_trans _ normal
          rw [← zpow_natCast]
          apply zpow_le_zpow_right₀ (by norm_num)
          have top : (971 : Int) ≤ _ := above
          simp only [binary64]
          omega
      constructor
      · intro finite
        cases finite
      · intro less
        linarith

/-- The rates of doubles at which no server starts are those up to 2^-64. -/
theorem short_period_iff_of_double {significand : Nat} (exponent : Int)
    (double : significand < 2 ^ 53) :
    1 < (2 ^ 64 - 2 ^ 10) * magnitude significand exponent ↔
      (2 : ℚ) ^ (-64 : Int) < magnitude significand exponent := by
  constructor
  · intro short
    norm_num
    linarith
  · intro above
    have next : magnitude (2 ^ 52 + 1) (-116) ≤ magnitude significand exponent := by
      by_cases fine : -116 ≤ exponent
      · -- Both are whole multiples of 2^-116.
        obtain ⟨places, same⟩ := Int.le.dest fine
        rw [← same, ← magnitude_mul_pow] at above ⊢
        have power : (2 : ℚ) ^ (-64 : Int) = magnitude (2 ^ 52) (-116) := by
          norm_num [magnitude]
        rw [power] at above
        have more := lt_of_mul_lt_mul_right above (two_zpow_pos (-116)).le
        exact mul_le_mul_of_nonneg_right (Nat.cast_le.2 (Nat.cast_lt.1 more))
          (two_zpow_pos (-116)).le
      · -- No significand of a double is long enough for such a small unit.
        exfalso
        have small : magnitude significand exponent ≤ magnitude (1 * 2 ^ 53) exponent :=
          mul_le_mul_of_nonneg_right (by exact_mod_cast (by omega)) (two_zpow_pos exponent).le
        have top : magnitude 1 (exponent + (53 : Nat)) = (2 : ℚ) ^ (exponent + (53 : Nat)) := by
          simp [magnitude]
        rw [magnitude_mul_pow, top] at small
        have bound : (2 : ℚ) ^ (exponent + (53 : Nat)) ≤ (2 : ℚ) ^ (-64 : Int) :=
          zpow_le_zpow_right₀ (by norm_num) (by omega)
        linarith
    have numeral : magnitude (2 ^ 52 + 1) (-116) = (2 ^ 52 + 1) / 2 ^ 116 := by
      norm_num [magnitude]
    rw [numeral] at next
    linarith

/-- Handlers are polled every millisecond at most. -/
theorem le_pollInterval {frequency : Binary} (allowed : pollFrequencyAllowed frequency = true)
    {interval : Nat} (polled : pollInterval? frequency = some interval) :
    1000000 ≤ interval := by
  obtain ⟨positive, below, seconds, period, counted⟩ := exists_seconds allowed
  rw [counted] at polled
  -- A double that is less than a thousandth, by less than half a nanosecond.
  have numeral : magnitude 1099511627 (-40) = 1099511627 / 2 ^ 40 := by norm_num [magnitude]
  have thousandth : magnitude 1099511627 (-40) ≤ frequency.value⁻¹ := by
    have slow : (1000 : ℚ)⁻¹ ≤ frequency.value⁻¹ := inv_anti₀ positive below
    apply le_trans _ slow
    rw [numeral]
    norm_num
  cases period with
  | finite count power rounding same =>
      have kept := rounding.magnitude_le (by decide)
        (show 1099511627 < 2 ^ binary64.precision by decide)
        (show binary64.lowest ≤ -40 by decide) thousandth
      rw [← same, numeral] at kept
      have nearest := (nanoseconds?_finite count power).2 interval polled
      apply (nearest.le_iff_of_even (by decide)).2
      push_cast
      linarith
  | infinite rounding above => cases polled

/-- At the default rate, the server that starts is the one that polls its handlers ten
times in a second. -/
theorem ofServer?_of_defaultRate {σ : Type} {server : Server σ}
    (rate : server.config.websocket.pollFrequency = defaultPollFrequency) :
    Router.ofServer? server = some (.standard server) := by
  have interval : pollInterval? defaultPollFrequency = some 100000000 := by decide +kernel
  rw [Router.ofServer?, rate, interval]
  rfl

/-- With an accepted configuration, a server starts if and only if the reciprocal
of its rate of polling is not rounded to 2^64 or more, which for doubles means
that the rate is above 2^-64.  No server that starts polls its handlers more than
once in a millisecond. -/
theorem accepted_router_iff {σ : Type} (server : Server σ) (files : FileSystem)
    (accepted : server.config.faults files = []) :
    ((Router.ofServer? server).isSome = true ↔
        1 < (2 ^ 64 - 2 ^ 10) * server.config.websocket.pollFrequency.value) ∧
      (∀ significand exponent, significand < 2 ^ 53 →
        server.config.websocket.pollFrequency = .finite false significand exponent →
        ((Router.ofServer? server).isSome = true ↔
          (2 : ℚ) ^ (-64 : Int) < server.config.websocket.pollFrequency.value)) ∧
      ∀ router, Router.ofServer? server = some router → 1000000 ≤ router.pollInterval := by
  have allowed := ((faults_eq_nil_iff files server.config).1 accepted).pollFrequency
  have starts : (Router.ofServer? server).isSome = true ↔
      1 < (2 ^ 64 - 2 ^ 10) * server.config.websocket.pollFrequency.value := by
    rw [← pollInterval?_isSome_iff allowed, Router.ofServer?, Option.isSome_map]
  refine ⟨starts, ?_, ?_⟩
  · intro significand exponent double given
    rw [starts, given]
    exact short_period_iff_of_double exponent double
  · intro router started
    obtain ⟨interval, polled, rfl⟩ := Option.map_eq_some_iff.1 started
    exact le_pollInterval allowed polled

/-- The standard configuration is accepted, and its server polls ten times in a
second. -/
theorem accepted_router_iff_standard :
    Config.standard.faults default = [] ∧
      1 < (2 ^ 64 - 2 ^ 10) * Config.standard.websocket.pollFrequency.value ∧
      ∃ router, Router.ofServer? (Server.ofConfig Config.standard : Server Unit) = some router ∧
        1000000 ≤ router.pollInterval := by
  have accepted := faults_standard default
  obtain ⟨served, -, bounded⟩ :=
    accepted_router_iff (Server.ofConfig Config.standard : Server Unit) default accepted
  have started : Router.ofServer? (Server.ofConfig Config.standard : Server Unit) =
      some (.standard (Server.ofConfig Config.standard)) := ofServer?_of_defaultRate rfl
  have fast := served.1 (Option.isSome_of_eq_some started)
  exact ⟨accepted, fast, _, started, bounded _ started⟩

/-- An accepted rate that is too low: once in 10^20 seconds. -/
theorem accepted_without_router :
    ¬ ∀ (server : Server Unit) (files : FileSystem), server.config.faults files = [] →
      (Router.ofServer? server).isSome = true := by
  intro always
  let websocket : SocketConfig :=
    { SocketConfig.standard with pollFrequency := Binary.ofDecimal binary64 false 1 (-20) }
  have served := always (Server.ofConfig { Config.standard with websocket := websocket }) default
    (by decide +kernel)
  revert served
  decide +kernel

end WebHost
