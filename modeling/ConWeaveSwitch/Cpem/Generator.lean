import ConWeaveSwitch.Cpem.Thresholds

/-!
# The CPEM feedback generator

The gradient `(int16_t)(queueLen - last_queue_len)`, the credit `CpemCalculateCreditValue` makes
of it, and `CpemGenerateFeedback`. While the difference fits in 16 bits a longer queue never gets
a smaller credit (`credit_value_mono_of_narrow`); past that the cast wraps and the credit drops
(`narrowed_gradient_lowers_credit`).
-/

namespace ConWeaveSwitch

set_option autoImplicit false

/-- `(int16_t)(queueLen - lastQueueLen)`: the 32-bit difference, modulo `2^32`, cut to its low
16 bits. -/
def queueGradient (queueLen lastQueueLen : UInt32) : BitVec 16 :=
  BitVec.ofNat 16 (queueLen - lastQueueLen).toNat

theorem queue_gradient_toInt {queueLen lastQueueLen : UInt32}
    (above : -2 ^ 15 ≤ (queueLen.toNat : ℤ) - lastQueueLen.toNat)
    (below : (queueLen.toNat : ℤ) - lastQueueLen.toNat < 2 ^ 15) :
    (queueGradient queueLen lastQueueLen).toInt = (queueLen.toNat : ℤ) - lastQueueLen.toNat := by
  have queueBound := u32_toNat_lt queueLen
  have lastBound := u32_toNat_lt lastQueueLen
  rw [queueGradient, BitVec.toInt_ofNat, Int.bmod_def, u32_toNat_sub]
  split_ifs <;> omega

namespace SwitchMmu

def creditQueueRatio (queueLen thresholdLow thresholdHigh : UInt32) : ℚ :=
  if queueLen ≥ thresholdHigh then 1
  else if queueLen > thresholdLow then
    ((queueLen - thresholdLow).toNat : ℚ) / (thresholdHigh - thresholdLow).toNat
  else 0

def creditGradientFactor (gradient : BitVec 16) (thresholdLow : UInt32) : ℚ :=
  if gradient.toInt > 0 then 1 + minQuotient gradient.toInt thresholdLow.toNat 1 * (5 / 10)
  else if gradient.toInt < 0 then 1 - minQuotient (-gradient.toInt) thresholdLow.toNat 1 * (3 / 10)
  else 1

theorem cpem_calculate_credit_value_eq (settings : Settings) (queueLen : UInt32)
    (gradient : BitVec 16) (thresholdLow thresholdHigh : UInt32) :
    cpemCalculateCreditValue settings queueLen gradient thresholdLow thresholdHigh =
      min (doubleToUInt16 (creditQueueRatio queueLen thresholdLow thresholdHigh *
          creditGradientFactor gradient thresholdLow * settings.cpemMaxCredit.toNat))
        (UInt16.ofNat settings.cpemMaxCredit.toNat) := rfl

variable {queueLen queueLen' thresholdLow thresholdHigh : UInt32}

theorem credit_queue_ratio_nonneg : 0 ≤ creditQueueRatio queueLen thresholdLow thresholdHigh := by
  unfold creditQueueRatio
  split_ifs
  · exact zero_le_one
  · positivity
  · exact le_rfl

theorem credit_queue_ratio_le_one : creditQueueRatio queueLen thresholdLow thresholdHigh ≤ 1 := by
  unfold creditQueueRatio
  split_ifs with full above
  · exact le_rfl
  · rw [ge_iff_le, u32_le_iff, not_le] at full
    rw [gt_iff_lt, u32_lt_iff] at above
    rw [u32_toNat_sub_of_le above.le, u32_toNat_sub_of_le (above.trans full).le]
    apply div_le_one_of_le₀ _ (Nat.cast_nonneg _)
    exact_mod_cast Nat.sub_le_sub_right full.le _
  · exact zero_le_one

theorem credit_queue_ratio_between (above : thresholdLow.toNat < queueLen.toNat)
    (below : queueLen.toNat < thresholdHigh.toNat) :
    creditQueueRatio queueLen thresholdLow thresholdHigh =
      ((queueLen.toNat - thresholdLow.toNat : ℕ) : ℚ) /
        (thresholdHigh.toNat - thresholdLow.toNat : ℕ) := by
  rw [creditQueueRatio, if_neg (show ¬queueLen ≥ thresholdHigh from not_le.mpr below),
    if_pos (show queueLen > thresholdLow from above), u32_toNat_sub_of_le above.le,
    u32_toNat_sub_of_le (above.trans below).le]

theorem credit_queue_ratio_mono (le : queueLen.toNat ≤ queueLen'.toNat) :
    creditQueueRatio queueLen thresholdLow thresholdHigh ≤
      creditQueueRatio queueLen' thresholdLow thresholdHigh := by
  by_cases full' : thresholdHigh.toNat ≤ queueLen'.toNat
  · rw [show creditQueueRatio queueLen' thresholdLow thresholdHigh = 1 from if_pos full']
    exact credit_queue_ratio_le_one
  by_cases above : thresholdLow.toNat < queueLen.toNat
  · rw [credit_queue_ratio_between above (by omega),
      credit_queue_ratio_between (by omega) (by omega)]
    apply div_le_div_of_nonneg_right _ (Nat.cast_nonneg _)
    exact_mod_cast Nat.sub_le_sub_right le _
  · rw [show creditQueueRatio queueLen thresholdLow thresholdHigh = 0 from
      (if_neg (show ¬thresholdHigh.toNat ≤ queueLen.toNat by omega)).trans (if_neg above)]
    exact credit_queue_ratio_nonneg

variable {gradient gradient' : BitVec 16}

theorem credit_gradient_factor_le_one (nonpos : gradient.toInt ≤ 0) :
    creditGradientFactor gradient thresholdLow ≤ 1 := by
  have shrink : 0 ≤ minQuotient (-gradient.toInt) thresholdLow.toNat 1 :=
    min_quotient_nonneg (by exact_mod_cast neg_nonneg.mpr nonpos) (Nat.cast_nonneg _) zero_le_one
  rw [creditGradientFactor, if_neg (not_lt.mpr nonpos)]
  split_ifs
  · linarith
  · exact le_rfl

theorem one_le_credit_gradient_factor (nonneg : 0 ≤ gradient.toInt) :
    1 ≤ creditGradientFactor gradient thresholdLow := by
  have grow : 0 ≤ minQuotient gradient.toInt thresholdLow.toNat 1 :=
    min_quotient_nonneg (by exact_mod_cast nonneg) (Nat.cast_nonneg _) zero_le_one
  rw [creditGradientFactor, if_neg (not_lt.mpr nonneg)]
  split_ifs
  · linarith
  · exact le_rfl

theorem credit_gradient_factor_bounds :
    0 ≤ creditGradientFactor gradient thresholdLow ∧
      creditGradientFactor gradient thresholdLow ≤ 3 / 2 := by
  have capped := fun x : ℚ => min_quotient_le x thresholdLow.toNat 1
  have nonneg := fun (x : ℚ) (xNonneg : 0 ≤ x) =>
    min_quotient_nonneg xNonneg (Nat.cast_nonneg thresholdLow.toNat) zero_le_one
  unfold creditGradientFactor
  split_ifs with pos neg
  · have := nonneg (gradient.toInt : ℚ) (by exact_mod_cast pos.le)
    have := capped gradient.toInt
    constructor <;> linarith
  · have := nonneg (-gradient.toInt : ℚ) (by exact_mod_cast (neg_pos.mpr neg).le)
    have := capped (-gradient.toInt)
    constructor <;> linarith
  · norm_num

theorem credit_gradient_factor_mono (le : gradient.toInt ≤ gradient'.toInt) :
    creditGradientFactor gradient thresholdLow ≤ creditGradientFactor gradient' thresholdLow := by
  have lowNonneg : (0 : ℚ) ≤ thresholdLow.toNat := Nat.cast_nonneg _
  by_cases pos' : gradient'.toInt > 0
  · by_cases pos : gradient.toInt > 0
    · simp only [creditGradientFactor, if_pos pos, if_pos pos']
      have : minQuotient gradient.toInt thresholdLow.toNat 1 ≤
          minQuotient gradient'.toInt thresholdLow.toNat 1 :=
        min_quotient_mono (by exact_mod_cast le) lowNonneg
      linarith
    · exact (credit_gradient_factor_le_one (not_lt.mp pos)).trans
        (one_le_credit_gradient_factor pos'.le)
  · have nonpos' := not_lt.mp pos'
    by_cases neg' : gradient'.toInt < 0
    · have neg : gradient.toInt < 0 := lt_of_le_of_lt le neg'
      simp only [creditGradientFactor, if_neg (not_lt.mpr (le.trans nonpos')), if_neg pos',
        if_pos neg, if_pos neg']
      have : minQuotient (-gradient'.toInt) thresholdLow.toNat 1 ≤
          minQuotient (-gradient.toInt) thresholdLow.toNat 1 :=
        min_quotient_mono (by exact_mod_cast neg_le_neg le) lowNonneg
      linarith
    · rw [show creditGradientFactor gradient' thresholdLow = 1 from
        (if_neg pos').trans (if_neg neg')]
      exact credit_gradient_factor_le_one (le.trans nonpos')

/-! ## `CpemGenerateFeedback` -/

def cpemScheduleFeedback (settings : Settings) (m : SwitchMmu) (port : Nat) : SwitchMmu :=
  if settings.cpemEnabled && decide (port < pCnt) then
    { m with cpemFeedbackEvent := Function.update m.cpemFeedbackEvent port true }
  else m

/-- `CpemGenerateFeedback(inPort)`, with the static counter `m_cpemFeedbackSent`: below
`threshold_low` only reschedule; otherwise record the queue length as `lastQueueLen`, count a
feedback and reschedule. The gradient and the credit it computes only reach a debug log. -/
def cpemGenerateFeedback (settings : Settings) (m : SwitchMmu) (stats : Statistics) (inPort : Nat) :
    SwitchMmu × Statistics :=
  if settings.cpemEnabled && decide (inPort < pCnt) then
    let currentQueueLen := m.ingress.usedIngressPortBytes inPort
    if currentQueueLen < (m.cpemGetDynamicThresholds settings inPort).1 then
      (m.cpemScheduleFeedback settings inPort, stats)
    else
      let state := { m.cpemState inPort with lastQueueLen := currentQueueLen }
      let m := { m with cpemState := Function.update m.cpemState inPort state }
      (m.cpemScheduleFeedback settings inPort,
        { stats with cpemFeedbackSent := stats.cpemFeedbackSent + 1 })
  else (m, stats)

@[simp] theorem cpem_schedule_feedback_cpem_state (settings : Settings) (m : SwitchMmu) (port : Nat) :
    (m.cpemScheduleFeedback settings port).cpemState = m.cpemState := by
  unfold cpemScheduleFeedback
  split_ifs <;> rfl

theorem cpem_generate_feedback_last_queue_len {settings : Settings} {m : SwitchMmu}
    {inPort : Nat} (enabled : settings.cpemEnabled = true) (inRange : inPort < pCnt)
    (stats : Statistics) :
    ((m.cpemGenerateFeedback settings stats inPort).1.cpemState inPort).lastQueueLen =
      if (m.cpemGetDynamicThresholds settings inPort).1 ≤ m.ingress.usedIngressPortBytes inPort
      then m.ingress.usedIngressPortBytes inPort
      else (m.cpemState inPort).lastQueueLen := by
  have guard : (settings.cpemEnabled && decide (inPort < pCnt)) = true := by simp [enabled, inRange]
  rw [cpemGenerateFeedback, if_pos guard]
  by_cases reached : (m.cpemGetDynamicThresholds settings inPort).1 ≤
    m.ingress.usedIngressPortBytes inPort
  · simp [reached, UInt32.not_lt.mpr reached]
  · simp [reached, UInt32.not_le.mp reached]

end SwitchMmu

open SwitchMmu in
theorem credit_value_toNat {settings : Settings} {queueLen thresholdLow thresholdHigh : UInt32}
    {gradient : BitVec 16} (room : settings.cpemMaxCredit.toNat * 3 < 2 ^ 17) :
    (cpemCalculateCreditValue settings queueLen gradient thresholdLow thresholdHigh).toNat =
      min ⌊creditQueueRatio queueLen thresholdLow thresholdHigh *
          creditGradientFactor gradient thresholdLow * settings.cpemMaxCredit.toNat⌋₊
        settings.cpemMaxCredit.toNat := by
  have ratioNonneg : 0 ≤ creditQueueRatio queueLen thresholdLow thresholdHigh :=
    credit_queue_ratio_nonneg
  have ratioLe : creditQueueRatio queueLen thresholdLow thresholdHigh ≤ 1 :=
    credit_queue_ratio_le_one
  obtain ⟨factorNonneg, factorLe⟩ :=
    (credit_gradient_factor_bounds : 0 ≤ creditGradientFactor gradient thresholdLow ∧ _)
  have credit : (settings.cpemMaxCredit.toNat : ℚ) * 3 < 2 ^ 17 := by exact_mod_cast room
  have maxNonneg : (0 : ℚ) ≤ settings.cpemMaxCredit.toNat := Nat.cast_nonneg _
  have product : creditQueueRatio queueLen thresholdLow thresholdHigh *
      creditGradientFactor gradient thresholdLow * settings.cpemMaxCredit.toNat < 2 ^ 16 :=
    calc _ ≤ 1 * (3 / 2) * (settings.cpemMaxCredit.toNat : ℚ) :=
          mul_le_mul_of_nonneg_right (mul_le_mul ratioLe factorLe factorNonneg zero_le_one) maxNonneg
      _ < 2 ^ 16 := by linarith
  rw [cpem_calculate_credit_value_eq, u16_toNat_min, double_to_u16_toNat product,
    UInt16.toNat_ofNat_of_lt (show _ < 65536 by omega)]

open SwitchMmu in
/-- While neither queue length is `2^15` bytes or more away from the last observation, the
credit `CpemSendFeedback` computes does not decrease as the queue grows, whatever the
thresholds. -/
theorem credit_value_mono_of_narrow {settings : Settings}
    {lastQueueLen queueLen queueLen' thresholdLow thresholdHigh : UInt32} (le : queueLen ≤ queueLen')
    (above : -2 ^ 15 ≤ (queueLen.toNat : ℤ) - lastQueueLen.toNat)
    (below : (queueLen'.toNat : ℤ) - lastQueueLen.toNat < 2 ^ 15)
    (room : settings.cpemMaxCredit.toNat * 3 < 2 ^ 17) :
    (cpemCalculateCreditValue settings queueLen (queueGradient queueLen lastQueueLen) thresholdLow
        thresholdHigh).toNat ≤
      (cpemCalculateCreditValue settings queueLen' (queueGradient queueLen' lastQueueLen)
        thresholdLow thresholdHigh).toNat := by
  rw [u32_le_iff] at le
  have gradients : (queueGradient queueLen lastQueueLen).toInt ≤
      (queueGradient queueLen' lastQueueLen).toInt := by
    rw [queue_gradient_toInt above (by omega), queue_gradient_toInt (by omega) below]
    omega
  rw [credit_value_toNat room, credit_value_toNat room]
  refine min_le_min_right _ (Nat.floor_le_floor (mul_le_mul_of_nonneg_right ?_ (Nat.cast_nonneg _)))
  exact mul_le_mul (credit_queue_ratio_mono le) (credit_gradient_factor_mono gradients)
    credit_gradient_factor_bounds.1 credit_queue_ratio_nonneg

open SwitchMmu in
theorem credit_value_mono_near_last :
    (210000 : UInt32) ≤ 220000 ∧ -2 ^ 15 ≤ ((210000 : UInt32).toNat : ℤ) - (200000 : UInt32).toNat ∧
      ((220000 : UInt32).toNat : ℤ) - (200000 : UInt32).toNat < 2 ^ 15 ∧
      Settings.defaults.cpemMaxCredit.toNat * 3 < 2 ^ 17 ∧
      (cpemCalculateCreditValue Settings.defaults 210000 (queueGradient 210000 200000)
          Settings.defaults.cpemQueueThresholdLow Settings.defaults.cpemQueueThresholdHigh).toNat ≤
        (cpemCalculateCreditValue Settings.defaults 220000 (queueGradient 220000 200000)
          Settings.defaults.cpemQueueThresholdLow Settings.defaults.cpemQueueThresholdHigh).toNat :=
  ⟨by decide, by decide, by decide, by decide,
    credit_value_mono_of_narrow (by decide) (by decide) (by decide) (by decide)⟩

open SwitchMmu in
/-- At the fixed thresholds `(50000, 200000)`, after an observation of 200000 bytes, a queue of
232767 bytes reads as the gradient `32767` and gets the full credit, while one byte more reads as
`-32768` and gets 803. -/
theorem narrowed_gradient_lowers_credit :
    (232767 : UInt32) ≤ 232768 ∧
      cpemCalculateCreditValue Settings.defaults 232767 (queueGradient 232767 200000)
          Settings.defaults.cpemQueueThresholdLow Settings.defaults.cpemQueueThresholdHigh = 1000 ∧
      cpemCalculateCreditValue Settings.defaults 232768 (queueGradient 232768 200000)
          Settings.defaults.cpemQueueThresholdLow Settings.defaults.cpemQueueThresholdHigh = 803 := by
  have maxCredit : Settings.defaults.cpemMaxCredit.toNat = 1000 := rfl
  have low : Settings.defaults.cpemQueueThresholdLow.toNat = 50000 := rfl
  have full : ∀ q : UInt32, 200000 ≤ q.toNat →
      creditQueueRatio q Settings.defaults.cpemQueueThresholdLow
        Settings.defaults.cpemQueueThresholdHigh = 1 :=
    fun _ above => if_pos above
  have growing : (queueGradient 232767 200000).toInt = 32767 := by decide
  have shrinking : (queueGradient 232768 200000).toInt = -32768 := by decide
  refine ⟨by decide, ?_, ?_⟩
  · have factor : creditGradientFactor (queueGradient 232767 200000)
        Settings.defaults.cpemQueueThresholdLow = 132767 / 100000 := by
      rw [creditGradientFactor, growing, low]
      norm_num [minQuotient]
    have floor : ⌊(1 : ℚ) * (132767 / 100000) * (1000 : ℕ)⌋₊ = 1327 := by
      norm_num [Nat.floor_eq_iff]
    rw [cpem_calculate_credit_value_eq, full _ (by decide), factor, maxCredit, doubleToUInt16, floor]
    decide
  · have factor : creditGradientFactor (queueGradient 232768 200000)
        Settings.defaults.cpemQueueThresholdLow = 100424 / 125000 := by
      rw [creditGradientFactor, shrinking, low]
      norm_num [minQuotient]
    have floor : ⌊(1 : ℚ) * (100424 / 125000) * (1000 : ℕ)⌋₊ = 803 := by
      norm_num [Nat.floor_eq_iff]
    rw [cpem_calculate_credit_value_eq, full _ (by decide), factor, maxCredit, doubleToUInt16, floor]
    decide

end ConWeaveSwitch
