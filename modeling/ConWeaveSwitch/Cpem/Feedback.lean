import ConWeaveSwitch.Cpem.Credit
import ConWeaveSwitch.Header.CreditFeedback

/-!
# The feedback credit over a run of feedback and over time

As feedback ages its weight decays within each piece of `CpemGetEffectiveCredit`
(`credit_and_rate_monotone_within_piece`) but jumps up at ten intervals
(`older_feedback_raises_credit`). Over a sequence of messages `CpemUpdateCreditOnFeedback` follows
the recurrence that caps the mix (`feedback_credit_eq_capped_recurrence`), which agrees with the
§4.6 recurrence capping the received credit while no credit plus bonus passes `max_credit`
(`feedback_credit_eq_spec_of_below_cap`) and parts from it after (`capped_credit_diverges_from_spec`).
-/

namespace ConWeaveSwitch

set_option autoImplicit false

namespace PortCreditState

variable (settings : Settings) (exp : ℚ → ℚ)

def feedbackWeight (now : ℤ) (state : PortCreditState) : ℚ :=
  if (now : ℚ) - state.lastFeedbackTime > (settings.cpemFeedbackIntervalNs * 10).toNat then 2 / 10
  else expNegQuotient exp ((now : ℚ) - state.lastFeedbackTime)
    (settings.cpemFeedbackIntervalNs.toNat * 3)

def rateRatio (now : ℤ) (state : PortCreditState) : ℚ :=
  max (1 - state.getEffectiveCredit settings exp now / settings.cpemMaxCredit.toNat *
    settings.cpemCreditToRateGain) settings.cpemMinRateRatio

theorem get_effective_credit_eq (now : ℤ) (state : PortCreditState) :
    state.getEffectiveCredit settings exp now =
      min (state.feedbackWeight settings exp now * state.feedbackCredit +
        settings.cpemInflightDiscount * state.inflightCredit) settings.cpemMaxCredit.toNat := rfl

theorem get_adjusted_rate_eq (now : ℤ) (linkRate : UInt64) (state : PortCreditState) :
    state.getAdjustedRate settings exp now linkRate =
      doubleToUInt64 (linkRate.toNat * state.rateRatio settings exp now) := rfl

end PortCreditState

section Ageing

variable {settings : Settings} {exp : ℚ → ℚ} {state : PortCreditState}

theorem feedback_weight_antitone_within_piece {now now' : ℤ} (expMono : Monotone exp)
    (later : now ≤ now')
    (samePiece : (now' : ℚ) - state.lastFeedbackTime ≤ (settings.cpemFeedbackIntervalNs * 10).toNat ∨
      ((settings.cpemFeedbackIntervalNs * 10).toNat : ℚ) < (now : ℚ) - state.lastFeedbackTime) :
    state.feedbackWeight settings exp now' ≤ state.feedbackWeight settings exp now := by
  have older : (now : ℚ) - state.lastFeedbackTime ≤ (now' : ℚ) - state.lastFeedbackTime :=
    sub_le_sub_right (Int.cast_le.mpr later) _
  unfold PortCreditState.feedbackWeight
  rcases samePiece with fresh | old
  · rw [if_neg (not_lt.mpr fresh), if_neg (not_lt.mpr (older.trans fresh))]
    unfold expNegQuotient
    split_ifs
    · exact le_rfl
    · exact expMono (div_le_div_of_nonneg_right (neg_le_neg older) (by positivity))
  · rw [if_pos old, if_pos (old.trans_le older)]

theorem effective_credit_antitone_within_piece {now now' : ℤ} (expMono : Monotone exp)
    (feedbackNonneg : 0 ≤ state.feedbackCredit) (later : now ≤ now')
    (samePiece : (now' : ℚ) - state.lastFeedbackTime ≤ (settings.cpemFeedbackIntervalNs * 10).toNat ∨
      ((settings.cpemFeedbackIntervalNs * 10).toNat : ℚ) < (now : ℚ) - state.lastFeedbackTime) :
    state.getEffectiveCredit settings exp now' ≤ state.getEffectiveCredit settings exp now := by
  rw [PortCreditState.get_effective_credit_eq, PortCreditState.get_effective_credit_eq]
  exact min_le_min_right _ (add_le_add_right (mul_le_mul_of_nonneg_right
    (feedback_weight_antitone_within_piece expMono later samePiece) feedbackNonneg) _)

theorem rate_ratio_le_one {now : ℤ} (creditNonneg : 0 ≤ state.getEffectiveCredit settings exp now)
    (gainNonneg : 0 ≤ settings.cpemCreditToRateGain) (minRatioLe : settings.cpemMinRateRatio ≤ 1) :
    state.rateRatio settings exp now ≤ 1 :=
  max_le (sub_le_self _ (mul_nonneg (div_nonneg creditNonneg (Nat.cast_nonneg _)) gainNonneg))
    minRatioLe

theorem rate_ratio_mono_of_credit_le {now now' : ℤ} (gainNonneg : 0 ≤ settings.cpemCreditToRateGain)
    (creditLe : state.getEffectiveCredit settings exp now' ≤ state.getEffectiveCredit settings exp now) :
    state.rateRatio settings exp now ≤ state.rateRatio settings exp now' :=
  max_le_max (sub_le_sub_left (mul_le_mul_of_nonneg_right
    (div_le_div_of_nonneg_right creditLe (Nat.cast_nonneg _)) gainNonneg) 1) le_rfl

theorem adjusted_rate_toNat {now : ℤ} (linkRate : UInt64)
    (ratioLe : state.rateRatio settings exp now ≤ 1) :
    (state.getAdjustedRate settings exp now linkRate).toNat =
      ⌊(linkRate.toNat : ℚ) * state.rateRatio settings exp now⌋₊ := by
  have rateLe : (linkRate.toNat : ℚ) * state.rateRatio settings exp now ≤ linkRate.toNat :=
    mul_le_of_le_one_right (Nat.cast_nonneg _) ratioLe
  have rateBelow : (linkRate.toNat : ℚ) < 2 ^ 64 := by exact_mod_cast linkRate.toBitVec.isLt
  rw [PortCreditState.get_adjusted_rate_eq, double_to_u64_toNat (rateLe.trans_lt rateBelow)]

/-- As long as the feedback age does not cross ten intervals, a later time gives no larger
effective credit and no smaller adjusted rate. -/
theorem credit_and_rate_monotone_within_piece {now now' : ℤ} (linkRate : UInt64)
    (expMono : Monotone exp) (expNonneg : ∀ x, 0 ≤ exp x)
    (discountNonneg : 0 ≤ settings.cpemInflightDiscount)
    (gainNonneg : 0 ≤ settings.cpemCreditToRateGain) (minRatioLe : settings.cpemMinRateRatio ≤ 1)
    (bounds : CreditBounds settings state) (later : now ≤ now')
    (samePiece : (now' : ℚ) - state.lastFeedbackTime ≤ (settings.cpemFeedbackIntervalNs * 10).toNat ∨
      ((settings.cpemFeedbackIntervalNs * 10).toNat : ℚ) < (now : ℚ) - state.lastFeedbackTime) :
    state.getEffectiveCredit settings exp now' ≤ state.getEffectiveCredit settings exp now ∧
      (state.getAdjustedRate settings exp now linkRate).toNat ≤
        (state.getAdjustedRate settings exp now' linkRate).toNat := by
  have creditLe := effective_credit_antitone_within_piece expMono bounds.feedbackNonneg later samePiece
  have ratioLe := rate_ratio_le_one (effective_credit_bounds now expNonneg discountNonneg bounds).1
    gainNonneg minRatioLe
  have ratioLe' := rate_ratio_le_one (effective_credit_bounds now' expNonneg discountNonneg bounds).1
    gainNonneg minRatioLe
  refine ⟨creditLe, ?_⟩
  rw [adjusted_rate_toNat linkRate ratioLe, adjusted_rate_toNat linkRate ratioLe']
  exact Nat.floor_le_floor (mul_le_mul_of_nonneg_left (rate_ratio_mono_of_credit_le gainNonneg creditLe)
    (Nat.cast_nonneg _))

end Ageing

def heardSwitch : SwitchMmu :=
  (((SwitchMmu.construct SwitchMmu.zeroSwitch).cpemInitPort cpemOn 1 100000000000).cpemUpdateCreditOnFeedback
    cpemOn 0 Statistics.zero 1 1000 0 0).1

theorem heard_switch_state :
    heardSwitch.cpemState 1 = ⟨200, 0, 0, 0, 0, 0, 100000000000, true⟩ := by
  have init := SwitchMmu.cpem_init_port_state cpemOn (SwitchMmu.construct SwitchMmu.zeroSwitch) 1 rfl
    (by decide) 100000000000
  have active : ((SwitchMmu.construct SwitchMmu.zeroSwitch).cpemInitPort cpemOn 1
      100000000000).cpemActive cpemOn 1 = true := by
    rw [SwitchMmu.cpemActive, init]
    rfl
  have steady : (0 : BitVec 16).toInt = 0 := by decide
  have alpha : cpemOn.cpemCreditDecayAlpha = 8 / 10 := rfl
  have credit : (1000 : UInt16).toNat = 1000 := rfl
  have maxCredit : cpemOn.cpemMaxCredit.toNat = 1000 := rfl
  rw [heardSwitch, SwitchMmu.cpem_update_credit_state cpemOn 0 _ 1 active, init]
  simp only [PortCreditState.updateCreditOnFeedback, PortCreditState.initial, steady, alpha, credit,
    lt_irrefl, gt_iff_lt, if_false, PortCreditState.mk.injEq, maxCredit]
  norm_num [doubleToUInt64]
  rfl

theorem heard_switch_bounds : CreditBounds cpemOn (heardSwitch.cpemState 1) := by
  have maxCredit : cpemOn.cpemMaxCredit.toNat = 1000 := rfl
  rw [heard_switch_state]
  constructor <;> norm_num [maxCredit]

theorem heard_credit_monotone_within_piece :
    Monotone (fun x : ℚ => max 0 (1 + x)) ∧ (∀ x : ℚ, 0 ≤ max 0 (1 + x)) ∧
      0 ≤ cpemOn.cpemInflightDiscount ∧ 0 ≤ cpemOn.cpemCreditToRateGain ∧
      cpemOn.cpemMinRateRatio ≤ 1 ∧ CreditBounds cpemOn (heardSwitch.cpemState 1) ∧
      (50000 : ℤ) ≤ 60000 ∧
      ((60000 : ℤ) - (heardSwitch.cpemState 1).lastFeedbackTime ≤
          ((cpemOn.cpemFeedbackIntervalNs * 10).toNat : ℚ) ∨
        ((cpemOn.cpemFeedbackIntervalNs * 10).toNat : ℚ) <
          (50000 : ℤ) - (heardSwitch.cpemState 1).lastFeedbackTime) ∧
      ((heardSwitch.cpemState 1).getEffectiveCredit cpemOn (fun x => max 0 (1 + x)) 60000 ≤
          (heardSwitch.cpemState 1).getEffectiveCredit cpemOn (fun x => max 0 (1 + x)) 50000 ∧
        ((heardSwitch.cpemState 1).getAdjustedRate cpemOn (fun x => max 0 (1 + x)) 50000
            100000000000).toNat ≤
          ((heardSwitch.cpemState 1).getAdjustedRate cpemOn (fun x => max 0 (1 + x)) 60000
            100000000000).toNat) := by
  have expMono : Monotone (fun x : ℚ => max 0 (1 + x)) := fun _ _ le =>
    max_le_max le_rfl (add_le_add_left le 1)
  have expNonneg : ∀ x : ℚ, 0 ≤ max 0 (1 + x) := fun _ => le_max_left _ _
  have discount : 0 ≤ cpemOn.cpemInflightDiscount := by norm_num [cpemOn, Settings.defaults]
  have gain : 0 ≤ cpemOn.cpemCreditToRateGain := by norm_num [cpemOn, Settings.defaults]
  have minRatio : cpemOn.cpemMinRateRatio ≤ 1 := by norm_num [cpemOn, Settings.defaults]
  have later : (50000 : ℤ) ≤ 60000 := by norm_num
  have interval : (cpemOn.cpemFeedbackIntervalNs * 10).toNat = 100000 := rfl
  have fresh : (60000 : ℤ) - (heardSwitch.cpemState 1).lastFeedbackTime ≤
      ((cpemOn.cpemFeedbackIntervalNs * 10).toNat : ℚ) := by
    rw [heard_switch_state, interval]
    norm_num
  exact ⟨expMono, expNonneg, discount, gain, minRatio, heard_switch_bounds, later, .inl fresh,
    credit_and_rate_monotone_within_piece 100000000000 expMono expNonneg discount gain minRatio
      heard_switch_bounds later (.inl fresh)⟩

/-- Feedback heard at time 0 on `heardSwitch`: at `now = 100000`, ten intervals old, it weighs
`exp(−10/3)`, and one nanosecond later `0.2`. For any `exp` with `exp(−10/3) ≤ 0.1`, the
effective credit grows from at most 20 to 40 and the adjusted rate falls from at least 98.4 Gb/s
to 96.8 Gb/s. -/
theorem older_feedback_raises_credit (exp : ℚ → ℚ) (expNonneg : 0 ≤ exp (-10 / 3))
    (expSmall : exp (-10 / 3) ≤ 1 / 10) :
    heardSwitch.cpemGetEffectiveCredit cpemOn exp 100000 1 <
        heardSwitch.cpemGetEffectiveCredit cpemOn exp 100001 1 ∧
      (heardSwitch.cpemGetAdjustedRate cpemOn exp 100001 Statistics.zero 1 100000000000).2.2 <
        (heardSwitch.cpemGetAdjustedRate cpemOn exp 100000 Statistics.zero 1 100000000000).2.2 := by
  have active : heardSwitch.cpemActive cpemOn 1 = true := by
    rw [SwitchMmu.cpemActive, heard_switch_state]
    rfl
  have interval : (cpemOn.cpemFeedbackIntervalNs * 10).toNat = 100000 := rfl
  have decayTime : cpemOn.cpemFeedbackIntervalNs.toNat = 10000 := rfl
  have maxCredit : cpemOn.cpemMaxCredit.toNat = 1000 := rfl
  have credit : ∀ now : ℤ, heardSwitch.cpemGetEffectiveCredit cpemOn exp now 1 =
      min ((heardSwitch.cpemState 1).feedbackWeight cpemOn exp now * 200) 1000 := by
    intro now
    rw [SwitchMmu.cpemGetEffectiveCredit, if_pos active, PortCreditState.get_effective_credit_eq,
      heard_switch_state, maxCredit]
    norm_num
  have fresh : (heardSwitch.cpemState 1).feedbackWeight cpemOn exp 100000 = exp (-10 / 3) := by
    rw [heard_switch_state, PortCreditState.feedbackWeight, interval, decayTime, expNegQuotient]
    norm_num
  have old : (heardSwitch.cpemState 1).feedbackWeight cpemOn exp 100001 = 2 / 10 := by
    rw [heard_switch_state, PortCreditState.feedbackWeight, interval]
    norm_num
  have creditFresh : heardSwitch.cpemGetEffectiveCredit cpemOn exp 100000 1 = exp (-10 / 3) * 200 := by
    rw [credit, fresh, min_eq_left (by linarith only [expSmall])]
  have creditOld : heardSwitch.cpemGetEffectiveCredit cpemOn exp 100001 1 = 40 := by
    rw [credit, old]
    norm_num
  have rate : ∀ now : ℤ, 0 ≤ heardSwitch.cpemGetEffectiveCredit cpemOn exp now 1 →
      ((heardSwitch.cpemGetAdjustedRate cpemOn exp now Statistics.zero 1 100000000000).2.2).toNat =
        ⌊(100000000000 : ℚ) * max (1 - heardSwitch.cpemGetEffectiveCredit cpemOn exp now 1 / 1000 *
          (8 / 10)) (1 / 10)⌋₊ := by
    intro now nonneg
    rw [SwitchMmu.cpemGetEffectiveCredit, if_pos active] at nonneg ⊢
    rw [SwitchMmu.cpem_get_adjusted_rate_value active, adjusted_rate_toNat _
      (rate_ratio_le_one nonneg (by norm_num [cpemOn, Settings.defaults])
        (by norm_num [cpemOn, Settings.defaults])), PortCreditState.rateRatio, maxCredit]
    rfl
  have rateOld := rate 100001 (by rw [creditOld]; norm_num)
  have rateFresh := rate 100000 (by rw [creditFresh]; positivity)
  rw [creditOld] at rateOld
  rw [creditFresh] at rateFresh
  have slower : ((heardSwitch.cpemGetAdjustedRate cpemOn exp 100001 Statistics.zero 1
      100000000000).2.2).toNat = 96800000000 := by
    rw [rateOld]
    norm_num [Nat.floor_eq_iff]
  have faster : 98400000000 ≤ ((heardSwitch.cpemGetAdjustedRate cpemOn exp 100000 Statistics.zero 1
      100000000000).2.2).toNat := by
    rw [rateFresh]
    have ratio : (984 / 1000 : ℚ) ≤ max (1 - exp (-10 / 3) * 200 / 1000 * (8 / 10)) (1 / 10) :=
      le_max_of_le_left (by linarith only [expSmall])
    calc 98400000000 = ⌊(100000000000 : ℚ) * (984 / 1000)⌋₊ := by norm_num
      _ ≤ _ := Nat.floor_le_floor (mul_le_mul_of_nonneg_left ratio (by norm_num))
  refine ⟨by rw [creditFresh, creditOld]; linarith only [expSmall], ?_⟩
  show ((heardSwitch.cpemGetAdjustedRate cpemOn exp 100001 Statistics.zero 1 100000000000).2.2).toNat <
    ((heardSwitch.cpemGetAdjustedRate cpemOn exp 100000 Statistics.zero 1 100000000000).2.2).toNat
  omega

theorem older_feedback_raises_credit_at_tangent :
    0 ≤ (fun x : ℚ => max 0 (1 + x)) (-10 / 3) ∧ (fun x : ℚ => max 0 (1 + x)) (-10 / 3) ≤ 1 / 10 ∧
      heardSwitch.cpemGetEffectiveCredit cpemOn (fun x => max 0 (1 + x)) 100000 1 <
        heardSwitch.cpemGetEffectiveCredit cpemOn (fun x => max 0 (1 + x)) 100001 1 ∧
      (heardSwitch.cpemGetAdjustedRate cpemOn (fun x => max 0 (1 + x)) 100001 Statistics.zero 1
          100000000000).2.2 <
        (heardSwitch.cpemGetAdjustedRate cpemOn (fun x => max 0 (1 + x)) 100000 Statistics.zero 1
          100000000000).2.2 :=
  have expNonneg : 0 ≤ (fun x : ℚ => max 0 (1 + x)) (-10 / 3) := le_max_left _ _
  have expSmall : (fun x : ℚ => max 0 (1 + x)) (-10 / 3) ≤ 1 / 10 := by norm_num
  ⟨expNonneg, expSmall, older_feedback_raises_credit _ expNonneg expSmall⟩

/-! ## A run of feedback against the recurrence of §4.6 -/

namespace SwitchMmu

def applyFeedback (settings : Settings) (m : SwitchMmu) (stats : Statistics) (port : Nat) :
    List (ℤ × CreditFeedbackHeader) → SwitchMmu × Statistics
  | [] => (m, stats)
  | (now, header) :: rest =>
    let result := m.cpemUpdateCreditOnFeedback settings now stats port header.creditValue
      header.queueLen header.gradient
    applyFeedback settings result.1 result.2 port rest

variable (settings : Settings)

theorem cpem_init_port_thresholds (m : SwitchMmu) (port : Nat) (linkRate : UInt64) (port' : Nat) :
    (m.cpemInitPort settings port linkRate).cpemGetDynamicThresholds settings port' =
      m.cpemGetDynamicThresholds settings port' := by
  unfold cpemInitPort
  split_ifs <;> rfl

theorem cpem_update_credit_thresholds (now : ℤ) (m : SwitchMmu) (stats : Statistics) (port : Nat)
    (creditValue : UInt16) (queueLen : UInt32) (gradient : BitVec 16) (port' : Nat) :
    (m.cpemUpdateCreditOnFeedback settings now stats port creditValue queueLen gradient).1.cpemGetDynamicThresholds
        settings port' =
      m.cpemGetDynamicThresholds settings port' := by
  unfold cpemUpdateCreditOnFeedback
  split_ifs <;> rfl

theorem cpem_update_credit_active {m : SwitchMmu} {port : Nat} (active : m.cpemActive settings port = true)
    (now : ℤ) (stats : Statistics) (creditValue : UInt16) (queueLen : UInt32) (gradient : BitVec 16) :
    (m.cpemUpdateCreditOnFeedback settings now stats port creditValue queueLen gradient).1.cpemActive
      settings port = true := by
  simp only [cpemActive, cpem_update_credit_state settings now m port active,
    PortCreditState.update_credit_initialized]
  exact active

end SwitchMmu

/-- The gradient bonus of §4.6: `min(0.3 · max_credit, Δ / threshold_low · 0.2 · max_credit)` for
a growing queue (`Δ > 0`), and `0` otherwise. -/
def specGradientBonus (maxCredit thresholdLow : ℚ) (gradient : ℤ) : ℚ :=
  if gradient > 0 then min (3 / 10 * maxCredit) (gradient / thresholdLow * (2 / 10) * maxCredit)
  else 0

/-- One step of the recurrence of §4.6: `α · fc + (1 − α) · min(max_credit, C + bonus)`. -/
def specCreditStep (alpha maxCredit thresholdLow feedbackCredit : ℚ) (header : CreditFeedbackHeader) :
    ℚ :=
  alpha * feedbackCredit + (1 - alpha) *
    min maxCredit (header.creditValue.toNat + specGradientBonus maxCredit thresholdLow header.gradient.toInt)

def specFeedbackCredit (alpha maxCredit thresholdLow : ℚ) (messages : List CreditFeedbackHeader) : ℚ :=
  messages.foldl (specCreditStep alpha maxCredit thresholdLow) 0

section Recurrence

variable {settings : Settings}

theorem gradient_bonus_eq_spec {thresholdLow : UInt32} (lowPos : 0 < thresholdLow.toNat)
    (gradient : BitVec 16) :
    (if gradient.toInt > 0 then
        minQuotient (gradient.toInt * settings.cpemMaxCredit.toNat * (2 / 10)) thresholdLow.toNat
          (settings.cpemMaxCredit.toNat * (3 / 10))
      else 0) =
      specGradientBonus settings.cpemMaxCredit.toNat thresholdLow.toNat gradient.toInt := by
  have lowNe : (thresholdLow.toNat : ℚ) ≠ 0 := by exact_mod_cast lowPos.ne'
  unfold specGradientBonus minQuotient
  split_ifs
  · rw [min_comm]
    congr 1 <;> ring
  · rfl

theorem update_credit_eq_spec_step {state : PortCreditState} (now : ℤ) {thresholdLow : UInt32}
    (header : CreditFeedbackHeader)
    (alphaBounds : 0 ≤ settings.cpemCreditDecayAlpha ∧ settings.cpemCreditDecayAlpha ≤ 1)
    (lowPos : 0 < thresholdLow.toNat) (feedbackLe : state.feedbackCredit ≤ settings.cpemMaxCredit.toNat)
    (belowCap : (header.creditValue.toNat : ℚ) + specGradientBonus settings.cpemMaxCredit.toNat
      thresholdLow.toNat header.gradient.toInt ≤ settings.cpemMaxCredit.toNat) :
    (state.updateCreditOnFeedback settings now thresholdLow header.creditValue header.gradient).feedbackCredit =
      specCreditStep settings.cpemCreditDecayAlpha settings.cpemMaxCredit.toNat thresholdLow.toNat
        state.feedbackCredit header := by
  have mixedLe : settings.cpemCreditDecayAlpha * state.feedbackCredit +
      (1 - settings.cpemCreditDecayAlpha) * ((header.creditValue.toNat : ℚ) +
        specGradientBonus settings.cpemMaxCredit.toNat thresholdLow.toNat header.gradient.toInt) ≤
      settings.cpemMaxCredit.toNat :=
    calc _ ≤ settings.cpemCreditDecayAlpha * settings.cpemMaxCredit.toNat +
          (1 - settings.cpemCreditDecayAlpha) * settings.cpemMaxCredit.toNat :=
          add_le_add (mul_le_mul_of_nonneg_left feedbackLe alphaBounds.1)
            (mul_le_mul_of_nonneg_left belowCap (sub_nonneg.mpr alphaBounds.2))
      _ = settings.cpemMaxCredit.toNat := by ring
  unfold PortCreditState.updateCreditOnFeedback specCreditStep
  dsimp only
  rw [gradient_bonus_eq_spec lowPos, min_eq_left mixedLe, min_eq_right belowCap]

theorem apply_feedback_eq_spec {thresholdLow : UInt32}
    (alphaBounds : 0 ≤ settings.cpemCreditDecayAlpha ∧ settings.cpemCreditDecayAlpha ≤ 1)
    (lowPos : 0 < thresholdLow.toNat) (messages : List (ℤ × CreditFeedbackHeader))
    (belowCap : ∀ msg ∈ messages, (msg.2.creditValue.toNat : ℚ) + specGradientBonus
      settings.cpemMaxCredit.toNat thresholdLow.toNat msg.2.gradient.toInt ≤ settings.cpemMaxCredit.toNat)
    {m : SwitchMmu} {stats : Statistics} {port : Nat} (active : m.cpemActive settings port = true)
    (low : (m.cpemGetDynamicThresholds settings port).1 = thresholdLow)
    (feedbackLe : (m.cpemState port).feedbackCredit ≤ settings.cpemMaxCredit.toNat) :
    ((m.applyFeedback settings stats port messages).1.cpemState port).feedbackCredit =
      (messages.map Prod.snd).foldl
        (specCreditStep settings.cpemCreditDecayAlpha settings.cpemMaxCredit.toNat thresholdLow.toNat)
        (m.cpemState port).feedbackCredit := by
  induction messages generalizing m stats with
  | nil => rfl
  | cons msg rest ih =>
    obtain ⟨now, header⟩ := msg
    have state := SwitchMmu.cpem_update_credit_state settings now m port active stats
      header.creditValue header.queueLen header.gradient
    rw [low] at state
    have capped : (header.creditValue.toNat : ℚ) + specGradientBonus settings.cpemMaxCredit.toNat
        thresholdLow.toNat header.gradient.toInt ≤ settings.cpemMaxCredit.toNat :=
      belowCap (now, header) (List.mem_cons_self _ _)
    have step := update_credit_eq_spec_step now header alphaBounds lowPos feedbackLe capped
    rw [← state] at step
    rw [SwitchMmu.applyFeedback, List.map_cons, List.foldl_cons, ← step]
    refine ih (fun msg mem => belowCap msg (List.mem_cons_of_mem _ mem))
      (SwitchMmu.cpem_update_credit_active settings active now stats _ _ _)
      ((congrArg Prod.fst (SwitchMmu.cpem_update_credit_thresholds settings now m stats port _ _ _
        port)).trans low) ?_
    rw [state]
    exact min_le_right _ _

/-- From `CpemInitPort`, a run of feedback messages none of whose credit plus bonus passes
`max_credit` leaves the feedback credit of the recurrence of §4.6. -/
theorem feedback_credit_eq_spec_of_below_cap {m : SwitchMmu} {stats : Statistics} {port : Nat}
    {thresholdLow : UInt32} (linkRate : UInt64) (enabled : settings.cpemEnabled = true)
    (inRange : port < pCnt) (low : (m.cpemGetDynamicThresholds settings port).1 = thresholdLow)
    (lowPos : 0 < thresholdLow.toNat)
    (alphaBounds : 0 ≤ settings.cpemCreditDecayAlpha ∧ settings.cpemCreditDecayAlpha ≤ 1)
    (messages : List (ℤ × CreditFeedbackHeader))
    (belowCap : ∀ msg ∈ messages, (msg.2.creditValue.toNat : ℚ) + specGradientBonus
      settings.cpemMaxCredit.toNat thresholdLow.toNat msg.2.gradient.toInt ≤ settings.cpemMaxCredit.toNat) :
    (((m.cpemInitPort settings port linkRate).applyFeedback settings stats port messages).1.cpemState
        port).feedbackCredit =
      specFeedbackCredit settings.cpemCreditDecayAlpha settings.cpemMaxCredit.toNat thresholdLow.toNat
        (messages.map Prod.snd) := by
  have init := SwitchMmu.cpem_init_port_state settings m port enabled inRange linkRate
  have active : (m.cpemInitPort settings port linkRate).cpemActive settings port = true := by
    simp [SwitchMmu.cpemActive, init, enabled, inRange]
  rw [apply_feedback_eq_spec alphaBounds lowPos messages belowCap active
    ((congrArg Prod.fst (SwitchMmu.cpem_init_port_thresholds settings m port linkRate port)).trans low)
    (by rw [init]; exact Nat.cast_nonneg _), init]
  rfl

end Recurrence

def belowCapFeedback : List (ℤ × CreditFeedbackHeader) :=
  [(1000, ⟨250000, 0, 500, 1⟩), (2000, ⟨251000, 1000, 800, 1⟩)]

theorem below_cap_feedback_follows_spec :
    fixedCpem.cpemEnabled = true ∧ 1 < pCnt ∧
      ((SwitchMmu.construct SwitchMmu.zeroSwitch).cpemGetDynamicThresholds fixedCpem 1).1 = 50000 ∧
      0 < (50000 : UInt32).toNat ∧
      (0 ≤ fixedCpem.cpemCreditDecayAlpha ∧ fixedCpem.cpemCreditDecayAlpha ≤ 1) ∧
      (∀ msg ∈ belowCapFeedback, (msg.2.creditValue.toNat : ℚ) + specGradientBonus
        fixedCpem.cpemMaxCredit.toNat (50000 : UInt32).toNat msg.2.gradient.toInt ≤
          fixedCpem.cpemMaxCredit.toNat) ∧
      ((((SwitchMmu.construct SwitchMmu.zeroSwitch).cpemInitPort fixedCpem 1 100000000000).applyFeedback
          fixedCpem Statistics.zero 1 belowCapFeedback).1.cpemState 1).feedbackCredit =
        specFeedbackCredit fixedCpem.cpemCreditDecayAlpha fixedCpem.cpemMaxCredit.toNat
          (50000 : UInt32).toNat (belowCapFeedback.map Prod.snd) := by
  have low : ((SwitchMmu.construct SwitchMmu.zeroSwitch).cpemGetDynamicThresholds fixedCpem 1).1 =
      50000 := rfl
  have alphaBounds : 0 ≤ fixedCpem.cpemCreditDecayAlpha ∧ fixedCpem.cpemCreditDecayAlpha ≤ 1 := by
    norm_num [fixedCpem, cpemOn, Settings.defaults]
  have steady : (0 : BitVec 16).toInt = 0 := by decide
  have grown : (1000 : BitVec 16).toInt = 1000 := by decide
  have maxCredit : fixedCpem.cpemMaxCredit.toNat = 1000 := rfl
  have belowCap : ∀ msg ∈ belowCapFeedback, (msg.2.creditValue.toNat : ℚ) + specGradientBonus
      fixedCpem.cpemMaxCredit.toNat (50000 : UInt32).toNat msg.2.gradient.toInt ≤
        fixedCpem.cpemMaxCredit.toNat := by
    have steadyCredit : (500 : UInt16).toNat = 500 := rfl
    have grownCredit : (800 : UInt16).toNat = 800 := rfl
    have lowNat : (50000 : UInt32).toNat = 50000 := rfl
    simp only [belowCapFeedback, List.mem_cons, List.mem_singleton, forall_eq_or_imp, forall_eq,
      List.not_mem_nil, false_imp_iff, imp_false, and_true, maxCredit, steady, grown, steadyCredit,
      grownCredit, lowNat]
    norm_num [specGradientBonus]
  exact ⟨rfl, by decide, low, by decide, alphaBounds, belowCap,
    feedback_credit_eq_spec_of_below_cap 100000000000 rfl (by decide) low (by decide) alphaBounds
      belowCapFeedback belowCap⟩

/-- One feedback at 1 µs carrying the credit `max_credit = 1000` and the gradient 32767, against the
fixed `threshold_low = 50000`: the bonus is `32767 / 50000 · 0.2 · 1000 = 131.068`. -/
def cappedFeedback : List (ℤ × CreditFeedbackHeader) := [(1000, ⟨250000, 32767, 1000, 1⟩)]

/-- From `CpemInitPort`, that feedback leaves `0.2 · 1131.068 = 226.2136` as the feedback credit,
where the recurrence of §4.6 gives `0.2 · min(1000, 1131.068) = 200`. -/
theorem capped_credit_diverges_from_spec :
    ((((SwitchMmu.construct SwitchMmu.zeroSwitch).cpemInitPort fixedCpem 1 100000000000).applyFeedback
        fixedCpem Statistics.zero 1 cappedFeedback).1.cpemState 1).feedbackCredit = 282767 / 1250 ∧
      specFeedbackCredit fixedCpem.cpemCreditDecayAlpha fixedCpem.cpemMaxCredit.toNat
        fixedCpem.cpemQueueThresholdLow.toNat (cappedFeedback.map Prod.snd) = 200 := by
  have init := SwitchMmu.cpem_init_port_state fixedCpem (SwitchMmu.construct SwitchMmu.zeroSwitch) 1
    rfl (by decide) 100000000000
  have active : ((SwitchMmu.construct SwitchMmu.zeroSwitch).cpemInitPort fixedCpem 1
      100000000000).cpemActive fixedCpem 1 = true := by
    rw [SwitchMmu.cpemActive, init]
    rfl
  have low : (((SwitchMmu.construct SwitchMmu.zeroSwitch).cpemInitPort fixedCpem 1
      100000000000).cpemGetDynamicThresholds fixedCpem 1).1.toNat = 50000 := rfl
  have growing : (32767 : BitVec 16).toInt = 32767 := by decide
  have maxCredit : fixedCpem.cpemMaxCredit.toNat = 1000 := rfl
  have lowSetting : fixedCpem.cpemQueueThresholdLow.toNat = 50000 := rfl
  have credit : (1000 : UInt16).toNat = 1000 := rfl
  constructor
  · rw [cappedFeedback, SwitchMmu.applyFeedback, SwitchMmu.applyFeedback]
    dsimp only
    rw [SwitchMmu.cpem_update_credit_state fixedCpem 1000 _ 1 active, init]
    simp only [PortCreditState.updateCreditOnFeedback, PortCreditState.initial, low, growing, maxCredit,
      credit]
    norm_num [minQuotient, fixedCpem, cpemOn, Settings.defaults]
  · simp only [specFeedbackCredit, cappedFeedback, List.map_cons, List.map_nil, List.foldl_cons,
      List.foldl_nil, specCreditStep, specGradientBonus, growing, maxCredit, lowSetting, credit]
    norm_num [fixedCpem, cpemOn, Settings.defaults]

/-- One step of the recurrence `CpemUpdateCreditOnFeedback` computes: the mix is capped, not the
received credit, `min(max_credit, α · fc + (1 − α) · (C + bonus))`. -/
def cappedCreditStep (alpha maxCredit thresholdLow feedbackCredit : ℚ) (header : CreditFeedbackHeader) :
    ℚ :=
  min maxCredit (alpha * feedbackCredit + (1 - alpha) *
    (header.creditValue.toNat + specGradientBonus maxCredit thresholdLow header.gradient.toInt))

def cappedFeedbackCredit (alpha maxCredit thresholdLow : ℚ) (messages : List CreditFeedbackHeader) : ℚ :=
  messages.foldl (cappedCreditStep alpha maxCredit thresholdLow) 0

section CappedRecurrence

variable {settings : Settings}

theorem update_credit_eq_capped_step {state : PortCreditState} (now : ℤ) {thresholdLow : UInt32}
    (header : CreditFeedbackHeader) (lowPos : 0 < thresholdLow.toNat) :
    (state.updateCreditOnFeedback settings now thresholdLow header.creditValue header.gradient).feedbackCredit =
      cappedCreditStep settings.cpemCreditDecayAlpha settings.cpemMaxCredit.toNat thresholdLow.toNat
        state.feedbackCredit header := by
  unfold PortCreditState.updateCreditOnFeedback cappedCreditStep
  dsimp only
  rw [gradient_bonus_eq_spec lowPos, min_comm]

theorem apply_feedback_eq_capped {thresholdLow : UInt32} (lowPos : 0 < thresholdLow.toNat)
    (messages : List (ℤ × CreditFeedbackHeader)) {m : SwitchMmu} {stats : Statistics} {port : Nat}
    (active : m.cpemActive settings port = true)
    (low : (m.cpemGetDynamicThresholds settings port).1 = thresholdLow) :
    ((m.applyFeedback settings stats port messages).1.cpemState port).feedbackCredit =
      (messages.map Prod.snd).foldl
        (cappedCreditStep settings.cpemCreditDecayAlpha settings.cpemMaxCredit.toNat thresholdLow.toNat)
        (m.cpemState port).feedbackCredit := by
  induction messages generalizing m stats with
  | nil => rfl
  | cons msg rest ih =>
    obtain ⟨now, header⟩ := msg
    have state := SwitchMmu.cpem_update_credit_state settings now m port active stats
      header.creditValue header.queueLen header.gradient
    rw [low] at state
    rw [SwitchMmu.applyFeedback, List.map_cons, List.foldl_cons,
      ← update_credit_eq_capped_step now header lowPos, ← state]
    exact ih (SwitchMmu.cpem_update_credit_active settings active now stats _ _ _)
      ((congrArg Prod.fst (SwitchMmu.cpem_update_credit_thresholds settings now m stats port _ _ _
        port)).trans low)

/-- From `CpemInitPort`, every run of feedback messages leaves the feedback credit of the capped
recurrence, whatever the credits, gradients and `α`. -/
theorem feedback_credit_eq_capped_recurrence {m : SwitchMmu} {stats : Statistics} {port : Nat}
    {thresholdLow : UInt32} (linkRate : UInt64) (enabled : settings.cpemEnabled = true)
    (inRange : port < pCnt) (low : (m.cpemGetDynamicThresholds settings port).1 = thresholdLow)
    (lowPos : 0 < thresholdLow.toNat) (messages : List (ℤ × CreditFeedbackHeader)) :
    (((m.cpemInitPort settings port linkRate).applyFeedback settings stats port messages).1.cpemState
        port).feedbackCredit =
      cappedFeedbackCredit settings.cpemCreditDecayAlpha settings.cpemMaxCredit.toNat thresholdLow.toNat
        (messages.map Prod.snd) := by
  have init := SwitchMmu.cpem_init_port_state settings m port enabled inRange linkRate
  have active : (m.cpemInitPort settings port linkRate).cpemActive settings port = true := by
    simp [SwitchMmu.cpemActive, init, enabled, inRange]
  rw [apply_feedback_eq_capped lowPos messages active
    ((congrArg Prod.fst (SwitchMmu.cpem_init_port_thresholds settings m port linkRate port)).trans low),
    init]
  rfl

theorem capped_feedback_follows_capped_recurrence :
    fixedCpem.cpemEnabled = true ∧ 1 < pCnt ∧
      ((SwitchMmu.construct SwitchMmu.zeroSwitch).cpemGetDynamicThresholds fixedCpem 1).1 = 50000 ∧
      0 < (50000 : UInt32).toNat ∧
      ((((SwitchMmu.construct SwitchMmu.zeroSwitch).cpemInitPort fixedCpem 1 100000000000).applyFeedback
          fixedCpem Statistics.zero 1 cappedFeedback).1.cpemState 1).feedbackCredit =
        cappedFeedbackCredit fixedCpem.cpemCreditDecayAlpha fixedCpem.cpemMaxCredit.toNat
          (50000 : UInt32).toNat (cappedFeedback.map Prod.snd) :=
  ⟨rfl, by decide, rfl, by decide,
    feedback_credit_eq_capped_recurrence 100000000000 rfl (by decide) rfl (by decide) cappedFeedback⟩

end CappedRecurrence

end ConWeaveSwitch
