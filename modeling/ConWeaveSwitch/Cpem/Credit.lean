import ConWeaveSwitch.Cpem.Thresholds

/-!
# The CPEM credit integrator

The CPEM functions of `SwitchMmu`, each a body on one port's `PortCreditState` behind the guard
`cpemActive`, with `exp` standing for `std::exp`. Over a port's run of `CreditStep`s both credits
stay in `[0, max_credit]` and the adjusted rate between `⌊min_rate_ratio · R⌋` and `R`
(`credit_bounded`); a feedback halves the bytes in flight but leaves their credit stale
(`feedback_leaves_inflight_credit_stale`).
-/

namespace ConWeaveSwitch

set_option autoImplicit false

namespace PortCreditState

variable (settings : Settings) (exp : ℚ → ℚ) (now : ℤ)

def initial (linkRate : UInt64) : PortCreditState :=
  ⟨0, 0, 0, 0, 0, 0, linkRate, true⟩

/-- The body of `CpemUpdateInflightOnSend(port, bytes)`: decay the bytes in flight by the time since
the last send, add the new ones, and convert them to a credit against `2 * threshold_high`. -/
def updateInflightOnSend (thresholdHigh : UInt32) (bytes : UInt64) (state : PortCreditState) :
    PortCreditState :=
  let dt := now - state.lastSendTime
  let decayed :=
    if dt > 0 ∧ state.lastSendTime > 0 then
      doubleToUInt64 (expNegQuotient exp dt (settings.cpemFeedbackIntervalNs.toNat * 2) *
        state.inflightBytes.toNat)
    else state.inflightBytes
  let inflightBytes := decayed + bytes
  { state with
    inflightBytes := inflightBytes
    lastSendTime := now
    inflightCredit := minQuotient (inflightBytes.toNat * settings.cpemMaxCredit.toNat)
      (thresholdHigh.toNat * 2) settings.cpemMaxCredit.toNat }

/-- The body of `CpemUpdateCreditOnFeedback(port, creditValue, queueLen, gradient)`: an EWMA of the
received credit plus a bonus for a growing downstream queue, capped at `max_credit`; the bytes in
flight are halved. -/
def updateCreditOnFeedback (thresholdLow : UInt32) (creditValue : UInt16) (gradient : BitVec 16)
    (state : PortCreditState) : PortCreditState :=
  let alpha := settings.cpemCreditDecayAlpha
  let newCredit : ℚ := creditValue.toNat +
    if gradient.toInt > 0 then
      minQuotient (gradient.toInt * settings.cpemMaxCredit.toNat * (2 / 10)) thresholdLow.toNat
        (settings.cpemMaxCredit.toNat * (3 / 10))
    else 0
  { state with
    feedbackCredit :=
      min (alpha * state.feedbackCredit + (1 - alpha) * newCredit) settings.cpemMaxCredit.toNat
    lastFeedbackTime := now
    inflightBytes := doubleToUInt64 (state.inflightBytes.toNat * (5 / 10)) }

def getEffectiveCredit (state : PortCreditState) : ℚ :=
  let feedbackAgeNs : ℚ := now - state.lastFeedbackTime
  let feedbackWeight :=
    if feedbackAgeNs > (settings.cpemFeedbackIntervalNs * 10).toNat then 2 / 10
    else expNegQuotient exp feedbackAgeNs (settings.cpemFeedbackIntervalNs.toNat * 3)
  min (feedbackWeight * state.feedbackCredit + settings.cpemInflightDiscount * state.inflightCredit)
    settings.cpemMaxCredit.toNat

def getAdjustedRate (linkRate : UInt64) (state : PortCreditState) : UInt64 :=
  let creditRatio := state.getEffectiveCredit settings exp now / settings.cpemMaxCredit.toNat
  let rateRatio := max (1 - creditRatio * settings.cpemCreditToRateGain) settings.cpemMinRateRatio
  doubleToUInt64 (linkRate.toNat * rateRatio)

@[simp] theorem initial_initialized (linkRate : UInt64) : (initial linkRate).initialized = true :=
  rfl

@[simp] theorem update_inflight_initialized (thresholdHigh : UInt32) (bytes : UInt64)
    (state : PortCreditState) :
    (state.updateInflightOnSend settings exp now thresholdHigh bytes).initialized =
      state.initialized := rfl

@[simp] theorem update_credit_initialized (thresholdLow : UInt32) (creditValue : UInt16)
    (gradient : BitVec 16) (state : PortCreditState) :
    (state.updateCreditOnFeedback settings now thresholdLow creditValue gradient).initialized =
      state.initialized := rfl

end PortCreditState

namespace SwitchMmu

variable (settings : Settings) (exp : ℚ → ℚ) (now : ℤ)

def cpemActive (m : SwitchMmu) (port : Nat) : Bool :=
  settings.cpemEnabled && decide (port < pCnt) && (m.cpemState port).initialized

def cpemInitPort (m : SwitchMmu) (port : Nat) (linkRate : UInt64) : SwitchMmu :=
  if settings.cpemEnabled && decide (port < pCnt) then
    { m with cpemState := Function.update m.cpemState port (PortCreditState.initial linkRate) }
  else m

def cpemUpdateInflightOnSend (m : SwitchMmu) (port : Nat) (bytes : UInt64) : SwitchMmu :=
  if m.cpemActive settings port then
    let state := (m.cpemState port).updateInflightOnSend settings exp now
      (m.cpemGetDynamicThresholds settings port).2 bytes
    { m with cpemState := Function.update m.cpemState port state }
  else m

/-- `CpemUpdateCreditOnFeedback(port, creditValue, queueLen, gradient)`, with the static counter
`m_cpemFeedbackRecv`. The queue length is not read. -/
def cpemUpdateCreditOnFeedback (m : SwitchMmu) (stats : Statistics) (port : Nat)
    (creditValue : UInt16) (_queueLen : UInt32) (gradient : BitVec 16) : SwitchMmu × Statistics :=
  if m.cpemActive settings port then
    let state := (m.cpemState port).updateCreditOnFeedback settings now
      (m.cpemGetDynamicThresholds settings port).1 creditValue gradient
    ({ m with cpemState := Function.update m.cpemState port state },
      { stats with cpemFeedbackRecv := stats.cpemFeedbackRecv + 1 })
  else (m, stats)

section Spec

variable (m : SwitchMmu) (port : Nat)

theorem cpem_init_port_state (enabled : settings.cpemEnabled = true) (inRange : port < pCnt)
    (linkRate : UInt64) :
    (m.cpemInitPort settings port linkRate).cpemState port = PortCreditState.initial linkRate := by
  simp [cpemInitPort, enabled, inRange]

theorem cpem_update_inflight_state (active : m.cpemActive settings port = true) (bytes : UInt64) :
    (m.cpemUpdateInflightOnSend settings exp now port bytes).cpemState port =
      (m.cpemState port).updateInflightOnSend settings exp now
        (m.cpemGetDynamicThresholds settings port).2 bytes := by
  simp [cpemUpdateInflightOnSend, active]

theorem cpem_update_credit_state (active : m.cpemActive settings port = true) (stats : Statistics)
    (creditValue : UInt16) (queueLen : UInt32) (gradient : BitVec 16) :
    (m.cpemUpdateCreditOnFeedback settings now stats port creditValue queueLen gradient).1.cpemState
        port =
      (m.cpemState port).updateCreditOnFeedback settings now
        (m.cpemGetDynamicThresholds settings port).1 creditValue gradient := by
  simp [cpemUpdateCreditOnFeedback, active]

end Spec

def cpemGetEffectiveCredit (m : SwitchMmu) (port : Nat) : ℚ :=
  if m.cpemActive settings port then (m.cpemState port).getEffectiveCredit settings exp now else 0

def cpemGetAdjustedRate (m : SwitchMmu) (stats : Statistics) (port : Nat) (linkRate : UInt64) :
    SwitchMmu × Statistics × UInt64 :=
  if m.cpemActive settings port then
    let adjustedRate := (m.cpemState port).getAdjustedRate settings exp now linkRate
    if (m.cpemState port).effectiveRate ≠ adjustedRate then
      let state := { m.cpemState port with effectiveRate := adjustedRate }
      ({ m with cpemState := Function.update m.cpemState port state },
        { stats with cpemRateAdjustments := stats.cpemRateAdjustments + 1 }, adjustedRate)
    else (m, stats, adjustedRate)
  else (m, stats, linkRate)

end SwitchMmu

theorem SwitchMmu.cpem_get_adjusted_rate_value {settings : Settings} {m : SwitchMmu} {port : Nat}
    (active : m.cpemActive settings port = true) (exp : ℚ → ℚ) (now : ℤ) (stats : Statistics)
    (linkRate : UInt64) :
    (m.cpemGetAdjustedRate settings exp now stats port linkRate).2.2 =
      (m.cpemState port).getAdjustedRate settings exp now linkRate := by
  simp only [cpemGetAdjustedRate, active, if_true]
  split_ifs <;> rfl

/-! ## Runs of one port -/

/-- One CPEM operation on a port at a time no earlier than the last one, reading whatever
thresholds the MMU reports then. -/
inductive CreditStep (settings : Settings) (exp : ℚ → ℚ) :
    ℤ × PortCreditState → ℤ × PortCreditState → Prop
  | send {time now : ℤ} {state : PortCreditState} (later : time ≤ now) (thresholdHigh : UInt32)
      (bytes : UInt64) :
      CreditStep settings exp (time, state)
        (now, state.updateInflightOnSend settings exp now thresholdHigh bytes)
  | feedback {time now : ℤ} {state : PortCreditState} (later : time ≤ now) (thresholdLow : UInt32)
      (creditValue : UInt16) (gradient : BitVec 16) :
      CreditStep settings exp (time, state)
        (now, state.updateCreditOnFeedback settings now thresholdLow creditValue gradient)
  | adjust {time now : ℤ} {state : PortCreditState} (later : time ≤ now) (linkRate : UInt64) :
      CreditStep settings exp (time, state)
        (now, { state with effectiveRate := state.getAdjustedRate settings exp now linkRate })

def CreditReachable (settings : Settings) (exp : ℚ → ℚ) (linkRate : UInt64) (start : ℤ) :
    ℤ × PortCreditState → Prop :=
  Relation.ReflTransGen (CreditStep settings exp) (start, PortCreditState.initial linkRate)

/-- Both credits of a port state lie in `[0, max_credit]`. -/
structure CreditBounds (settings : Settings) (state : PortCreditState) : Prop where
  feedbackNonneg : 0 ≤ state.feedbackCredit
  feedbackLe : state.feedbackCredit ≤ settings.cpemMaxCredit.toNat
  inflightNonneg : 0 ≤ state.inflightCredit
  inflightLe : state.inflightCredit ≤ settings.cpemMaxCredit.toNat

section Bounds

variable {settings : Settings} {exp : ℚ → ℚ}

theorem credit_bounds_initial (linkRate : UInt64) :
    CreditBounds settings (PortCreditState.initial linkRate) :=
  ⟨le_rfl, Nat.cast_nonneg _, le_rfl, Nat.cast_nonneg _⟩

theorem feedback_credit_step_bounds {state : PortCreditState} (now : ℤ) (thresholdLow : UInt32)
    (creditValue : UInt16) (gradient : BitVec 16)
    (alphaBounds : 0 ≤ settings.cpemCreditDecayAlpha ∧ settings.cpemCreditDecayAlpha ≤ 1)
    (before : 0 ≤ state.feedbackCredit) :
    0 ≤ (state.updateCreditOnFeedback settings now thresholdLow creditValue gradient).feedbackCredit ∧
      (state.updateCreditOnFeedback settings now thresholdLow creditValue gradient).feedbackCredit ≤
        settings.cpemMaxCredit.toNat := by
  have bonus : 0 ≤ if gradient.toInt > 0 then
      minQuotient (gradient.toInt * settings.cpemMaxCredit.toNat * (2 / 10)) thresholdLow.toNat
        (settings.cpemMaxCredit.toNat * (3 / 10))
    else 0 := by
    split_ifs with growing
    · exact min_quotient_nonneg (by positivity) (Nat.cast_nonneg _) (by positivity)
    · exact le_rfl
  have mixed : 0 ≤ settings.cpemCreditDecayAlpha * state.feedbackCredit +
      (1 - settings.cpemCreditDecayAlpha) * ((creditValue.toNat : ℚ) + _) :=
    add_nonneg (mul_nonneg alphaBounds.1 before)
      (mul_nonneg (by linarith [alphaBounds.2]) (add_nonneg (Nat.cast_nonneg _) bonus))
  exact ⟨le_min mixed (Nat.cast_nonneg _), min_le_right _ _⟩

theorem CreditBounds.step {before after : ℤ × PortCreditState}
    (alphaBounds : 0 ≤ settings.cpemCreditDecayAlpha ∧ settings.cpemCreditDecayAlpha ≤ 1)
    (step : CreditStep settings exp before after) (bounds : CreditBounds settings before.2) :
    CreditBounds settings after.2 := by
  cases step with
  | send _ thresholdHigh bytes =>
      exact ⟨bounds.feedbackNonneg, bounds.feedbackLe,
        min_quotient_nonneg (by positivity) (by positivity) (Nat.cast_nonneg _),
        min_quotient_le _ _ _⟩
  | feedback _ thresholdLow creditValue gradient =>
      obtain ⟨nonneg, le⟩ := feedback_credit_step_bounds _ thresholdLow creditValue gradient
        alphaBounds bounds.feedbackNonneg
      exact ⟨nonneg, le, bounds.inflightNonneg, bounds.inflightLe⟩
  | adjust _ linkRate =>
      exact ⟨bounds.feedbackNonneg, bounds.feedbackLe, bounds.inflightNonneg, bounds.inflightLe⟩

theorem credit_bounds_of_reachable {linkRate : UInt64} {start : ℤ} {state : ℤ × PortCreditState}
    (alphaBounds : 0 ≤ settings.cpemCreditDecayAlpha ∧ settings.cpemCreditDecayAlpha ≤ 1)
    (reach : CreditReachable settings exp linkRate start state) : CreditBounds settings state.2 := by
  induction reach with
  | refl => exact credit_bounds_initial linkRate
  | tail _ step bounds => exact bounds.step alphaBounds step

theorem effective_credit_bounds {state : PortCreditState} (now : ℤ) (expNonneg : ∀ x, 0 ≤ exp x)
    (discountNonneg : 0 ≤ settings.cpemInflightDiscount) (bounds : CreditBounds settings state) :
    0 ≤ state.getEffectiveCredit settings exp now ∧
      state.getEffectiveCredit settings exp now ≤ settings.cpemMaxCredit.toNat := by
  have weight : 0 ≤ if (now : ℚ) - state.lastFeedbackTime >
      (settings.cpemFeedbackIntervalNs * 10).toNat then (2 / 10 : ℚ)
    else expNegQuotient exp ((now : ℚ) - state.lastFeedbackTime)
      (settings.cpemFeedbackIntervalNs.toNat * 3) := by
    unfold expNegQuotient
    split_ifs
    exacts [by norm_num, le_rfl, expNonneg _]
  refine ⟨le_min ?_ (Nat.cast_nonneg _), min_le_right _ _⟩
  exact add_nonneg (mul_nonneg weight bounds.feedbackNonneg)
    (mul_nonneg discountNonneg bounds.inflightNonneg)

theorem adjusted_rate_bounds {state : PortCreditState} (now : ℤ) (linkRate : UInt64)
    (expNonneg : ∀ x, 0 ≤ exp x) (discountNonneg : 0 ≤ settings.cpemInflightDiscount)
    (gainNonneg : 0 ≤ settings.cpemCreditToRateGain) (minRatioLe : settings.cpemMinRateRatio ≤ 1)
    (maxCreditPos : 0 < settings.cpemMaxCredit.toNat) (bounds : CreditBounds settings state) :
    ⌊settings.cpemMinRateRatio * linkRate.toNat⌋₊ ≤
        (state.getAdjustedRate settings exp now linkRate).toNat ∧
      (state.getAdjustedRate settings exp now linkRate).toNat ≤ linkRate.toNat := by
  obtain ⟨creditNonneg, creditLe⟩ := effective_credit_bounds now expNonneg discountNonneg bounds
  have maxPos : (0 : ℚ) < settings.cpemMaxCredit.toNat := by exact_mod_cast maxCreditPos
  have ratioNonneg : 0 ≤ state.getEffectiveCredit settings exp now / settings.cpemMaxCredit.toNat :=
    div_nonneg creditNonneg maxPos.le
  have rateRatioLe : max (1 - state.getEffectiveCredit settings exp now /
      settings.cpemMaxCredit.toNat * settings.cpemCreditToRateGain) settings.cpemMinRateRatio ≤ 1 :=
    max_le (sub_le_self _ (mul_nonneg ratioNonneg gainNonneg)) minRatioLe
  have rateLe : (linkRate.toNat : ℚ) * max (1 - state.getEffectiveCredit settings exp now /
      settings.cpemMaxCredit.toNat * settings.cpemCreditToRateGain) settings.cpemMinRateRatio ≤
      linkRate.toNat :=
    mul_le_of_le_one_right (Nat.cast_nonneg _) rateRatioLe
  have rateBelow : (linkRate.toNat : ℚ) < 2 ^ 64 := by exact_mod_cast linkRate.toBitVec.isLt
  simp only [PortCreditState.getAdjustedRate]
  rw [double_to_u64_toNat (lt_of_le_of_lt rateLe rateBelow)]
  constructor
  · rw [mul_comm]
    exact Nat.floor_le_floor (mul_le_mul_of_nonneg_left (le_max_right _ _) (Nat.cast_nonneg _))
  · exact (Nat.floor_le_floor rateLe).trans (Nat.floor_natCast _).le

/-- Every state of a port's CPEM run keeps both credits in `[0, max_credit]`, and the rate
`CpemGetAdjustedRate` returns for it at any time lies between `⌊min_rate_ratio · R⌋` and `R`.
The bounds are those of the rational reading: where the source divides 0 by 0 (`threshold_high = 0`
with no bytes in flight, or a zero feedback interval at age 0) it holds a NaN, which `minQuotient`
and `expNegQuotient` read as a finite value. -/
theorem credit_bounded {linkRate : UInt64} {start time : ℤ} {state : PortCreditState}
    (expNonneg : ∀ x, 0 ≤ exp x)
    (alphaBounds : 0 ≤ settings.cpemCreditDecayAlpha ∧ settings.cpemCreditDecayAlpha ≤ 1)
    (discountNonneg : 0 ≤ settings.cpemInflightDiscount)
    (gainNonneg : 0 ≤ settings.cpemCreditToRateGain)
    (minRatioBounds : 0 ≤ settings.cpemMinRateRatio ∧ settings.cpemMinRateRatio ≤ 1)
    (maxCreditPos : 0 < settings.cpemMaxCredit.toNat)
    (reach : CreditReachable settings exp linkRate start (time, state)) :
    CreditBounds settings state ∧
      ∀ (now : ℤ) (rate : UInt64),
        ⌊settings.cpemMinRateRatio * rate.toNat⌋₊ ≤ (state.getAdjustedRate settings exp now rate).toNat ∧
          (state.getAdjustedRate settings exp now rate).toNat ≤ rate.toNat := by
  have bounds : CreditBounds settings state := credit_bounds_of_reachable alphaBounds reach
  exact ⟨bounds, fun now rate => adjusted_rate_bounds now rate expNonneg discountNonneg gainNonneg
    minRatioBounds.2 maxCreditPos bounds⟩

end Bounds

def cpemOn : Settings := { Settings.defaults with cpemEnabled := true }

def sentAndHeard : PortCreditState :=
  ((PortCreditState.initial 100000000000).updateInflightOnSend cpemOn (fun _ => 1) 1000 200000
    1000).updateCreditOnFeedback cpemOn 2000 50000 500 3

theorem credit_bounded_after_feedback :
    (∀ x : ℚ, 0 ≤ (fun _ : ℚ => (1 : ℚ)) x) ∧
      (0 ≤ cpemOn.cpemCreditDecayAlpha ∧ cpemOn.cpemCreditDecayAlpha ≤ 1) ∧
      0 ≤ cpemOn.cpemInflightDiscount ∧ 0 ≤ cpemOn.cpemCreditToRateGain ∧
      (0 ≤ cpemOn.cpemMinRateRatio ∧ cpemOn.cpemMinRateRatio ≤ 1) ∧ 0 < cpemOn.cpemMaxCredit.toNat ∧
      CreditReachable cpemOn (fun _ => 1) 100000000000 0 (2000, sentAndHeard) ∧
      (CreditBounds cpemOn sentAndHeard ∧
        ∀ (now : ℤ) (rate : UInt64),
          ⌊cpemOn.cpemMinRateRatio * rate.toNat⌋₊ ≤
              (sentAndHeard.getAdjustedRate cpemOn (fun _ => 1) now rate).toNat ∧
            (sentAndHeard.getAdjustedRate cpemOn (fun _ => 1) now rate).toNat ≤ rate.toNat) := by
  have expNonneg : ∀ x : ℚ, 0 ≤ (fun _ : ℚ => (1 : ℚ)) x := fun _ => zero_le_one
  have alphaBounds : 0 ≤ cpemOn.cpemCreditDecayAlpha ∧ cpemOn.cpemCreditDecayAlpha ≤ 1 := by
    norm_num [cpemOn, Settings.defaults]
  have discountNonneg : 0 ≤ cpemOn.cpemInflightDiscount := by norm_num [cpemOn, Settings.defaults]
  have gainNonneg : 0 ≤ cpemOn.cpemCreditToRateGain := by norm_num [cpemOn, Settings.defaults]
  have minRatioBounds : 0 ≤ cpemOn.cpemMinRateRatio ∧ cpemOn.cpemMinRateRatio ≤ 1 := by
    norm_num [cpemOn, Settings.defaults]
  have maxCreditPos : 0 < cpemOn.cpemMaxCredit.toNat := by decide
  have reach : CreditReachable cpemOn (fun _ => 1) 100000000000 0 (2000, sentAndHeard) :=
    .tail (.tail .refl (.send (by norm_num) 200000 1000)) (.feedback (by norm_num) 50000 500 3)
  exact ⟨expNonneg, alphaBounds, discountNonneg, gainNonneg, minRatioBounds, maxCreditPos, reach,
    credit_bounded expNonneg alphaBounds discountNonneg gainNonneg minRatioBounds maxCreditPos reach⟩

def fixedCpem : Settings := { cpemOn with cpemUseDynamicThreshold := false }

/-- `CpemInitPort(1, 100 Gb/s)`, then 1000 bytes sent at 1 µs and a feedback at 2 µs. -/
def staleCreditSwitch (exp : ℚ → ℚ) : SwitchMmu :=
  ((((SwitchMmu.construct SwitchMmu.zeroSwitch).cpemInitPort fixedCpem 1 100000000000).cpemUpdateInflightOnSend
    fixedCpem exp 1000 1 1000).cpemUpdateCreditOnFeedback fixedCpem 2000 Statistics.zero 1 500 0 0).1

/-- The send sets `inflightCredit = 1000 · 1000 / (2 · 200000) = 2.5`; the feedback halves the
bytes in flight to 500 and leaves the credit at 2.5, where the bytes give 1.25. -/
theorem feedback_leaves_inflight_credit_stale (exp : ℚ → ℚ) :
    ((staleCreditSwitch exp).cpemState 1).inflightBytes = 500 ∧
      ((staleCreditSwitch exp).cpemState 1).inflightCredit = 5 / 2 ∧
      min (fixedCpem.cpemMaxCredit.toNat : ℚ)
          (((staleCreditSwitch exp).cpemState 1).inflightBytes.toNat * fixedCpem.cpemMaxCredit.toNat /
            (2 * ((staleCreditSwitch exp).cpemGetDynamicThresholds fixedCpem 1).2.toNat)) = 5 / 4 := by
  have init := SwitchMmu.cpem_init_port_state fixedCpem (SwitchMmu.construct SwitchMmu.zeroSwitch) 1
    rfl (by decide) 100000000000
  have sent := SwitchMmu.cpem_update_inflight_state fixedCpem exp 1000
    ((SwitchMmu.construct SwitchMmu.zeroSwitch).cpemInitPort fixedCpem 1 100000000000) 1
    (by rw [SwitchMmu.cpemActive, init]; rfl) 1000
  have heard := SwitchMmu.cpem_update_credit_state fixedCpem 2000
    (((SwitchMmu.construct SwitchMmu.zeroSwitch).cpemInitPort fixedCpem 1 100000000000).cpemUpdateInflightOnSend
      fixedCpem exp 1000 1 1000) 1
    (by rw [SwitchMmu.cpemActive, sent, PortCreditState.update_inflight_initialized, init]; rfl)
    Statistics.zero 500 0 0
  have high : ∀ m : SwitchMmu, (m.cpemGetDynamicThresholds fixedCpem 1).2 = 200000 := fun _ => rfl
  simp only [staleCreditSwitch, heard, sent, init, high]
  have bytesSent : (1000 : UInt64).toNat = 1000 := rfl
  have maxCredit : fixedCpem.cpemMaxCredit.toNat = 1000 := rfl
  have highBytes : (200000 : UInt32).toNat = 200000 := rfl
  have halved : doubleToUInt64 (((1000 : UInt64).toNat : ℚ) * (5 / 10)) = 500 := by
    have floor : ⌊((1000 : UInt64).toNat : ℚ) * (5 / 10)⌋₊ = 500 := by
      rw [bytesSent]
      norm_num [Nat.floor_eq_iff]
    rw [doubleToUInt64, floor]
    rfl
  have halvedBytes : (500 : UInt64).toNat = 500 := rfl
  refine ⟨halved, ?_, ?_⟩
  · change minQuotient (((1000 : UInt64).toNat : ℚ) * fixedCpem.cpemMaxCredit.toNat)
      (((200000 : UInt32).toNat : ℚ) * 2) fixedCpem.cpemMaxCredit.toNat = 5 / 2
    rw [bytesSent, maxCredit, highBytes, minQuotient]
    norm_num
  · change min (fixedCpem.cpemMaxCredit.toNat : ℚ)
      ((doubleToUInt64 (((1000 : UInt64).toNat : ℚ) * (5 / 10))).toNat * fixedCpem.cpemMaxCredit.toNat /
        (2 * ((200000 : UInt32).toNat : ℚ))) = 5 / 4
    rw [halved, halvedBytes, maxCredit, highBytes]
    norm_num

end ConWeaveSwitch
