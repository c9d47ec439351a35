import ConWeaveSwitch.Mmu.Accounting

/-!
# CPEM queue thresholds and credit values

`CpemGetDynamicThresholds` and `CpemCalculateCreditValue`, decimal constants read as the decimals
they spell. The PFC threshold the dynamic thresholds are fractions of turns negative once the
ingress pool runs into the headroom, and its `(uint32_t)` conversions are then undefined
behaviour (`negative_pfc_threshold`).
-/

namespace ConWeaveSwitch

set_option autoImplicit false

namespace SwitchMmu

def pfcThreshold (m : SwitchMmu) (port : Nat) : ℚ :=
  m.config.pgSharedAlphaCell *
      ((m.config.bufferCellLimitSp.toNat : ℚ) - (m.ingress.usedIngressSPBytes (getIngressSP port 0)).toNat) +
    m.config.pgMinCell.toNat + m.config.portMinCell.toNat

def cpemGetDynamicThresholds (settings : Settings) (m : SwitchMmu) (port : Nat) : UInt32 × UInt32 :=
  if settings.cpemUseDynamicThreshold && m.config.dynamicth then
    let low := doubleToUInt32 (m.pfcThreshold port * settings.cpemThresholdLowRatio)
    let high := doubleToUInt32 (m.pfcThreshold port * settings.cpemThresholdHighRatio)
    let low := max low (10 * mtu)
    (low, max high (low + 5 * mtu))
  else (settings.cpemQueueThresholdLow, settings.cpemQueueThresholdHigh)

def cpemCalculateCreditValue (settings : Settings) (queueLen : UInt32) (gradient : BitVec 16)
    (thresholdLow thresholdHigh : UInt32) : UInt16 :=
  let qRatio : ℚ :=
    if queueLen ≥ thresholdHigh then 1
    else if queueLen > thresholdLow then
      ((queueLen - thresholdLow).toNat : ℚ) / (thresholdHigh - thresholdLow).toNat
    else 0
  let gradientFactor : ℚ :=
    if gradient.toInt > 0 then 1 + minQuotient gradient.toInt thresholdLow.toNat 1 * (5 / 10)
    else if gradient.toInt < 0 then 1 - minQuotient (-gradient.toInt) thresholdLow.toNat 1 * (3 / 10)
    else 1
  min (doubleToUInt16 (qRatio * gradientFactor * settings.cpemMaxCredit.toNat))
    (UInt16.ofNat settings.cpemMaxCredit.toNat)

end SwitchMmu

def headroomSwitch : SwitchMmu :=
  (((SwitchMmu.construct SwitchMmu.zeroSwitch).configBufferSize 49384).setActivePortCnt 1).setPgHdrmLimit
    40000

/-- Seven 5000-byte packets from PG 3 of port 1, to ports 2, 3 and 4: each one past the first goes
to the PG headroom, and pool 0 ends 34000 bytes past its limit. -/
def headroomFilled : SwitchMmu :=
  ((((((headroomSwitch.initSwitch.admitPacket ⟨1, 2, 3, 5000⟩).admitPacket ⟨1, 2, 3, 5000⟩).admitPacket
    ⟨1, 2, 3, 5000⟩).admitPacket ⟨1, 2, 3, 5000⟩).admitPacket ⟨1, 3, 3, 5000⟩).admitPacket
    ⟨1, 3, 3, 5000⟩).admitPacket ⟨1, 4, 3, 5000⟩

/-- After that run the PFC threshold of port 1 is `1000/16 - 35000/16 + 2096 = -29`, so both
conversions of `CpemGetDynamicThresholds` under the default ratios, of `-14.5` and `-23.2`, are
undefined behaviour. -/
theorem negative_pfc_threshold :
    BufferReachable (fun _ => True) headroomSwitch
        (headroomFilled, [⟨1, 4, 3, 5000⟩, ⟨1, 3, 3, 5000⟩, ⟨1, 3, 3, 5000⟩, ⟨1, 2, 3, 5000⟩,
          ⟨1, 2, 3, 5000⟩, ⟨1, 2, 3, 5000⟩, ⟨1, 2, 3, 5000⟩]) ∧
      headroomFilled.pfcThreshold 1 = -29 ∧
      ¬castDefined (headroomFilled.pfcThreshold 1 * Settings.defaults.cpemThresholdLowRatio) ∧
      ¬castDefined (headroomFilled.pfcThreshold 1 * Settings.defaults.cpemThresholdHighRatio) := by
  have threshold : headroomFilled.pfcThreshold 1 = -29 := by
    have pool : (headroomFilled.ingress.usedIngressSPBytes (getIngressSP 1 0)).toNat = 35000 := by
      decide
    have limit : headroomFilled.config.bufferCellLimitSp.toNat = 1000 := by decide
    have guarantee : headroomFilled.config.pgMinCell.toNat = 1048 := by decide
    have portGuarantee : headroomFilled.config.portMinCell.toNat = 1048 := by decide
    have alpha : headroomFilled.config.pgSharedAlphaCell = 1 / 16 := rfl
    rw [SwitchMmu.pfcThreshold, pool, limit, guarantee, portGuarantee, alpha]
    norm_num
  refine ⟨?_, threshold, ?_, ?_⟩
  · exact .tail (.tail (.tail (.tail (.tail (.tail (.tail .refl
      (.enqueue (by decide) trivial ((SwitchMmu.admits_iff_of_alpha_one rfl).mpr (by decide))))
      (.enqueue (by decide) trivial ((SwitchMmu.admits_iff_of_alpha_one rfl).mpr (by decide))))
      (.enqueue (by decide) trivial ((SwitchMmu.admits_iff_of_alpha_one rfl).mpr (by decide))))
      (.enqueue (by decide) trivial ((SwitchMmu.admits_iff_of_alpha_one rfl).mpr (by decide))))
      (.enqueue (by decide) trivial ((SwitchMmu.admits_iff_of_alpha_one rfl).mpr (by decide))))
      (.enqueue (by decide) trivial ((SwitchMmu.admits_iff_of_alpha_one rfl).mpr (by decide))))
      (.enqueue (by decide) trivial ((SwitchMmu.admits_iff_of_alpha_one rfl).mpr (by decide)))
  · rw [threshold, castDefined]
    norm_num [Settings.defaults]
  · rw [threshold, castDefined]
    norm_num [Settings.defaults]

end ConWeaveSwitch
