import ConWeaveSwitch.Word

/-!
# Process-wide settings and statistics

The static tunables of `settings.h` the switch reads, with the defaults of `settings.cc`, and the
static counters every switch of a simulation shares, threaded through as one `Statistics`.
-/

namespace ConWeaveSwitch

set_option autoImplicit false

structure Settings where
  lbMode : UInt32
  cpemEnabled : Bool
  cpemFeedbackIntervalNs : UInt32
  cpemCreditDecayAlpha : ℚ
  cpemInflightDiscount : ℚ
  cpemCreditToRateGain : ℚ
  cpemMinRateRatio : ℚ
  cpemMaxCredit : UInt32
  cpemQueueThresholdLow : UInt32
  cpemQueueThresholdHigh : UInt32
  cpemUseDynamicThreshold : Bool
  cpemThresholdLowRatio : ℚ
  cpemThresholdHighRatio : ℚ

def Settings.defaults : Settings where
  lbMode := 0
  cpemEnabled := false
  cpemFeedbackIntervalNs := 10000
  cpemCreditDecayAlpha := 8 / 10
  cpemInflightDiscount := 4 / 10
  cpemCreditToRateGain := 8 / 10
  cpemMinRateRatio := 1 / 10
  cpemMaxCredit := 1000
  cpemQueueThresholdLow := 50000
  cpemQueueThresholdHigh := 200000
  cpemUseDynamicThreshold := true
  cpemThresholdLowRatio := 5 / 10
  cpemThresholdHighRatio := 8 / 10

def conweaveCtrlDummyIndev : Nat := 88888888

/-- The static counters: `Settings::dropped_pkt_sw_ingress`, `dropped_pkt_sw_egress` and
`SwitchMmu::m_cpemFeedbackSent`, `m_cpemFeedbackRecv`, `m_cpemRateAdjustments`. -/
structure Statistics where
  droppedPktSwIngress : UInt32
  droppedPktSwEgress : UInt32
  cpemFeedbackSent : UInt64
  cpemFeedbackRecv : UInt64
  cpemRateAdjustments : UInt64

def Statistics.zero : Statistics := ⟨0, 0, 0, 0, 0⟩

end ConWeaveSwitch
