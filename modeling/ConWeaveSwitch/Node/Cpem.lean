import ConWeaveSwitch.Cpem.Generator
import ConWeaveSwitch.Header.CreditFeedback
import ConWeaveSwitch.Node.Forwarding

/-!
# CPEM feedback between switches

`CpemPeriodicFeedbackCheck`, `CpemSendFeedback`, `CpemHandleFeedback` and `CpemInit`, with what a
node reads of its devices as the argument `Devices`. The tick gates on the fixed threshold, so it
follows `CpemGenerateFeedback`'s rule in fixed mode only (`tick_agrees_with_generate_of_fixed`,
`tick_records_below_dynamic_threshold`); over a network's runs the receive counter is twice the
packets handled (`feedback_counters_of_reachable`); `CpemInit` initializes exactly the live ports
from 1 (`cpem_init_cpem_state`).
-/

namespace ConWeaveSwitch

set_option autoImplicit false

/-- What the CPEM paths of a node read of its devices: `GetNDevices()`, the data rate of each
device that is a `QbbNetDevice` (`none` where `DynamicCast<QbbNetDevice>` fails) and whether its
link is up. -/
structure Devices where
  nDevices : Nat
  dataRate : Nat → Option UInt64
  linkUp : Nat → Bool

def Devices.live (devices : Devices) (port : Nat) : Bool :=
  (devices.dataRate port).isSome && devices.linkUp port

namespace SwitchMmu

def getIngressPortBytes (m : SwitchMmu) (port : Nat) : UInt32 :=
  if port < pCnt then m.ingress.usedIngressPortBytes port else 0

def setLastQueueLen (m : SwitchMmu) (port : Nat) (queueLen : UInt32) : SwitchMmu :=
  { m with cpemState :=
    Function.update m.cpemState port { m.cpemState port with lastQueueLen := queueLen } }

@[simp] theorem set_last_queue_len_config (m : SwitchMmu) (port : Nat) (queueLen : UInt32) :
    (m.setLastQueueLen port queueLen).config = m.config := rfl

@[simp] theorem set_last_queue_len_ingress (m : SwitchMmu) (port : Nat) (queueLen : UInt32) :
    (m.setLastQueueLen port queueLen).ingress = m.ingress := rfl

@[simp] theorem set_last_queue_len_last (m : SwitchMmu) (port : Nat) (queueLen : UInt32) :
    ((m.setLastQueueLen port queueLen).cpemState port).lastQueueLen = queueLen := by
  simp [setLastQueueLen]

theorem cpem_update_credit_sent (settings : Settings) (now : ℤ) (m : SwitchMmu) (stats : Statistics)
    (port : Nat) (creditValue : UInt16) (queueLen : UInt32) (gradient : BitVec 16) :
    (m.cpemUpdateCreditOnFeedback settings now stats port creditValue queueLen gradient).2.cpemFeedbackSent =
      stats.cpemFeedbackSent := by
  unfold cpemUpdateCreditOnFeedback
  split_ifs <;> rfl

theorem cpem_update_credit_recv {settings : Settings} {m : SwitchMmu} {port : Nat}
    (active : m.cpemActive settings port = true) (now : ℤ) (stats : Statistics)
    (creditValue : UInt16) (queueLen : UInt32) (gradient : BitVec 16) :
    (m.cpemUpdateCreditOnFeedback settings now stats port creditValue queueLen gradient).2.cpemFeedbackRecv =
      stats.cpemFeedbackRecv + 1 := by
  simp [cpemUpdateCreditOnFeedback, active]

theorem cpem_adjusted_rate_counters (settings : Settings) (exp : ℚ → ℚ) (now : ℤ) (m : SwitchMmu)
    (stats : Statistics) (port : Nat) (linkRate : UInt64) :
    (m.cpemGetAdjustedRate settings exp now stats port linkRate).2.1.cpemFeedbackSent =
        stats.cpemFeedbackSent ∧
      (m.cpemGetAdjustedRate settings exp now stats port linkRate).2.1.cpemFeedbackRecv =
        stats.cpemFeedbackRecv := by
  unfold cpemGetAdjustedRate
  dsimp only
  split_ifs <;> exact ⟨rfl, rfl⟩

end SwitchMmu

namespace SwitchNode

/-- `CpemSendFeedback(inPort, outPort)`, with the static counter `m_cpemFeedbackSent`: read the
ingress queue of `inPort`, record it as `lastQueueLen`, take the gradient against the last
observation and the credit at the thresholds `CpemGetDynamicThresholds` returns, and when the
credit is not zero send a `CreditFeedbackHeader` on `outPort` at queue 0 (the returned header). -/
def cpemSendFeedback (settings : Settings) (devices : Devices) (node : SwitchNode)
    (stats : Statistics) (inPort outPort : Nat) :
    SwitchNode × Statistics × Option CreditFeedbackHeader :=
  if settings.cpemEnabled = false then (node, stats, none)
  else if pCnt ≤ inPort ∨ devices.nDevices ≤ outPort then (node, stats, none)
  else if devices.live outPort = false then (node, stats, none)
  else
    let queueLen := node.mmu.getIngressPortBytes inPort
    let gradient := queueGradient queueLen (node.mmu.cpemState inPort).lastQueueLen
    let mmu := node.mmu.setLastQueueLen inPort queueLen
    let thresholds := mmu.cpemGetDynamicThresholds settings inPort
    let creditValue := SwitchMmu.cpemCalculateCreditValue settings queueLen gradient thresholds.1 thresholds.2
    if creditValue = 0 then ({ node with mmu := mmu }, stats, none)
    else ({ node with mmu := mmu }, { stats with cpemFeedbackSent := stats.cpemFeedbackSent + 1 },
      some ⟨queueLen, gradient, creditValue, UInt8.ofNat inPort⟩)

def cpemPeriodicFeedbackCheck (settings : Settings) (devices : Devices) (node : SwitchNode)
    (stats : Statistics) (port : Nat) : SwitchNode × Statistics × Option CreditFeedbackHeader :=
  if settings.cpemEnabled = false ∨ devices.nDevices ≤ port ∨ devices.live port = false then
    (node, stats, none)
  else if node.mmu.getIngressPortBytes port ≥ settings.cpemQueueThresholdLow then
    node.cpemSendFeedback settings devices stats port port
  else (node, stats, none)

/-- `CpemHandleFeedback(p, ch)` at time `now` for a feedback packet carrying `header` whose
`FlowIdTag` names `inPort` (`none` when it has none): update the credit of `inPort`, set the
device's rate to the adjusted one (returned), and count the packet in `m_cpemFeedbackRecv`. -/
def cpemHandleFeedback (settings : Settings) (exp : ℚ → ℚ) (now : ℤ) (devices : Devices)
    (node : SwitchNode) (stats : Statistics) (inPort : Option Nat) (header : CreditFeedbackHeader) :
    SwitchNode × Statistics × Option UInt64 :=
  match settings.cpemEnabled, inPort with
  | true, some inPort =>
    let updated := node.mmu.cpemUpdateCreditOnFeedback settings now stats inPort header.creditValue
      header.queueLen header.gradient
    let adjusted : SwitchMmu × Statistics × Option UInt64 :=
      match devices.dataRate inPort with
      | some linkRate =>
        let result := updated.1.cpemGetAdjustedRate settings exp now updated.2 inPort linkRate
        (result.1, result.2.1, some result.2.2)
      | none => (updated.1, updated.2, none)
    ({ node with mmu := adjusted.1 },
      { adjusted.2.1 with cpemFeedbackRecv := adjusted.2.1.cpemFeedbackRecv + 1 }, adjusted.2.2)
  | _, _ => (node, stats, none)

def cpemInitDevice (settings : Settings) (devices : Devices) (mmu : SwitchMmu) (i : Nat) : SwitchMmu :=
  match devices.dataRate i with
  | some rate => if devices.linkUp i then mmu.cpemInitPort settings i rate else mmu
  | none => mmu

/-- `CpemInit()`: with CPEM on, the loop over the devices from 1. The ticks
`CpemStartFeedbackGeneration` schedules then are separate events. -/
def cpemInit (settings : Settings) (devices : Devices) (node : SwitchNode) : SwitchNode :=
  if settings.cpemEnabled = false then node
  else { node with mmu :=
    (List.range' 1 (devices.nDevices - 1)).foldl (cpemInitDevice settings devices) node.mmu }

variable {settings : Settings} {devices : Devices} {node : SwitchNode} {stats : Statistics}
  {port : Nat}

theorem cpem_periodic_feedback_check_live (enabled : settings.cpemEnabled = true)
    (inRange : port < pCnt) (present : port < devices.nDevices) (live : devices.live port = true) :
    node.cpemPeriodicFeedbackCheck settings devices stats port =
      if settings.cpemQueueThresholdLow ≤ node.mmu.ingress.usedIngressPortBytes port then
        let queueLen := node.mmu.ingress.usedIngressPortBytes port
        let gradient := queueGradient queueLen (node.mmu.cpemState port).lastQueueLen
        let mmu := node.mmu.setLastQueueLen port queueLen
        let thresholds := node.mmu.cpemGetDynamicThresholds settings port
        let creditValue :=
          SwitchMmu.cpemCalculateCreditValue settings queueLen gradient thresholds.1 thresholds.2
        if creditValue = 0 then ({ node with mmu := mmu }, stats, none)
        else ({ node with mmu := mmu }, { stats with cpemFeedbackSent := stats.cpemFeedbackSent + 1 },
          some ⟨queueLen, gradient, creditValue, UInt8.ofNat port⟩)
      else (node, stats, none) := by
  have guards : ¬(settings.cpemEnabled = false ∨ devices.nDevices ≤ port ∨ devices.live port = false) := by
    simp [enabled, present, live]
  have sendGuards : ¬(pCnt ≤ port ∨ devices.nDevices ≤ port) := by omega
  have queue : node.mmu.getIngressPortBytes port = node.mmu.ingress.usedIngressPortBytes port :=
    if_pos inRange
  rw [cpemPeriodicFeedbackCheck, if_neg guards, queue]
  split_ifs with reached
  · rw [cpemSendFeedback, if_neg (by simp [enabled]), if_neg sendGuards, if_neg (by simp [live]),
      queue]
    rfl
  · rfl

theorem cpem_periodic_feedback_check_last_queue_len (enabled : settings.cpemEnabled = true)
    (inRange : port < pCnt) (present : port < devices.nDevices) (live : devices.live port = true) :
    ((node.cpemPeriodicFeedbackCheck settings devices stats port).1.mmu.cpemState port).lastQueueLen =
      if settings.cpemQueueThresholdLow ≤ node.mmu.ingress.usedIngressPortBytes port
      then node.mmu.ingress.usedIngressPortBytes port
      else (node.mmu.cpemState port).lastQueueLen := by
  rw [cpem_periodic_feedback_check_live enabled inRange present live]
  dsimp only
  split_ifs <;> simp

theorem cpem_periodic_feedback_check_sends (enabled : settings.cpemEnabled = true)
    (inRange : port < pCnt) (present : port < devices.nDevices) (live : devices.live port = true) :
    (node.cpemPeriodicFeedbackCheck settings devices stats port).2.2.isSome = true ↔
      settings.cpemQueueThresholdLow ≤ node.mmu.ingress.usedIngressPortBytes port ∧
        SwitchMmu.cpemCalculateCreditValue settings (node.mmu.ingress.usedIngressPortBytes port)
          (queueGradient (node.mmu.ingress.usedIngressPortBytes port)
            (node.mmu.cpemState port).lastQueueLen)
          (node.mmu.cpemGetDynamicThresholds settings port).1
          (node.mmu.cpemGetDynamicThresholds settings port).2 ≠ 0 := by
  rw [cpem_periodic_feedback_check_live enabled inRange present live]
  dsimp only
  split_ifs <;> simp_all

/-- In fixed-threshold mode a tick on a live port follows the rule of `CpemGenerateFeedback`: it
records the queue exactly when the rule does, and sends feedback exactly when the queue reaches
`threshold_low` and the credit is not zero. -/
theorem tick_agrees_with_generate_of_fixed (enabled : settings.cpemEnabled = true)
    (fixed : (settings.cpemUseDynamicThreshold && node.mmu.config.dynamicth) = false)
    (inRange : port < pCnt) (present : port < devices.nDevices) (live : devices.live port = true) :
    ((node.cpemPeriodicFeedbackCheck settings devices stats port).1.mmu.cpemState port).lastQueueLen =
        ((node.mmu.cpemGenerateFeedback settings stats port).1.cpemState port).lastQueueLen ∧
      ((node.cpemPeriodicFeedbackCheck settings devices stats port).2.2.isSome = true ↔
        (node.mmu.cpemGetDynamicThresholds settings port).1 ≤
            node.mmu.ingress.usedIngressPortBytes port ∧
          SwitchMmu.cpemCalculateCreditValue settings (node.mmu.ingress.usedIngressPortBytes port)
            (queueGradient (node.mmu.ingress.usedIngressPortBytes port)
              (node.mmu.cpemState port).lastQueueLen)
            (node.mmu.cpemGetDynamicThresholds settings port).1
            (node.mmu.cpemGetDynamicThresholds settings port).2 ≠ 0) := by
  have thresholds : node.mmu.cpemGetDynamicThresholds settings port =
      (settings.cpemQueueThresholdLow, settings.cpemQueueThresholdHigh) := by
    rw [SwitchMmu.cpemGetDynamicThresholds, if_neg (by simp [fixed])]
  rw [SwitchMmu.cpem_generate_feedback_last_queue_len enabled inRange,
    cpem_periodic_feedback_check_last_queue_len enabled inRange present live,
    cpem_periodic_feedback_check_sends enabled inRange present live, thresholds]
  exact ⟨rfl, Iff.rfl⟩

private theorem sent_toNat_add_zero (stats : Statistics) :
    stats.cpemFeedbackSent.toNat = (stats.cpemFeedbackSent.toNat + 0) % 2 ^ 64 := by
  have bound : stats.cpemFeedbackSent.toNat < 2 ^ 64 := stats.cpemFeedbackSent.toNat_lt_size
  omega

theorem cpem_send_feedback_counters (settings : Settings) (devices : Devices) (node : SwitchNode)
    (stats : Statistics) (inPort outPort : Nat) :
    (node.cpemSendFeedback settings devices stats inPort outPort).2.1.cpemFeedbackSent.toNat =
        (stats.cpemFeedbackSent.toNat +
          (node.cpemSendFeedback settings devices stats inPort outPort).2.2.toList.length) % 2 ^ 64 ∧
      (node.cpemSendFeedback settings devices stats inPort outPort).2.1.cpemFeedbackRecv =
        stats.cpemFeedbackRecv := by
  unfold cpemSendFeedback
  dsimp only
  split_ifs
  all_goals first | exact ⟨sent_toNat_add_zero stats, rfl⟩ | exact ⟨u64_toNat_add _ 1, rfl⟩

theorem cpem_periodic_feedback_check_counters (settings : Settings) (devices : Devices)
    (node : SwitchNode) (stats : Statistics) (port : Nat) :
    (node.cpemPeriodicFeedbackCheck settings devices stats port).2.1.cpemFeedbackSent.toNat =
        (stats.cpemFeedbackSent.toNat +
          (node.cpemPeriodicFeedbackCheck settings devices stats port).2.2.toList.length) % 2 ^ 64 ∧
      (node.cpemPeriodicFeedbackCheck settings devices stats port).2.1.cpemFeedbackRecv =
        stats.cpemFeedbackRecv := by
  unfold cpemPeriodicFeedbackCheck
  split_ifs
  · exact ⟨sent_toNat_add_zero stats, rfl⟩
  · exact cpem_send_feedback_counters settings devices node stats port port
  · exact ⟨sent_toNat_add_zero stats, rfl⟩

theorem cpem_handle_feedback_counters {settings : Settings} {node : SwitchNode} {inPort : Nat}
    (active : node.mmu.cpemActive settings inPort = true) (exp : ℚ → ℚ) (now : ℤ)
    (devices : Devices) (stats : Statistics) (header : CreditFeedbackHeader) :
    (node.cpemHandleFeedback settings exp now devices stats (some inPort) header).2.1.cpemFeedbackSent =
        stats.cpemFeedbackSent ∧
      (node.cpemHandleFeedback settings exp now devices stats (some inPort) header).2.1.cpemFeedbackRecv =
        stats.cpemFeedbackRecv + 1 + 1 := by
  have enabled : settings.cpemEnabled = true := by
    simp only [SwitchMmu.cpemActive, Bool.and_eq_true] at active
    exact active.1.1
  have sent := SwitchMmu.cpem_update_credit_sent settings now node.mmu stats inPort header.creditValue
    header.queueLen header.gradient
  have recv := SwitchMmu.cpem_update_credit_recv active now stats header.creditValue
    header.queueLen header.gradient
  unfold cpemHandleFeedback
  rw [enabled]
  dsimp only
  split
  · obtain ⟨sent', recv'⟩ := SwitchMmu.cpem_adjusted_rate_counters settings exp now _ _ inPort _
    exact ⟨sent'.trans sent, by rw [recv', recv]⟩
  · exact ⟨sent, by rw [recv]⟩

theorem cpem_init_port_cpem_state (m : SwitchMmu) (i port : Nat) (rate : UInt64) :
    (m.cpemInitPort settings i rate).cpemState port =
      if port = i ∧ settings.cpemEnabled = true ∧ port < pCnt then PortCreditState.initial rate
      else m.cpemState port := by
  unfold SwitchMmu.cpemInitPort
  by_cases same : port = i
  · subst same
    by_cases enabled : settings.cpemEnabled <;> by_cases inside : port < pCnt <;> simp [enabled, inside]
  · split <;> simp [same]

theorem cpem_init_device_state (mmu : SwitchMmu) (i port : Nat) :
    (cpemInitDevice settings devices mmu i).cpemState port =
      if port = i ∧ settings.cpemEnabled = true ∧ port < pCnt ∧ devices.linkUp port = true then
        ((devices.dataRate port).map PortCreditState.initial).getD (mmu.cpemState port)
      else mmu.cpemState port := by
  unfold cpemInitDevice
  by_cases same : port = i
  · subst same
    cases rate : devices.dataRate port <;> by_cases up : devices.linkUp port <;>
      simp [cpem_init_port_cpem_state, up]
  · rw [if_neg fun both => same both.1]
    split <;> (try split) <;> simp [cpem_init_port_cpem_state, same]

theorem foldl_cpem_init_device_state (ports : List Nat) (mmu : SwitchMmu) (port : Nat) :
    (ports.foldl (cpemInitDevice settings devices) mmu).cpemState port =
      if port ∈ ports ∧ settings.cpemEnabled = true ∧ port < pCnt ∧ devices.linkUp port = true then
        ((devices.dataRate port).map PortCreditState.initial).getD (mmu.cpemState port)
      else mmu.cpemState port := by
  induction ports generalizing mmu with
  | nil => simp
  | cons i rest ih =>
    rw [List.foldl_cons, ih, cpem_init_device_state]
    by_cases live : settings.cpemEnabled = true ∧ port < pCnt ∧ devices.linkUp port = true
    · by_cases same : port = i
      · subst same
        cases devices.dataRate port <;> simp [live]
      · simp [live, same]
    · simp [live]

/-- After `CpemInit`, every port from 1 below both the device count and `pCnt` whose device is a
`QbbNetDevice` with its link up holds the initial CPEM state at its link rate; every other port,
port 0 among them, keeps its state. -/
theorem cpem_init_cpem_state (node : SwitchNode) (port : Nat) :
    (node.cpemInit settings devices).mmu.cpemState port =
      if settings.cpemEnabled = true ∧ 1 ≤ port ∧ port < devices.nDevices ∧ port < pCnt ∧
          devices.linkUp port = true then
        ((devices.dataRate port).map PortCreditState.initial).getD (node.mmu.cpemState port)
      else node.mmu.cpemState port := by
  unfold cpemInit
  split
  · rename_i disabled
    rw [if_neg fun live => Bool.noConfusion (disabled.symm.trans live.1)]
  · rename_i enabled
    have listed : port ∈ List.range' 1 (devices.nDevices - 1) ↔ 1 ≤ port ∧ port < devices.nDevices := by
      rw [List.mem_range'_1]
      omega
    rw [foldl_cpem_init_device_state]
    simp only [listed, Bool.not_eq_false] at enabled ⊢
    simp only [enabled, true_and, and_assoc]

end SwitchNode

def twoPorts : Devices := ⟨2, fun _ => some 100000000000, fun _ => true⟩

def queuedNode : SwitchNode :=
  let node := SwitchNode.construct 0 SwitchMmu.zeroSwitch
  { node with mmu :=
    { node.mmu with ingress := { node.mmu.ingress with usedIngressPortBytes := fun _ => 60000 } } }

theorem queued_tick_agrees_of_fixed :
    fixedCpem.cpemEnabled = true ∧
      (fixedCpem.cpemUseDynamicThreshold && queuedNode.mmu.config.dynamicth) = false ∧
      1 < pCnt ∧ 1 < twoPorts.nDevices ∧ twoPorts.live 1 = true ∧
      (((queuedNode.cpemPeriodicFeedbackCheck fixedCpem twoPorts Statistics.zero 1).1.mmu.cpemState
            1).lastQueueLen =
          ((queuedNode.mmu.cpemGenerateFeedback fixedCpem Statistics.zero 1).1.cpemState 1).lastQueueLen ∧
        ((queuedNode.cpemPeriodicFeedbackCheck fixedCpem twoPorts Statistics.zero 1).2.2.isSome = true ↔
          (queuedNode.mmu.cpemGetDynamicThresholds fixedCpem 1).1 ≤
              queuedNode.mmu.ingress.usedIngressPortBytes 1 ∧
            SwitchMmu.cpemCalculateCreditValue fixedCpem (queuedNode.mmu.ingress.usedIngressPortBytes 1)
              (queueGradient (queuedNode.mmu.ingress.usedIngressPortBytes 1)
                (queuedNode.mmu.cpemState 1).lastQueueLen)
              (queuedNode.mmu.cpemGetDynamicThresholds fixedCpem 1).1
              (queuedNode.mmu.cpemGetDynamicThresholds fixedCpem 1).2 ≠ 0)) :=
  ⟨rfl, rfl, by decide, by decide, rfl,
    SwitchNode.tick_agrees_with_generate_of_fixed rfl rfl (by decide) (by decide) rfl⟩

theorem queued_node_thresholds :
    queuedNode.mmu.cpemGetDynamicThresholds cpemOn 1 = (133055, 212888) := by
  have threshold : queuedNode.mmu.pfcThreshold 1 = 266111 := by
    have pool : (queuedNode.mmu.ingress.usedIngressSPBytes (getIngressSP 1 0)).toNat = 0 := by
      decide
    have limit : queuedNode.mmu.config.bufferCellLimitSp.toNat = 4224240 := by decide
    have guarantee : queuedNode.mmu.config.pgMinCell.toNat = 1048 := by decide
    have portGuarantee : queuedNode.mmu.config.portMinCell.toNat = 1048 := by decide
    have alpha : queuedNode.mmu.config.pgSharedAlphaCell = 1 / 16 := rfl
    rw [SwitchMmu.pfcThreshold, pool, limit, guarantee, portGuarantee, alpha]
    norm_num
  have low : ⌊(266111 : ℚ) * cpemOn.cpemThresholdLowRatio⌋₊ = 133055 := by
    norm_num [cpemOn, Settings.defaults, Nat.floor_eq_iff]
  have high : ⌊(266111 : ℚ) * cpemOn.cpemThresholdHighRatio⌋₊ = 212888 := by
    norm_num [cpemOn, Settings.defaults, Nat.floor_eq_iff]
  have dynamic : (cpemOn.cpemUseDynamicThreshold && queuedNode.mmu.config.dynamicth) = true := rfl
  rw [SwitchMmu.cpemGetDynamicThresholds, if_pos dynamic, threshold, doubleToUInt32, doubleToUInt32,
    low, high]
  decide

/-- In dynamic mode a tick of port 1 of `queuedNode` records the 60000 bytes as `lastQueueLen`,
since they reach the fixed threshold of 50000, while `CpemGenerateFeedback` leaves it at 0, since
they are below the `threshold_low` of 133055 that `CpemGetDynamicThresholds` returns. -/
theorem tick_records_below_dynamic_threshold :
    (queuedNode.mmu.cpemGetDynamicThresholds cpemOn 1).1 = 133055 ∧
      queuedNode.mmu.ingress.usedIngressPortBytes 1 = 60000 ∧
      ((queuedNode.cpemPeriodicFeedbackCheck cpemOn twoPorts Statistics.zero 1).1.mmu.cpemState 1).lastQueueLen =
        60000 ∧
      ((queuedNode.mmu.cpemGenerateFeedback cpemOn Statistics.zero 1).1.cpemState 1).lastQueueLen = 0 := by
  have live : twoPorts.live 1 = true := rfl
  have low : (queuedNode.mmu.cpemGetDynamicThresholds cpemOn 1).1 = 133055 := by
    rw [queued_node_thresholds]
  refine ⟨low, rfl, ?_, ?_⟩
  · rw [SwitchNode.cpem_periodic_feedback_check_last_queue_len rfl (by decide) (by decide) live]
    exact if_pos (by decide)
  · rw [SwitchMmu.cpem_generate_feedback_last_queue_len rfl (by decide), low]
    exact (if_neg (by decide)).trans rfl

/-! ## A network of switches -/

/-- Switches with CPEM sharing the static counters, the feedback headers on the wire, and how
many feedback packets the run has sent and handled. -/
structure FeedbackNetwork where
  nodes : Nat → SwitchNode
  stats : Statistics
  wire : List CreditFeedbackHeader
  emitted : Nat
  handled : Nat

namespace FeedbackNetwork

def start (nodes : Nat → SwitchNode) (stats : Statistics) : FeedbackNetwork :=
  ⟨nodes, { stats with cpemFeedbackSent := 0, cpemFeedbackRecv := 0 }, [], 0, 0⟩

def tick (settings : Settings) (devices : Nat → Devices) (net : FeedbackNetwork) (i port : Nat) :
    FeedbackNetwork :=
  let result := (net.nodes i).cpemPeriodicFeedbackCheck settings (devices i) net.stats port
  { nodes := Function.update net.nodes i result.1
    stats := result.2.1
    wire := net.wire ++ result.2.2.toList
    emitted := net.emitted + result.2.2.toList.length
    handled := net.handled }

def deliver (settings : Settings) (exp : ℚ → ℚ) (now : ℤ) (devices : Nat → Devices)
    (net : FeedbackNetwork) (j inPort : Nat) (header : CreditFeedbackHeader) : FeedbackNetwork :=
  let result := (net.nodes j).cpemHandleFeedback settings exp now (devices j) net.stats (some inPort)
    header
  { nodes := Function.update net.nodes j result.1
    stats := result.2.1
    wire := net.wire.erase header
    emitted := net.emitted
    handled := net.handled + 1 }

def initPort (settings : Settings) (net : FeedbackNetwork) (i port : Nat) (linkRate : UInt64) :
    FeedbackNetwork :=
  { net with nodes := (Function.update net.nodes i
      { (net.nodes i) with mmu := (net.nodes i).mmu.cpemInitPort settings port linkRate }) }

end FeedbackNetwork

/-- One event of the network: a tick, the delivery of a feedback packet on the wire to an
initialized port, `CpemInitPort` on a switch, or an event of a switch's data path. -/
inductive FeedbackStep (settings : Settings) (exp : ℚ → ℚ) (devices : Nat → Devices) :
    FeedbackNetwork → FeedbackNetwork → Prop
  | tick (net : FeedbackNetwork) (i port : Nat) :
      FeedbackStep settings exp devices net (net.tick settings devices i port)
  | deliver (net : FeedbackNetwork) (j inPort : Nat) (now : ℤ) {header : CreditFeedbackHeader}
      (onWire : header ∈ net.wire) (initialized : (net.nodes j).mmu.cpemActive settings inPort = true) :
      FeedbackStep settings exp devices net (net.deliver settings exp now devices j inPort header)
  | initPort (net : FeedbackNetwork) (i port : Nat) (linkRate : UInt64) :
      FeedbackStep settings exp devices net (net.initPort settings i port linkRate)
  | data (net : FeedbackNetwork) (i : Nat) {s : PfcNode} {stats : Statistics}
      (step : PfcStep settings exp (⟨net.nodes i, []⟩, net.stats) (s, stats)) :
      FeedbackStep settings exp devices net { net with nodes := Function.update net.nodes i s.node, stats := stats }

def FeedbackReachable (settings : Settings) (exp : ℚ → ℚ) (devices : Nat → Devices)
    (start : FeedbackNetwork) : FeedbackNetwork → Prop :=
  Relation.ReflTransGen (FeedbackStep settings exp devices) start

theorem pfc_step_feedback_counters {settings : Settings} {exp : ℚ → ℚ}
    {before after : PfcNode × Statistics} (step : PfcStep settings exp before after) :
    after.2.cpemFeedbackSent = before.2.cpemFeedbackSent ∧
      after.2.cpemFeedbackRecv = before.2.cpemFeedbackRecv := by
  cases step with
  | send now inDev outDev qIndex size sent =>
    rcases (PfcNode.do_switch_send_cases sent).2 with ⟨-, rfl⟩ | ⟨-, -, rfl⟩ | ⟨-, -, -, rfl⟩ |
      ⟨-, -, -, _, -, rfl⟩ <;> exact ⟨rfl, rfl⟩
  | dequeue => exact ⟨rfl, rfl⟩
  | resumeTimer => exact ⟨rfl, rfl⟩

/-- `m_cpemFeedbackSent` counts the feedback packets sent and `m_cpemFeedbackRecv` two per packet
handled, modulo `2^64`; every packet sent has been handled or is on the wire. -/
structure FeedbackCounts (net : FeedbackNetwork) : Prop where
  sent : net.stats.cpemFeedbackSent.toNat = net.emitted % 2 ^ 64
  recv : net.stats.cpemFeedbackRecv.toNat = 2 * net.handled % 2 ^ 64
  inFlight : net.emitted = net.handled + net.wire.length

namespace FeedbackCounts

variable {settings : Settings} {exp : ℚ → ℚ} {devices : Nat → Devices}

theorem start (nodes : Nat → SwitchNode) (stats : Statistics) :
    FeedbackCounts (FeedbackNetwork.start nodes stats) := ⟨rfl, rfl, rfl⟩

theorem step {net next : FeedbackNetwork} (counts : FeedbackCounts net)
    (step : FeedbackStep settings exp devices net next) : FeedbackCounts next := by
  have sentBefore := counts.sent
  have recvBefore := counts.recv
  have inFlight := counts.inFlight
  cases step with
  | tick i port =>
    obtain ⟨sent, recv⟩ := SwitchNode.cpem_periodic_feedback_check_counters settings (devices i)
      (net.nodes i) net.stats port
    refine ⟨?_, ?_, ?_⟩
    · simp only [FeedbackNetwork.tick, sent, sentBefore]
      omega
    · simp only [FeedbackNetwork.tick, recv, recvBefore]
    · simp only [FeedbackNetwork.tick, List.length_append]
      omega
  | @deliver j inPort now header onWire initialized =>
    obtain ⟨sent, recv⟩ := SwitchNode.cpem_handle_feedback_counters initialized exp now (devices j)
      net.stats header
    have one : (1 : UInt64).toNat = 1 := rfl
    refine ⟨?_, ?_, ?_⟩
    · simp only [FeedbackNetwork.deliver, sent, sentBefore]
    · simp only [FeedbackNetwork.deliver, recv, u64_toNat_add, one, recvBefore]
      omega
    · have shorter := List.length_erase_of_mem onWire
      have nonempty := List.length_pos_of_mem onWire
      simp only [FeedbackNetwork.deliver, shorter]
      omega
  | initPort => exact ⟨sentBefore, recvBefore, inFlight⟩
  | data i step =>
    obtain ⟨sent, recv⟩ := pfc_step_feedback_counters step
    exact ⟨(congrArg UInt64.toNat sent).trans sentBefore, (congrArg UInt64.toNat recv).trans recvBefore,
      inFlight⟩

end FeedbackCounts

theorem FeedbackCounts.reachable {settings : Settings} {exp : ℚ → ℚ} {devices : Nat → Devices}
    {nodes : Nat → SwitchNode} {stats : Statistics} {net : FeedbackNetwork}
    (reach : FeedbackReachable settings exp devices (FeedbackNetwork.start nodes stats) net) :
    FeedbackCounts net := by
  induction reach with
  | refl => exact FeedbackCounts.start nodes stats
  | tail _ step counts => exact counts.step step

/-- In every run of a network of switches from the start, `m_cpemFeedbackSent` is the number of
feedback packets sent and `m_cpemFeedbackRecv` twice the number handled, modulo `2^64`; once the
wire is empty the receive counter is twice the send counter. -/
theorem feedback_counters_of_reachable {settings : Settings} {exp : ℚ → ℚ}
    {devices : Nat → Devices} {nodes : Nat → SwitchNode} {stats : Statistics}
    {net : FeedbackNetwork}
    (reach : FeedbackReachable settings exp devices (FeedbackNetwork.start nodes stats) net) :
    FeedbackCounts net ∧ (net.wire = [] → net.stats.cpemFeedbackRecv = 2 * net.stats.cpemFeedbackSent) := by
  have counts := FeedbackCounts.reachable reach
  refine ⟨counts, fun quiet => ?_⟩
  have inFlight := counts.inFlight
  rw [quiet, List.length_nil, Nat.add_zero] at inFlight
  apply UInt64.toNat.inj
  have product : (2 * net.stats.cpemFeedbackSent).toNat = 2 * net.stats.cpemFeedbackSent.toNat % 2 ^ 64 :=
    BitVec.toNat_mul _ _
  rw [product, counts.recv, counts.sent, inFlight]
  omega

def congestedNode : SwitchNode :=
  let node := SwitchNode.construct 0 SwitchMmu.zeroSwitch
  let queued : SwitchMmu :=
    { node.mmu with ingress := { node.mmu.ingress with usedIngressPortBytes := fun _ => 250000 } }
  { node with mmu := queued.setLastQueueLen 1 250000 }

theorem congested_tick_sends (stats : Statistics) :
    (congestedNode.cpemPeriodicFeedbackCheck fixedCpem twoPorts stats 1).2.2 =
      some ⟨250000, 0, 1000, 1⟩ := by
  have full : SwitchMmu.creditQueueRatio 250000 fixedCpem.cpemQueueThresholdLow
      fixedCpem.cpemQueueThresholdHigh = 1 := if_pos (by decide)
  have steady : SwitchMmu.creditGradientFactor (queueGradient 250000 250000)
      fixedCpem.cpemQueueThresholdLow = 1 := by
    rw [SwitchMmu.creditGradientFactor, if_neg (by decide), if_neg (by decide)]
  have maxCredit : fixedCpem.cpemMaxCredit.toNat = 1000 := rfl
  have credit : SwitchMmu.cpemCalculateCreditValue fixedCpem 250000 (queueGradient 250000 250000)
      fixedCpem.cpemQueueThresholdLow fixedCpem.cpemQueueThresholdHigh = 1000 := by
    rw [SwitchMmu.cpem_calculate_credit_value_eq, full, steady, maxCredit, doubleToUInt16]
    norm_num
    rfl
  have live : twoPorts.live 1 = true := rfl
  rw [SwitchNode.cpem_periodic_feedback_check_live rfl (by decide) (by decide) live, if_pos (by decide)]
  have queue : congestedNode.mmu.ingress.usedIngressPortBytes 1 = 250000 := rfl
  have last : (congestedNode.mmu.cpemState 1).lastQueueLen = 250000 := rfl
  have thresholds : congestedNode.mmu.cpemGetDynamicThresholds fixedCpem 1 =
      (fixedCpem.cpemQueueThresholdLow, fixedCpem.cpemQueueThresholdHigh) := rfl
  dsimp only
  simp only [queue, last, thresholds, credit]
  rfl

def pairRun (exp : ℚ → ℚ) : FeedbackNetwork :=
  (((FeedbackNetwork.start (fun _ => congestedNode) Statistics.zero).initPort fixedCpem 1 1
    100000000000).tick fixedCpem (fun _ => twoPorts) 0 1).deliver fixedCpem exp 0 (fun _ => twoPorts) 1 1
    ⟨250000, 0, 1000, 1⟩

theorem pair_run_reachable (exp : ℚ → ℚ) :
    FeedbackReachable fixedCpem exp (fun _ => twoPorts)
      (FeedbackNetwork.start (fun _ => congestedNode) Statistics.zero) (pairRun exp) := by
  have sends := congested_tick_sends Statistics.zero
  refine .tail (.tail (.tail .refl (.initPort _ 1 1 100000000000)) (.tick _ 0 1))
    (.deliver _ 1 1 0 ?_ ?_)
  · show _ ∈ [] ++ (congestedNode.cpemPeriodicFeedbackCheck fixedCpem twoPorts Statistics.zero 1).2.2.toList
    rw [sends]
    exact List.mem_singleton_self _
  · have init := SwitchMmu.cpem_init_port_state fixedCpem congestedNode.mmu 1 rfl (by decide) 100000000000
    simp only [FeedbackNetwork.tick, FeedbackNetwork.initPort, FeedbackNetwork.start,
      Function.update_noteq (show (1 : Nat) ≠ 0 by decide), Function.update_same, SwitchMmu.cpemActive, init]
    rfl

theorem pair_run_counts :
    FeedbackReachable fixedCpem (fun _ => 1) (fun _ => twoPorts)
        (FeedbackNetwork.start (fun _ => congestedNode) Statistics.zero) (pairRun fun _ => 1) ∧
      FeedbackCounts (pairRun fun _ => 1) ∧
      ((pairRun fun _ => 1).wire = [] →
        (pairRun fun _ => 1).stats.cpemFeedbackRecv = 2 * (pairRun fun _ => 1).stats.cpemFeedbackSent) :=
  ⟨pair_run_reachable _, feedback_counters_of_reachable (pair_run_reachable _)⟩

/-- One feedback packet sent by switch 0 and handled by switch 1 leaves the wire empty with
`m_cpemFeedbackSent = 1` and `m_cpemFeedbackRecv = 2`. -/
theorem feedback_counted_twice (exp : ℚ → ℚ) :
    FeedbackReachable fixedCpem exp (fun _ => twoPorts)
        (FeedbackNetwork.start (fun _ => congestedNode) Statistics.zero) (pairRun exp) ∧
      (pairRun exp).wire = [] ∧ (pairRun exp).emitted = 1 ∧ (pairRun exp).handled = 1 ∧
      (pairRun exp).stats.cpemFeedbackSent = 1 ∧ (pairRun exp).stats.cpemFeedbackRecv = 2 := by
  have reach := pair_run_reachable exp
  have counts := FeedbackCounts.reachable reach
  have sends := congested_tick_sends Statistics.zero
  have emitted : (pairRun exp).emitted = 1 := by
    show 0 + (congestedNode.cpemPeriodicFeedbackCheck fixedCpem twoPorts Statistics.zero 1).2.2.toList.length = 1
    rw [sends]
    rfl
  have handled : (pairRun exp).handled = 1 := rfl
  have quiet : (pairRun exp).wire = [] := by
    have inFlight := counts.inFlight
    rw [emitted, handled] at inFlight
    exact List.eq_nil_of_length_eq_zero (by omega)
  have sent := counts.sent
  have recv := counts.recv
  rw [emitted] at sent
  rw [handled] at recv
  exact ⟨reach, quiet, emitted, handled, UInt64.toNat.inj sent, UInt64.toNat.inj recv⟩

end ConWeaveSwitch
