import ConWeaveSwitch.Mmu.Accounting
import ConWeaveSwitch.Node.Cpem

/-!
# The switch pipeline against the buffer model

`SwitchReceiveFromDevice`, `SendToDev` and `SendToDevContinue`, the `DoSwitchSend` callback of the
routing modules, the dequeues of `SwitchNotifyDequeue`, the resume events and the CPEM ticks and
port initializations are every event of a switch. Each is an admitted enqueue or a dequeue of the
buffer model of `Mmu.Accounting`, or leaves the MMU's configuration and counters alone, so from
`InitSwitch` the switch refines the buffer model over every run (`switch_refines_buffer`). Runs
carry a bound on the packets' sizes, which the buffer model's runs inherit, so its results under
the no-wrap restriction apply to the switch runs that meet it. Queue 0 bypasses admission and its
packets are not tracked.
-/

namespace ConWeaveSwitch

set_option autoImplicit false

namespace SwitchMmu

/-- The buffer model's view of `m`: its configuration and counters, with every other member as in
`start`. -/
def bufferView (m start : SwitchMmu) : SwitchMmu :=
  { start with config := m.config, ingress := m.ingress, egress := m.egress }

def CpemOnly (m m' : SwitchMmu) : Prop :=
  ∃ cpemState, m' = { m with cpemState := cpemState }

section View

variable (m start : SwitchMmu) (k : QueuedPacket)

@[simp] theorem buffer_view_config : (m.bufferView start).config = m.config := rfl

theorem buffer_view_self : m.bufferView m = m := rfl

theorem buffer_view_admits : (m.bufferView start).admits k = m.admits k := rfl

theorem buffer_view_admit_packet : (m.admitPacket k).bufferView start = (m.bufferView start).admitPacket k :=
  rfl

theorem buffer_view_release : (m.release k).bufferView start = (m.bufferView start).release k := rfl

theorem buffer_view_set_resume (port qIndex : Nat) :
    (m.setResume port qIndex).bufferView start = m.bufferView start := rfl

theorem counter_sums_of_buffer_view {live : List QueuedPacket} (sums : CounterSums (m.bufferView start) live) :
    CounterSums m live :=
  ⟨sums.ingressPG, sums.ingressPort, sums.ingressSP, sums.totalIngress, sums.totalEgress, sums.headroom,
    sums.egressQMin, sums.egressQShared, sums.egressPort, sums.egressSP⟩

end View

namespace CpemOnly

variable {m m' m'' : SwitchMmu}

theorem refl (m : SwitchMmu) : m.CpemOnly m := ⟨m.cpemState, rfl⟩

theorem trans (first : m.CpemOnly m') (second : m'.CpemOnly m'') : m.CpemOnly m'' := by
  obtain ⟨_, rfl⟩ := first
  obtain ⟨cpemState, rfl⟩ := second
  exact ⟨cpemState, rfl⟩

theorem buffer_view (only : m.CpemOnly m') (start : SwitchMmu) :
    m'.bufferView start = m.bufferView start := by
  obtain ⟨_, rfl⟩ := only
  rfl

theorem paused (only : m.CpemOnly m') : m'.paused = m.paused := by
  obtain ⟨_, rfl⟩ := only
  rfl

end CpemOnly

section Cpem

variable (settings : Settings) (exp : ℚ → ℚ) (now : ℤ) (m : SwitchMmu) (stats : Statistics)
  (port : Nat)

theorem cpem_only_init_port (linkRate : UInt64) : m.CpemOnly (m.cpemInitPort settings port linkRate) := by
  unfold cpemInitPort
  split
  · exact ⟨_, rfl⟩
  · exact .refl m

theorem cpem_only_update_inflight (bytes : UInt64) :
    m.CpemOnly (m.cpemUpdateInflightOnSend settings exp now port bytes) := by
  unfold cpemUpdateInflightOnSend
  split
  · exact ⟨_, rfl⟩
  · exact .refl m

theorem cpem_only_update_credit (creditValue : UInt16) (queueLen : UInt32) (gradient : BitVec 16) :
    m.CpemOnly (m.cpemUpdateCreditOnFeedback settings now stats port creditValue queueLen gradient).1 := by
  unfold cpemUpdateCreditOnFeedback
  split
  · exact ⟨_, rfl⟩
  · exact .refl m

theorem cpem_only_adjusted_rate (linkRate : UInt64) :
    m.CpemOnly (m.cpemGetAdjustedRate settings exp now stats port linkRate).1 := by
  unfold cpemGetAdjustedRate
  dsimp only
  split_ifs
  · exact ⟨_, rfl⟩
  · exact .refl m
  · exact .refl m

theorem cpem_only_set_last_queue_len (queueLen : UInt32) : m.CpemOnly (m.setLastQueueLen port queueLen) :=
  ⟨_, rfl⟩

end Cpem

end SwitchMmu

namespace SwitchNode

variable (settings : Settings) (devices : Devices) (node : SwitchNode) (stats : Statistics)

theorem cpem_handle_feedback_cpem_only (exp : ℚ → ℚ) (now : ℤ) (inPort : Option Nat)
    (header : CreditFeedbackHeader) :
    ∃ mmu, node.mmu.CpemOnly mmu ∧
      (node.cpemHandleFeedback settings exp now devices stats inPort header).1 = { node with mmu := mmu } := by
  unfold cpemHandleFeedback
  split
  · rename_i port _
    have updated := node.mmu.cpem_only_update_credit settings now stats port header.creditValue
      header.queueLen header.gradient
    split
    · exact ⟨_, updated.trans (SwitchMmu.cpem_only_adjusted_rate ..), rfl⟩
    · exact ⟨_, updated, rfl⟩
  · exact ⟨_, .refl node.mmu, rfl⟩

theorem cpem_send_feedback_cpem_only (inPort outPort : Nat) :
    ∃ mmu, node.mmu.CpemOnly mmu ∧
      (node.cpemSendFeedback settings devices stats inPort outPort).1 = { node with mmu := mmu } := by
  unfold cpemSendFeedback
  split_ifs
  · exact ⟨_, .refl node.mmu, rfl⟩
  · exact ⟨_, .refl node.mmu, rfl⟩
  · exact ⟨_, .refl node.mmu, rfl⟩
  · refine ⟨_, SwitchMmu.cpem_only_set_last_queue_len _ inPort (node.mmu.getIngressPortBytes inPort), ?_⟩
    dsimp only
    split <;> rfl

theorem cpem_periodic_feedback_check_cpem_only (port : Nat) :
    ∃ mmu, node.mmu.CpemOnly mmu ∧
      (node.cpemPeriodicFeedbackCheck settings devices stats port).1 = { node with mmu := mmu } := by
  unfold cpemPeriodicFeedbackCheck
  split_ifs
  · exact ⟨_, .refl node.mmu, rfl⟩
  · exact cpem_send_feedback_cpem_only settings devices node stats port port
  · exact ⟨_, .refl node.mmu, rfl⟩

theorem get_out_dev_mmu {inputs : LbInputs} {ch : CustomHeader} {idx : Nat} {next : SwitchNode}
    (found : node.getOutDev settings inputs ch = some (idx, next)) : next.mmu = node.mmu := by
  have mapped : ∀ {out : Option Nat}, (out.map fun out => (out, node)) = some (idx, next) →
      next.mmu = node.mmu := fun picked => by
    obtain ⟨_, -, ⟨⟩⟩ := Option.map_eq_some'.mp picked
    rfl
  obtain ⟨nexthops, -, chosen⟩ := Option.bind_eq_some.mp found
  split_ifs at chosen
  · exact mapped chosen
  · cases chosen
    rfl
  · exact mapped chosen
  · exact mapped chosen
  · exact mapped chosen

/-- The queue `SendToDevContinue` puts a packet on: 0 for PFC, QCN and CPEM packets and, with
`m_ackHighPrio`, for ACK and NACK; 1 for TCP; the UDP priority group otherwise. -/
def sendQueueIndex (ch : CustomHeader) : Nat :=
  if ch.l3Prot = 0xFF ∨ ch.l3Prot = 0xFE ∨ ch.l3Prot = 0xFB ∨
      (node.ackHighPrio ≠ 0 ∧ (ch.l3Prot = 0xFD ∨ ch.l3Prot = 0xFC)) then 0
  else if ch.l3Prot = 0x06 then 1
  else ch.udpPg.toNat

theorem send_queue_index_lt {ch : CustomHeader} (grouped : ch.udpPg.toNat < qCnt) :
    node.sendQueueIndex ch < qCnt := by
  unfold sendQueueIndex
  split_ifs
  · decide
  · decide
  · exact grouped

end SwitchNode

namespace PfcNode

variable (start : SwitchMmu)

theorem foldl_keeps {α : Type} (view : PfcNode → α) {body : PfcNode → Nat → PfcNode}
    (keeps : ∀ s j, view (body s j) = view s) :
    ∀ (classes : List Nat) (s : PfcNode), view (classes.foldl body s) = view s
  | [], _ => rfl
  | j :: rest, s => (foldl_keeps view keeps rest (body s j)).trans (keeps s j)

theorem buffer_view_check_and_send_pfc (s : PfcNode) (inDev qIndex : Nat) :
    (s.checkAndSendPfc inDev qIndex).node.mmu.bufferView start = s.node.mmu.bufferView start :=
  (foldl_keeps (fun s => s.node.mmu.bufferView start) (fun s j => by unfold resumeClass; split <;> rfl)
    _ _).trans (foldl_keeps (fun s => s.node.mmu.bufferView start) (fun s j => by unfold pauseClass; split <;> rfl) _ s)

theorem buffer_view_check_and_send_resume (s : PfcNode) (inDev qIndex : Nat) :
    (s.checkAndSendResume inDev qIndex).node.mmu.bufferView start = s.node.mmu.bufferView start := by
  unfold checkAndSendResume
  split <;> rfl

theorem buffer_view_switch_notify_dequeue (s : PfcNode) {k : QueuedPacket} (nonzero : k.qIndex ≠ 0)
    (through : k.inDev ≠ conweaveCtrlDummyIndev) :
    (s.switchNotifyDequeue k.outDev k.qIndex k.inDev k.size).node.mmu.bufferView start =
      (s.node.mmu.bufferView start).release k := by
  simp only [switchNotifyDequeue, releaseAndResume, if_neg nonzero, if_pos through]
  rw [buffer_view_check_and_send_resume, with_mmu_mmu, ← SwitchMmu.release]
  exact SwitchMmu.buffer_view_release _ _ k

end PfcNode

structure Arrival where
  ifIndex : Nat
  inDev : Nat
  size : UInt32
  ch : CustomHeader
  feedback : CreditFeedbackHeader

/-- A switch: its node with the PFC frames its devices have sent, and the packets its devices hold
off the highest priority, latest first. -/
structure Switch where
  pfc : PfcNode
  queued : List QueuedPacket

namespace Switch

variable (settings : Settings) (exp : ℚ → ℚ) (now : ℤ) (inputs : LbInputs) (devices : Devices)

def doSwitchSend (sw : Switch) (stats : Statistics) (k : QueuedPacket) : Option (Switch × Statistics) :=
  (sw.pfc.doSwitchSend settings exp now stats k.inDev k.outDev k.qIndex k.size).map fun next =>
    (⟨next.1, if k.qIndex ≠ 0 ∧ sw.pfc.node.mmu.admits k = true then k :: sw.queued else sw.queued⟩,
      next.2)

/-- `SendToDevContinue(p, ch)`: a CPEM feedback packet goes to `CpemHandleFeedback`; any other packet
to `DoSwitchSend` on the port `GetOutDev` picks and the queue of its protocol. `none` where an assert
fails: `GetOutDev`'s, or the link-up assert on `m_devices[idx]`. -/
def sendToDevContinue (sw : Switch) (stats : Statistics) (a : Arrival) : Option (Switch × Statistics) :=
  if settings.cpemEnabled = true ∧ a.ch.l3Prot = 0xFB then
    let handled := sw.pfc.node.cpemHandleFeedback settings exp now devices stats (some a.inDev)
      a.feedback
    some (⟨⟨handled.1, sw.pfc.frames⟩, sw.queued⟩, handled.2.1)
  else
    (sw.pfc.node.getOutDev settings inputs a.ch).bind fun (idx, node) =>
      if idx < devices.nDevices ∧ devices.linkUp idx = true then
        doSwitchSend settings exp now ⟨⟨node, sw.pfc.frames⟩, sw.queued⟩ stats
          ⟨a.inDev, idx, sw.pfc.node.sendQueueIndex a.ch, a.size⟩
      else none

def sendToDev (sw : Switch) (stats : Statistics) (a : Arrival) : Option (Switch × Statistics) :=
  if settings.cpemEnabled = true ∧ a.ch.l3Prot = 0xFB then
    sendToDevContinue settings exp now inputs devices sw stats a
  else if settings.lbMode = 3 then some (sw, stats)
  else if settings.lbMode = 9 then some (sw, stats)
  else sendToDevContinue settings exp now inputs devices sw stats a

def switchReceiveFromDevice (sw : Switch) (stats : Statistics) (a : Arrival) :
    Option (Switch × Statistics) :=
  let rxBytes := Function.update sw.pfc.node.rxBytes a.ifIndex
    (sw.pfc.node.rxBytes a.ifIndex + a.size.toUInt64)
  let node := if a.ifIndex < pCnt then { sw.pfc.node with rxBytes := rxBytes } else sw.pfc.node
  sendToDev settings exp now inputs devices ⟨⟨node, sw.pfc.frames⟩, sw.queued⟩ stats a

def dequeue (sw : Switch) (k : QueuedPacket) : Switch :=
  ⟨sw.pfc.switchNotifyDequeue k.outDev k.qIndex k.inDev k.size, sw.queued.erase k⟩

end Switch

/-- One event of a switch: a device hands up a packet; a routing module releases a packet through
the `DoSwitchSend` callback; a device dequeues a packet it holds, or one of queue 0; a pending resume
event fires; a CPEM tick runs on a port, its feedback packet going to queue 0; or `CpemInitPort`
runs. The premises `tagged`, `grouped`, `routed` and `queue` are the array bounds of the source.
`small` is not a check of the source but a bound on the runs considered: with
`maxSize = 2^32 - 1` it holds of every packet, and with `max_buffer + maxSize < 2^32` it is the
no-wrap restriction under which the buffer accounting holds. -/
inductive SwitchStep (settings : Settings) (exp : ℚ → ℚ) (devices : Devices) (maxSize : Nat) :
    Switch × Statistics → Switch × Statistics → Prop
  | receive {sw : Switch} {stats : Statistics} {next : Switch × Statistics} (now : ℤ)
      (inputs : LbInputs) (a : Arrival) (tagged : a.inDev < devices.nDevices)
      (grouped : a.ch.udpPg.toNat < qCnt) (small : a.size.toNat ≤ maxSize)
      (received : sw.switchReceiveFromDevice settings exp now inputs devices stats a = some next) :
      SwitchStep settings exp devices maxSize (sw, stats) next
  | callback {sw : Switch} {stats : Statistics} {next : Switch × Statistics} (now : ℤ)
      (k : QueuedPacket) (tagged : k.inDev < devices.nDevices ∨ k.inDev = conweaveCtrlDummyIndev)
      (routed : k.outDev < devices.nDevices) (queue : k.qIndex < qCnt) (small : k.size.toNat ≤ maxSize)
      (sent : sw.doSwitchSend settings exp now stats k = some next) :
      SwitchStep settings exp devices maxSize (sw, stats) next
  | dequeue (sw : Switch) (stats : Statistics) {k : QueuedPacket} (held : k ∈ sw.queued) :
      SwitchStep settings exp devices maxSize (sw, stats) (sw.dequeue k, stats)
  | dequeueControl (sw : Switch) (stats : Statistics) (ifIndex inDev : Nat) (size : UInt32) :
      SwitchStep settings exp devices maxSize (sw, stats)
        (⟨sw.pfc.switchNotifyDequeue ifIndex 0 inDev size, sw.queued⟩, stats)
  | resumeTimer (sw : Switch) (stats : Statistics) (port qIndex : Nat)
      (pending : sw.pfc.node.mmu.resumeEvt port qIndex = true) :
      SwitchStep settings exp devices maxSize (sw, stats)
        (⟨sw.pfc.resumeTimer port qIndex, sw.queued⟩, stats)
  | feedbackCheck (sw : Switch) (stats : Statistics) (port : Nat) :
      SwitchStep settings exp devices maxSize (sw, stats)
        (⟨⟨(sw.pfc.node.cpemPeriodicFeedbackCheck settings devices stats port).1, sw.pfc.frames⟩,
          sw.queued⟩, (sw.pfc.node.cpemPeriodicFeedbackCheck settings devices stats port).2.1)
  | initPort (sw : Switch) (stats : Statistics) (port : Nat) (linkRate : UInt64) :
      SwitchStep settings exp devices maxSize (sw, stats)
        (⟨sw.pfc.withMmu (sw.pfc.node.mmu.cpemInitPort settings port linkRate), sw.queued⟩, stats)

def SwitchReachable (settings : Settings) (exp : ℚ → ℚ) (devices : Devices) (maxSize : Nat)
    (start : Switch × Statistics) : Switch × Statistics → Prop :=
  Relation.ReflTransGen (SwitchStep settings exp devices maxSize) start

/-! ## The invariant -/

/-- What every state of a run from `InitSwitch` satisfies: the buffer model, with packets of at
most `maxSize` bytes, reaches the MMU's configuration and counters with the held packets, and the
PFC frame invariant holds. -/
structure SwitchInvariant (maxSize : Nat) (base : SwitchMmu) (sw : Switch) : Prop where
  buffer : BufferReachable (fun k => k.size.toNat ≤ maxSize) base
    (sw.pfc.node.mmu.bufferView base.initSwitch, sw.queued)
  frames : PfcInvariant sw.pfc

namespace SwitchInvariant

variable {maxSize : Nat} {base : SwitchMmu} {sw : Switch}

theorem wellFormed (invariant : SwitchInvariant maxSize base sw) : ∀ k ∈ sw.queued, k.WellFormed :=
  well_formed_of_reachable invariant.buffer

theorem stutter (invariant : SwitchInvariant maxSize base sw) {sw' : Switch}
    (view : sw'.pfc.node.mmu.bufferView base.initSwitch = sw.pfc.node.mmu.bufferView base.initSwitch)
    (held : sw'.queued = sw.queued) (frames : PfcInvariant sw'.pfc) : SwitchInvariant maxSize base sw' :=
  ⟨view ▸ held ▸ invariant.buffer, frames⟩

theorem with_node (invariant : SwitchInvariant maxSize base sw) {node : SwitchNode}
    (same : node.mmu = sw.pfc.node.mmu) : SwitchInvariant maxSize base ⟨⟨node, sw.pfc.frames⟩, sw.queued⟩ :=
  invariant.stutter (by rw [same]) rfl
    ⟨invariant.frames.ordered, fun port qIndex held => invariant.frames.pausedAfterPause port qIndex
      (by rwa [← same])⟩

theorem with_cpem (invariant : SwitchInvariant maxSize base sw) {mmu : SwitchMmu}
    (only : sw.pfc.node.mmu.CpemOnly mmu) : SwitchInvariant maxSize base ⟨sw.pfc.withMmu mmu, sw.queued⟩ :=
  invariant.stutter (only.buffer_view _) rfl
    (invariant.frames.with_mmu mmu fun _ _ held => by rwa [only.paused] at held)

variable {settings : Settings} {exp : ℚ → ℚ} {now : ℤ} {stats : Statistics}
  {next : Switch × Statistics}

/-- `DoSwitchSend` is an admitted enqueue of the buffer model or leaves its state alone. -/
theorem do_switch_send (invariant : SwitchInvariant maxSize base sw) {k : QueuedPacket}
    (tagged : k.inDev < pCnt ∨ k.inDev = conweaveCtrlDummyIndev) (routed : k.outDev < pCnt)
    (queue : k.qIndex < qCnt) (small : k.size.toNat ≤ maxSize)
    (sent : sw.doSwitchSend settings exp now stats k = some next) : SwitchInvariant maxSize base next.1 := by
  rw [Switch.doSwitchSend, Option.map_eq_some'] at sent
  obtain ⟨after, sent, rfl⟩ := sent
  have frames := invariant.frames.do_switch_send sent
  obtain ⟨assert, outcome⟩ := PfcNode.do_switch_send_cases sent
  rcases outcome with ⟨zero, rfl⟩ | ⟨-, refused, rfl⟩ | ⟨-, -, refused, rfl⟩ |
    ⟨nonzero, egress, ingress, charged, chargedEq, rfl⟩
  · exact invariant.stutter rfl (if_neg fun both => both.1 zero) frames
  · exact invariant.stutter rfl (if_neg fun both => by simp [SwitchMmu.admits, refused] at both) frames
  · exact invariant.stutter rfl (if_neg fun both => by simp [SwitchMmu.admits, refused] at both) frames
  · have admitted : sw.pfc.node.mmu.admits k = true := by simp [SwitchMmu.admits, egress, ingress]
    have valid : k.WellFormed :=
      ⟨tagged.resolve_right fun dummy => nonzero (assert dummy).1, routed, queue, nonzero⟩
    have hooked : charged.node.mmu.CpemOnly (if settings.cpemEnabled then
        charged.node.mmu.cpemUpdateInflightOnSend settings exp now k.outDev k.size.toUInt64
        else charged.node.mmu) := by
      split
      · exact SwitchMmu.cpem_only_update_inflight ..
      · exact .refl _
    refine ⟨?_, frames⟩
    simp only [if_pos (And.intro nonzero admitted)]
    rw [PfcNode.with_mmu_mmu, hooked.buffer_view, chargedEq, PfcNode.buffer_view_check_and_send_pfc,
      PfcNode.with_mmu_mmu, ← SwitchMmu.admitPacket, SwitchMmu.buffer_view_admit_packet]
    exact invariant.buffer.tail (.enqueue valid small
      ((SwitchMmu.buffer_view_admits _ _ k).trans admitted))

theorem send_to_dev_continue (invariant : SwitchInvariant maxSize base sw) {inputs : LbInputs}
    {devices : Devices} {a : Arrival} (ports : devices.nDevices ≤ pCnt)
    (tagged : a.inDev < devices.nDevices) (grouped : a.ch.udpPg.toNat < qCnt)
    (small : a.size.toNat ≤ maxSize)
    (sent : sw.sendToDevContinue settings exp now inputs devices stats a = some next) :
    SwitchInvariant maxSize base next.1 := by
  unfold Switch.sendToDevContinue at sent
  split_ifs at sent with feedback
  · cases sent
    obtain ⟨mmu, only, handled⟩ := SwitchNode.cpem_handle_feedback_cpem_only settings devices
      sw.pfc.node stats exp now (some a.inDev) a.feedback
    rw [handled]
    exact invariant.with_cpem only
  · obtain ⟨⟨idx, node⟩, found, sent⟩ := Option.bind_eq_some.mp sent
    dsimp only at sent
    split_ifs at sent with linked
    have same := SwitchNode.get_out_dev_mmu settings sw.pfc.node found
    exact (invariant.with_node same).do_switch_send (.inl (tagged.trans_le ports))
      (linked.1.trans_le ports) (sw.pfc.node.send_queue_index_lt grouped) small sent

theorem send_to_dev (invariant : SwitchInvariant maxSize base sw) {inputs : LbInputs}
    {devices : Devices} {a : Arrival} (ports : devices.nDevices ≤ pCnt)
    (tagged : a.inDev < devices.nDevices) (grouped : a.ch.udpPg.toNat < qCnt)
    (small : a.size.toNat ≤ maxSize)
    (sent : sw.sendToDev settings exp now inputs devices stats a = some next) :
    SwitchInvariant maxSize base next.1 := by
  unfold Switch.sendToDev at sent
  split_ifs at sent
  · exact invariant.send_to_dev_continue ports tagged grouped small sent
  · cases sent
    exact invariant
  · cases sent
    exact invariant
  · exact invariant.send_to_dev_continue ports tagged grouped small sent

theorem switch_receive_from_device (invariant : SwitchInvariant maxSize base sw) {inputs : LbInputs}
    {devices : Devices} {a : Arrival} (ports : devices.nDevices ≤ pCnt)
    (tagged : a.inDev < devices.nDevices) (grouped : a.ch.udpPg.toNat < qCnt)
    (small : a.size.toNat ≤ maxSize)
    (received : sw.switchReceiveFromDevice settings exp now inputs devices stats a = some next) :
    SwitchInvariant maxSize base next.1 := by
  unfold Switch.switchReceiveFromDevice at received
  dsimp only at received
  split at received
  · exact (invariant.with_node (by rfl)).send_to_dev ports tagged grouped small received
  · exact invariant.send_to_dev ports tagged grouped small received

theorem step {devices : Devices} (ports : devices.nDevices ≤ pCnt) {before after : Switch × Statistics}
    (invariant : SwitchInvariant maxSize base before.1)
    (step : SwitchStep settings exp devices maxSize before after) : SwitchInvariant maxSize base after.1 := by
  cases step with
  | receive now inputs a tagged grouped small received =>
    exact invariant.switch_receive_from_device ports tagged grouped small received
  | callback now k tagged routed queue small sent =>
    exact invariant.do_switch_send (tagged.imp_left (·.trans_le ports)) (routed.trans_le ports)
      queue small sent
  | dequeue sw stats held =>
    obtain ⟨inPort, -, -, nonzero⟩ := invariant.wellFormed _ held
    have through : _ ≠ conweaveCtrlDummyIndev := (inPort.trans (by decide)).ne
    refine ⟨?_, invariant.frames.switch_notify_dequeue ..⟩
    rw [Switch.dequeue, PfcNode.buffer_view_switch_notify_dequeue _ _ nonzero through]
    exact invariant.buffer.tail (.dequeue held)
  | dequeueControl sw stats ifIndex inDev size =>
    exact invariant.stutter rfl rfl (invariant.frames.switch_notify_dequeue ..)
  | resumeTimer sw stats port qIndex _ =>
    exact invariant.stutter (SwitchMmu.buffer_view_set_resume ..) rfl
      (invariant.frames.resume_timer port qIndex)
  | feedbackCheck sw stats port =>
    obtain ⟨mmu, only, checked⟩ := SwitchNode.cpem_periodic_feedback_check_cpem_only settings devices
      sw.pfc.node stats port
    simp only [checked]
    exact invariant.with_cpem only
  | initPort sw stats port linkRate =>
    exact invariant.with_cpem (SwitchMmu.cpem_only_init_port ..)

theorem initial {start : Switch} (initial : start.pfc.node.mmu = base.initSwitch) (empty : start.queued = [])
    (unpaused : ∀ port qIndex, base.paused port qIndex = false) (silent : start.pfc.frames = []) :
    SwitchInvariant maxSize base start := by
  refine ⟨?_, silent ▸ resumes_follow_nil, fun port qIndex held => ?_⟩
  · rw [initial, empty, SwitchMmu.buffer_view_self]
    exact .refl
  · rw [initial] at held
    cases (unpaused port qIndex).symm.trans held

theorem of_reachable {devices : Devices} (ports : devices.nDevices ≤ pCnt) {start : Switch × Statistics}
    (initially : SwitchInvariant maxSize base start.1)
    (reach : SwitchReachable settings exp devices maxSize start next) : SwitchInvariant maxSize base next.1 := by
  induction reach with
  | refl => exact initially
  | tail _ step invariant => exact invariant.step ports step

end SwitchInvariant

/-- Over every run of the switch from `InitSwitch` with nothing held, no class paused and no frame
sent, on at most `pCnt` devices, whose packets have at most `maxSize` bytes, the MMU's
configuration and counters with the packets the devices hold off the highest priority are a state
the buffer model reaches with packets of at most `maxSize` bytes, and every resume frame of a class
follows a pause frame of it with no resume frame of it in between. With `maxSize = 2^32 - 1` the
runs are all runs. -/
theorem switch_refines_buffer {settings : Settings} {exp : ℚ → ℚ} {devices : Devices} {maxSize : Nat}
    {base : SwitchMmu} {start next : Switch × Statistics} (ports : devices.nDevices ≤ pCnt)
    (initial : start.1.pfc.node.mmu = base.initSwitch) (empty : start.1.queued = [])
    (unpaused : ∀ port qIndex, base.paused port qIndex = false) (silent : start.1.pfc.frames = [])
    (reach : SwitchReachable settings exp devices maxSize start next) :
    BufferReachable (fun k => k.size.toNat ≤ maxSize) base
        (next.1.pfc.node.mmu.bufferView base.initSwitch, next.1.queued) ∧
      ResumesFollowPauses next.1.pfc.frames :=
  have always := SwitchInvariant.of_reachable ports (.initial initial empty unpaused silent) reach
  ⟨always.buffer, always.frames.ordered⟩

/-- The MMU of a node of id 0 over a zero-filled allocation, with static thresholds and a 10384-byte
buffer, before `SetActivePortCnt(1)` runs `InitSwitch`. -/
def quietMmu : SwitchMmu :=
  let mmu := ((SwitchNode.construct 0 SwitchMmu.zeroSwitch).mmu.setDynamicThreshold false).configBufferSize
    10384
  { mmu with config := { mmu.config with activePortCnt := 1 } }

def quietSwitch : Switch :=
  ⟨⟨{ SwitchNode.construct 0 SwitchMmu.zeroSwitch with mmu := quietMmu.initSwitch }, []⟩, []⟩

def threePorts : Devices := ⟨3, fun _ => some 100000000000, fun _ => true⟩

theorem quiet_switch_admits :
    ∃ next, SwitchReachable Settings.defaults (fun _ => 1) threePorts 65535 (quietSwitch, Statistics.zero)
      next ∧ next.1.queued = [⟨1, 2, 3, 1000⟩] := by
  have egress : quietSwitch.pfc.node.mmu.checkEgressAdmission 2 3 1000 = true :=
    (SwitchMmu.check_egress_true_iff_of_alpha_one rfl).mpr (by decide)
  have ingress : quietSwitch.pfc.node.mmu.checkIngressAdmission 1 3 1000 = true := by decide
  exact ⟨_, .tail .refl (.callback 0 ⟨1, 2, 3, 1000⟩ (.inl (by decide)) (by decide) (by decide) (by decide)
    (by simp only [Switch.doSwitchSend, PfcNode.doSwitchSend, SwitchMmu.admits, egress, ingress]; rfl)), rfl⟩

theorem quiet_switch_holds_admitted :
    ∃ next, SwitchReachable Settings.defaults (fun _ => 1) threePorts 65535 (quietSwitch, Statistics.zero)
        next ∧
      next.1.queued = [⟨1, 2, 3, 1000⟩] ∧
      BufferReachable (fun k => k.size.toNat ≤ 65535) quietMmu
        (next.1.pfc.node.mmu.bufferView quietMmu.initSwitch, next.1.queued) ∧
      ResumesFollowPauses next.1.pfc.frames :=
  have ⟨next, reach, held⟩ := quiet_switch_admits
  ⟨next, reach, held, switch_refines_buffer (by decide) rfl rfl (fun _ _ => rfl) rfl reach⟩

/-- Over every run of the switch from `InitSwitch` with nothing held, no class paused and no frame
sent, on at most `pCnt` devices, whose packets have at most `maxSize` bytes with
`max_buffer + maxSize < 2^32`, the MMU's counters are the sums of the bytes the devices hold. -/
theorem switch_counters_of_reachable {settings : Settings} {exp : ℚ → ℚ} {devices : Devices}
    {maxSize : Nat} {base : SwitchMmu} {start next : Switch × Statistics} (ports : devices.nDevices ≤ pCnt)
    (initial : start.1.pfc.node.mmu = base.initSwitch) (empty : start.1.queued = [])
    (unpaused : ∀ port qIndex, base.paused port qIndex = false) (silent : start.1.pfc.frames = [])
    (room : base.initSwitch.config.maxBufferBytes.toNat + maxSize < 2 ^ 32)
    (reach : SwitchReachable settings exp devices maxSize start next) :
    CounterSums next.1.pfc.node.mmu next.1.queued := by
  have always := SwitchInvariant.of_reachable ports (.initial initial empty unpaused silent) reach
  exact SwitchMmu.counter_sums_of_buffer_view _ _
    (counter_sums_of_accounts (accounts_of_reachable (fun _ small => by omega) always.buffer))

theorem quiet_switch_counts_admitted :
    ∃ next, SwitchReachable Settings.defaults (fun _ => 1) threePorts 65535 (quietSwitch, Statistics.zero)
        next ∧
      next.1.queued = [⟨1, 2, 3, 1000⟩] ∧ quietMmu.initSwitch.config.maxBufferBytes.toNat + 65535 < 2 ^ 32 ∧
      CounterSums next.1.pfc.node.mmu next.1.queued :=
  have ⟨next, reach, held⟩ := quiet_switch_admits
  have room : quietMmu.initSwitch.config.maxBufferBytes.toNat + 65535 < 2 ^ 32 := by decide
  ⟨next, reach, held, room, switch_counters_of_reachable (by decide) rfl rfl (fun _ _ => rfl) rfl room reach⟩

end ConWeaveSwitch
