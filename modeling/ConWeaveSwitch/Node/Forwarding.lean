import ConWeaveSwitch.Mmu.Pfc
import ConWeaveSwitch.Cpem.Credit
import ConWeaveSwitch.Node.Routing

/-!
# PFC frames of the switch data path

`DoSwitchSend`, `SwitchNotifyDequeue` and the resume events over a node with the PFC frames its
devices have sent. `paused` and `m_pause_remote` are set by neither constructor nor `InitSwitch`,
and stale flags make the first admitted packet send resume frames with no pause before them
(`resume_without_pause`); from a quiet state every resume frame of a class follows a pause frame of
it (`resumes_follow_pauses_of_reachable`).
-/

namespace ConWeaveSwitch

set_option autoImplicit false

inductive PfcKind where
  | pause
  | resume
  deriving DecidableEq, Repr

structure PfcFrame where
  port : Nat
  qIndex : Nat
  kind : PfcKind
  deriving DecidableEq, Repr

def lastKind (frames : List PfcFrame) (port qIndex : Nat) : Option PfcKind :=
  ((frames.filter fun frame => frame.port == port && frame.qIndex == qIndex).getLast?).map
    PfcFrame.kind

/-- Every resume frame of a class follows a pause frame of the class with no resume frame of the
class between them; equivalently, the last frame of the class before it is a pause. -/
def ResumesFollowPauses (frames : List PfcFrame) : Prop :=
  ∀ before after port qIndex, frames = before ++ ⟨port, qIndex, .resume⟩ :: after →
    lastKind before port qIndex = some .pause

section Frames

variable (frames : List PfcFrame) (port qIndex : Nat)

@[simp] theorem last_kind_snoc_same (kind : PfcKind) :
    lastKind (frames ++ [⟨port, qIndex, kind⟩]) port qIndex = some kind := by
  simp [lastKind, List.filter_append]

theorem last_kind_snoc_other {frame : PfcFrame} (other : ¬(frame.port = port ∧ frame.qIndex = qIndex)) :
    lastKind (frames ++ [frame]) port qIndex = lastKind frames port qIndex := by
  have dropped : (frame.port == port && frame.qIndex == qIndex) = false := by
    simpa only [Bool.and_eq_false_iff, beq_eq_false_iff_ne, ne_eq, ← not_and_or] using other
  simp [lastKind, List.filter_append, List.filter_cons, dropped]

theorem resumes_follow_snoc {frame : PfcFrame} (ordered : ResumesFollowPauses frames)
    (paired : frame.kind = .resume → lastKind frames frame.port frame.qIndex = some .pause) :
    ResumesFollowPauses (frames ++ [frame]) := by
  intro before after resumedPort resumedQueue split
  rcases List.eq_nil_or_concat after with rfl | ⟨rest, last, rfl⟩
  · obtain ⟨rfl, same⟩ := List.append_inj' split rfl
    cases List.singleton_inj.mp same
    exact paired rfl
  · rw [List.concat_eq_append, ← List.cons_append, ← List.append_assoc] at split
    exact ordered before rest resumedPort resumedQueue (List.append_inj' split rfl).1

theorem resumes_follow_nil : ResumesFollowPauses [] := by
  intro before after port qIndex split
  cases before <;> cases split

theorem not_resumes_follow_of_head_resume :
    ¬ResumesFollowPauses (⟨port, qIndex, .resume⟩ :: frames) := fun ordered => by
  simpa [lastKind] using ordered [] frames port qIndex rfl

end Frames

structure PfcNode where
  node : SwitchNode
  frames : List PfcFrame

namespace PfcNode

def withMmu (s : PfcNode) (mmu : SwitchMmu) : PfcNode := ⟨{ s.node with mmu := mmu }, s.frames⟩

@[simp] theorem with_mmu_mmu (s : PfcNode) (mmu : SwitchMmu) : (s.withMmu mmu).node.mmu = mmu := rfl

/-- The pause loop of `CheckAndSendPfc(inDev, ·)` at class `j`, over the classes `pClasses` that
`GetPauseClasses` marked before the loop: `SendPfc(j, 0)`, `SetPause(inDev, j, paused_time)` and
`m_pause_remote[inDev][j] = true`. -/
def pauseClass (pClasses : Nat → Bool) (inDev : Nat) (s : PfcNode) (j : Nat) : PfcNode :=
  if pClasses j then
    let mmu := s.node.mmu.setPause inDev j
    let mmu := { mmu with pauseRemote := setCell mmu.pauseRemote inDev j true }
    ⟨{ s.node with mmu := mmu }, s.frames ++ [⟨inDev, j, .pause⟩]⟩
  else s

def resumeClass (inDev : Nat) (s : PfcNode) (j : Nat) : PfcNode :=
  if s.node.mmu.pauseRemote inDev j && s.node.mmu.getResumeClasses inDev j then
    let mmu := s.node.mmu.setResume inDev j
    let mmu := { mmu with pauseRemote := setCell mmu.pauseRemote inDev j false }
    ⟨{ s.node with mmu := mmu }, s.frames ++ [⟨inDev, j, .resume⟩]⟩
  else s

def checkAndSendPfc (s : PfcNode) (inDev qIndex : Nat) : PfcNode :=
  let pClasses := s.node.mmu.getPauseClasses inDev qIndex
  let paused := (List.range qCnt).foldl (pauseClass pClasses inDev) s
  (List.range qCnt).foldl (resumeClass inDev) paused

def checkAndSendResume (s : PfcNode) (inDev qIndex : Nat) : PfcNode :=
  if s.node.mmu.getResumeClasses inDev qIndex then
    ⟨{ s.node with mmu := s.node.mmu.setResume inDev qIndex }, s.frames ++ [⟨inDev, qIndex, .resume⟩]⟩
  else s

/-- `DoSwitchSend(p, ch, outDev, qIndex)` at time `now` for a packet of `size` bytes whose
`FlowIdTag` names `inDev`: a packet off the highest priority passes egress then ingress admission
or is dropped and counted, is charged, then `CheckAndSendPfc(inDev, qIndex)` and, with CPEM on,
`CpemUpdateInflightOnSend(outDev, size)`. `none` where the ConWeave sanity assert fails. -/
def doSwitchSend (settings : Settings) (exp : ℚ → ℚ) (now : ℤ) (s : PfcNode) (stats : Statistics)
    (inDev outDev qIndex : Nat) (size : UInt32) : Option (PfcNode × Statistics) :=
  if inDev = conweaveCtrlDummyIndev ∧ ¬(qIndex = 0 ∧ s.node.ackHighPrio = 1) then none
  else if qIndex = 0 then some (s, stats)
  else if !s.node.mmu.checkEgressAdmission outDev qIndex size then
    some (s, { stats with droppedPktSwEgress := stats.droppedPktSwEgress + 1 })
  else if !s.node.mmu.checkIngressAdmission inDev qIndex size then
    some (s, { stats with droppedPktSwIngress := stats.droppedPktSwIngress + 1 })
  else
    let mmu := (s.node.mmu.updateIngressAdmission inDev qIndex size).updateEgressAdmission outDev
      qIndex size
    let s := (s.withMmu mmu).checkAndSendPfc inDev qIndex
    let mmu := if settings.cpemEnabled then
      s.node.mmu.cpemUpdateInflightOnSend settings exp now outDev size.toUInt64 else s.node.mmu
    some (s.withMmu mmu, stats)

def releaseAndResume (s : PfcNode) (ifIndex qIndex inDev : Nat) (size : UInt32) : PfcNode :=
  let mmu := if inDev ≠ conweaveCtrlDummyIndev then
    s.node.mmu.removeFromIngressAdmission inDev qIndex size else s.node.mmu
  let s := s.withMmu (mmu.removeFromEgressAdmission ifIndex qIndex size)
  if inDev ≠ conweaveCtrlDummyIndev then s.checkAndSendResume inDev qIndex else s

def switchNotifyDequeue (s : PfcNode) (ifIndex qIndex inDev : Nat) (size : UInt32) : PfcNode :=
  let s := if qIndex = 0 then s else s.releaseAndResume ifIndex qIndex inDev size
  let txBytes := Function.update s.node.txBytes ifIndex (s.node.txBytes ifIndex + size.toUInt64)
  ⟨{ s.node with txBytes := txBytes }, s.frames⟩

def resumeTimer (s : PfcNode) (port qIndex : Nat) : PfcNode :=
  s.withMmu (s.node.mmu.setResume port qIndex)

/-- What `DoSwitchSend` can do, guards included: the ConWeave assert passes; a packet of queue 0
leaves the node and the statistics alone; one off it that egress, or else ingress, admission
refuses is counted as dropped; an admitted one is charged, then `CheckAndSendPfc` and, with CPEM
on, the send hook run. -/
theorem do_switch_send_cases {settings : Settings} {exp : ℚ → ℚ} {now : ℤ} {s : PfcNode}
    {stats : Statistics} {inDev outDev qIndex : Nat} {size : UInt32} {next : PfcNode × Statistics}
    (sent : s.doSwitchSend settings exp now stats inDev outDev qIndex size = some next) :
    (inDev = conweaveCtrlDummyIndev → qIndex = 0 ∧ s.node.ackHighPrio = 1) ∧
      (qIndex = 0 ∧ next = (s, stats) ∨
      qIndex ≠ 0 ∧ s.node.mmu.checkEgressAdmission outDev qIndex size = false ∧
        next = (s, { stats with droppedPktSwEgress := stats.droppedPktSwEgress + 1 }) ∨
      qIndex ≠ 0 ∧ s.node.mmu.checkEgressAdmission outDev qIndex size = true ∧
        s.node.mmu.checkIngressAdmission inDev qIndex size = false ∧
        next = (s, { stats with droppedPktSwIngress := stats.droppedPktSwIngress + 1 }) ∨
      qIndex ≠ 0 ∧ s.node.mmu.checkEgressAdmission outDev qIndex size = true ∧
        s.node.mmu.checkIngressAdmission inDev qIndex size = true ∧
        ∃ charged : PfcNode,
          charged = (s.withMmu ((s.node.mmu.updateIngressAdmission inDev qIndex size).updateEgressAdmission
            outDev qIndex size)).checkAndSendPfc inDev qIndex ∧
          next = (charged.withMmu (if settings.cpemEnabled then
            charged.node.mmu.cpemUpdateInflightOnSend settings exp now outDev size.toUInt64
            else charged.node.mmu), stats)) := by
  unfold doSwitchSend at sent
  split_ifs at sent with ctrl zero egress ingress enabled <;> cases sent <;>
    refine ⟨not_and_not_right.mp ctrl, ?_⟩
  · exact .inl ⟨zero, rfl⟩
  · exact .inr (.inl ⟨zero, by simpa using egress, rfl⟩)
  · exact .inr (.inr (.inl ⟨zero, by simpa using egress, by simpa using ingress, rfl⟩))
  · exact .inr (.inr (.inr ⟨zero, by simpa using egress, by simpa using ingress, _, rfl,
      by rw [if_pos enabled]⟩))
  · exact .inr (.inr (.inr ⟨zero, by simpa using egress, by simpa using ingress, _, rfl,
      by rw [if_neg enabled]⟩))

end PfcNode

inductive PfcStep (settings : Settings) (exp : ℚ → ℚ) :
    PfcNode × Statistics → PfcNode × Statistics → Prop
  | send {s : PfcNode} {stats : Statistics} {next : PfcNode × Statistics} (now : ℤ)
      (inDev outDev qIndex : Nat) (size : UInt32)
      (sent : s.doSwitchSend settings exp now stats inDev outDev qIndex size = some next) :
      PfcStep settings exp (s, stats) next
  | dequeue (s : PfcNode) (stats : Statistics) (ifIndex qIndex inDev : Nat) (size : UInt32) :
      PfcStep settings exp (s, stats) (s.switchNotifyDequeue ifIndex qIndex inDev size, stats)
  | resumeTimer (s : PfcNode) (stats : Statistics) (port qIndex : Nat)
      (pending : s.node.mmu.resumeEvt port qIndex = true) :
      PfcStep settings exp (s, stats) (s.resumeTimer port qIndex, stats)

inductive PfcReachable (settings : Settings) (exp : ℚ → ℚ) (start : PfcNode × Statistics) :
    PfcNode × Statistics → Prop
  | refl : PfcReachable settings exp start start
  | tail {mid next : PfcNode × Statistics} : PfcReachable settings exp start mid →
      PfcStep settings exp mid next → PfcReachable settings exp start next

/-! ## The frame invariant -/

/-- The frames sent so far resume a class only after pausing it, and a paused class's last frame
was a pause. -/
structure PfcInvariant (s : PfcNode) : Prop where
  ordered : ResumesFollowPauses s.frames
  pausedAfterPause : ∀ port qIndex, s.node.mmu.paused port qIndex = true →
    lastKind s.frames port qIndex = some .pause

namespace PfcInvariant

variable {s : PfcNode}

theorem with_mmu (invariant : PfcInvariant s) (mmu : SwitchMmu)
    (clears : ∀ port qIndex, mmu.paused port qIndex = true → s.node.mmu.paused port qIndex = true) :
    PfcInvariant (s.withMmu mmu) :=
  ⟨invariant.ordered, fun port qIndex held => invariant.pausedAfterPause port qIndex
    (clears port qIndex held)⟩

theorem send_frame (invariant : PfcInvariant s) {mmu : SwitchMmu} {inDev j : Nat} {kind : PfcKind}
    (flagged : mmu.paused = setCell s.node.mmu.paused inDev j (kind == .pause))
    (paired : kind = .resume → s.node.mmu.paused inDev j = true) :
    PfcInvariant ⟨{ s.node with mmu := mmu }, s.frames ++ [⟨inDev, j, kind⟩]⟩ := by
  refine ⟨resumes_follow_snoc _ invariant.ordered fun resumed =>
    invariant.pausedAfterPause inDev j (paired resumed), fun port qIndex held => ?_⟩
  simp only [flagged, set_cell_apply] at held
  by_cases same : port = inDev ∧ qIndex = j
  · obtain ⟨rfl, rfl⟩ := same
    cases kind with
    | pause => exact last_kind_snoc_same _ _ _ _
    | resume => simp at held
  · rw [if_neg same] at held
    rw [last_kind_snoc_other _ _ _ fun frame => same ⟨frame.1.symm, frame.2.symm⟩]
    exact invariant.pausedAfterPause port qIndex held

theorem pause_class (invariant : PfcInvariant s) (pClasses : Nat → Bool) (inDev j : Nat) :
    PfcInvariant (s.pauseClass pClasses inDev j) := by
  unfold PfcNode.pauseClass
  split
  · exact invariant.send_frame rfl (fun resumed => PfcKind.noConfusion resumed)
  · exact invariant

theorem resume_class (invariant : PfcInvariant s) (inDev j : Nat) :
    PfcInvariant (s.resumeClass inDev j) := by
  unfold PfcNode.resumeClass
  split
  · rename_i released
    exact invariant.send_frame rfl fun _ =>
      SwitchMmu.paused_of_get_resume_classes (Bool.and_eq_true _ _ ▸ released).2
  · exact invariant

theorem foldl (invariant : PfcInvariant s) {body : PfcNode → Nat → PfcNode}
    (step : ∀ s j, PfcInvariant s → PfcInvariant (body s j)) (classes : List Nat) :
    PfcInvariant (classes.foldl body s) := by
  induction classes generalizing s with
  | nil => exact invariant
  | cons j rest ih => exact ih (step s j invariant)

theorem check_and_send_pfc (invariant : PfcInvariant s) (inDev qIndex : Nat) :
    PfcInvariant (s.checkAndSendPfc inDev qIndex) :=
  (invariant.foldl (fun _ _ held => held.pause_class _ _ _) _).foldl
    (fun _ _ held => held.resume_class _ _) _

theorem check_and_send_resume (invariant : PfcInvariant s) (inDev qIndex : Nat) :
    PfcInvariant (s.checkAndSendResume inDev qIndex) := by
  unfold PfcNode.checkAndSendResume
  split
  · rename_i released
    exact invariant.send_frame rfl fun _ => SwitchMmu.paused_of_get_resume_classes released
  · exact invariant

end PfcInvariant

section Flags

variable (m : SwitchMmu) (port qIndex : Nat) (psize : UInt32)

@[simp] theorem update_ingress_paused : (m.updateIngressAdmission port qIndex psize).paused = m.paused :=
  rfl

@[simp] theorem update_egress_paused : (m.updateEgressAdmission port qIndex psize).paused = m.paused :=
  rfl

@[simp] theorem remove_ingress_paused :
    (m.removeFromIngressAdmission port qIndex psize).paused = m.paused := rfl

@[simp] theorem remove_egress_paused :
    (m.removeFromEgressAdmission port qIndex psize).paused = m.paused := rfl

@[simp] theorem cpem_update_inflight_paused (settings : Settings) (exp : ℚ → ℚ) (now : ℤ)
    (bytes : UInt64) : (m.cpemUpdateInflightOnSend settings exp now port bytes).paused = m.paused := by
  unfold SwitchMmu.cpemUpdateInflightOnSend
  split <;> rfl

@[simp] theorem set_resume_paused_clears :
    (m.setResume port qIndex).paused = setCell m.paused port qIndex false := rfl

end Flags

namespace PfcInvariant

variable {s : PfcNode}

theorem do_switch_send (invariant : PfcInvariant s) {settings : Settings} {exp : ℚ → ℚ} {now : ℤ}
    {stats : Statistics} {inDev outDev qIndex : Nat} {size : UInt32} {next : PfcNode × Statistics}
    (sent : s.doSwitchSend settings exp now stats inDev outDev qIndex size = some next) :
    PfcInvariant next.1 := by
  have charged := (invariant.with_mmu ((s.node.mmu.updateIngressAdmission inDev qIndex
    size).updateEgressAdmission outDev qIndex size) fun _ _ held => by
      simpa only [update_egress_paused, update_ingress_paused] using held).check_and_send_pfc
    inDev qIndex
  rcases (PfcNode.do_switch_send_cases sent).2 with ⟨-, rfl⟩ | ⟨-, -, rfl⟩ | ⟨-, -, -, rfl⟩ |
    ⟨-, -, -, _, rfl, rfl⟩
  · exact invariant
  · exact invariant
  · exact invariant
  · exact charged.with_mmu _ fun _ _ held => by split at held <;> simpa using held

theorem release_and_resume (invariant : PfcInvariant s) (ifIndex qIndex inDev : Nat)
    (size : UInt32) : PfcInvariant (s.releaseAndResume ifIndex qIndex inDev size) := by
  by_cases through : inDev ≠ conweaveCtrlDummyIndev
  · simp only [PfcNode.releaseAndResume, if_pos through]
    exact (invariant.with_mmu _ fun _ _ held => by
      simpa only [remove_egress_paused, remove_ingress_paused] using held).check_and_send_resume
      inDev qIndex
  · simp only [PfcNode.releaseAndResume, if_neg through]
    exact invariant.with_mmu _ fun _ _ held => by simpa only [remove_egress_paused] using held

theorem switch_notify_dequeue (invariant : PfcInvariant s) (ifIndex qIndex inDev : Nat)
    (size : UInt32) : PfcInvariant (s.switchNotifyDequeue ifIndex qIndex inDev size) := by
  have released : PfcInvariant
      (if qIndex = 0 then s else s.releaseAndResume ifIndex qIndex inDev size) := by
    split
    · exact invariant
    · exact invariant.release_and_resume ifIndex qIndex inDev size
  exact ⟨released.ordered, released.pausedAfterPause⟩

theorem resume_timer (invariant : PfcInvariant s) (port qIndex : Nat) :
    PfcInvariant (s.resumeTimer port qIndex) :=
  invariant.with_mmu _ fun p q held => by
    simp only [set_resume_paused_clears, set_cell_apply] at held
    split at held
    · cases held
    · exact held

theorem step {settings : Settings} {exp : ℚ → ℚ} {before after : PfcNode × Statistics}
    (invariant : PfcInvariant before.1) (step : PfcStep settings exp before after) :
    PfcInvariant after.1 := by
  cases step with
  | send now inDev outDev qIndex size sent => exact invariant.do_switch_send sent
  | dequeue s stats ifIndex qIndex inDev size =>
    exact invariant.switch_notify_dequeue ifIndex qIndex inDev size
  | resumeTimer s stats port qIndex _ => exact invariant.resume_timer port qIndex

end PfcInvariant

theorem pfc_invariant_of_reachable {settings : Settings} {exp : ℚ → ℚ}
    {start s : PfcNode × Statistics} (initial : PfcInvariant start.1)
    (reach : PfcReachable settings exp start s) : PfcInvariant s.1 := by
  induction reach with
  | refl => exact initial
  | tail _ step invariant => exact invariant.step step

/-- From a state where no class is paused and no frame has been sent, whatever `m_pause_remote`
holds, every run sends a resume frame of a class only after a pause frame of it, with no resume
frame of it in between. -/
theorem resumes_follow_pauses_of_reachable {settings : Settings} {exp : ℚ → ℚ}
    {start s : PfcNode × Statistics}
    (unpaused : ∀ port qIndex, start.1.node.mmu.paused port qIndex = false)
    (silent : start.1.frames = []) (reach : PfcReachable settings exp start s) :
    ResumesFollowPauses s.1.frames :=
  have initial : PfcInvariant start.1 :=
    ⟨silent ▸ resumes_follow_nil, fun port qIndex held => by rw [unpaused] at held; cases held⟩
  (pfc_invariant_of_reachable initial reach).ordered

def zeroPfcNode : PfcNode := ⟨SwitchNode.construct 0 SwitchMmu.zeroSwitch, []⟩

theorem zero_node_dequeue_ordered :
    (∀ port qIndex, zeroPfcNode.node.mmu.paused port qIndex = false) ∧ zeroPfcNode.frames = [] ∧
      PfcReachable Settings.defaults (fun _ => 1) (zeroPfcNode, Statistics.zero)
        (zeroPfcNode.switchNotifyDequeue 2 3 1 1000, Statistics.zero) ∧
      ResumesFollowPauses (zeroPfcNode.switchNotifyDequeue 2 3 1 1000).frames :=
  have unpaused : ∀ port qIndex, zeroPfcNode.node.mmu.paused port qIndex = false := fun _ _ => rfl
  have reach : PfcReachable Settings.defaults (fun _ => 1) (zeroPfcNode, Statistics.zero)
      (zeroPfcNode.switchNotifyDequeue 2 3 1 1000, Statistics.zero) :=
    .tail .refl (.dequeue _ _ 2 3 1 1000)
  ⟨unpaused, rfl, reach, resumes_follow_pauses_of_reachable unpaused rfl reach⟩

/-- A node of id 0 over an allocation that left 1 in every cell of `paused` and `m_pause_remote`,
built with the attribute defaults, then static thresholds and a 10384-byte buffer over one active
port. -/
def staleFlagsNode : SwitchNode :=
  let node := SwitchNode.construct 0
    { SwitchMmu.zeroSwitch with paused := fun _ _ => true, pauseRemote := fun _ _ => true }
  { node with mmu := ((node.mmu.setDynamicThreshold false).configBufferSize 10384).setActivePortCnt 1 }

/-- The first packet that node admits, 1000 bytes from port 1 to port 2 on queue 3, makes
`CheckAndSendPfc(1, 3)` resume every class of port 1, none of which was ever paused. -/
theorem resume_without_pause :
    ∃ next, PfcReachable Settings.defaults (fun _ => 1) (⟨staleFlagsNode, []⟩, Statistics.zero) next ∧
      next.1.frames = (List.range qCnt).map (fun j => ⟨1, j, .resume⟩) ∧
      ¬ResumesFollowPauses next.1.frames := by
  have egress : staleFlagsNode.mmu.checkEgressAdmission 2 3 1000 = true :=
    (SwitchMmu.check_egress_true_iff_of_alpha_one rfl).mpr (by decide)
  have ingress : staleFlagsNode.mmu.checkIngressAdmission 1 3 1000 = true := by decide
  refine ⟨_, .tail .refl (.send 0 1 2 3 1000 (by
    simp only [PfcNode.doSwitchSend, egress, ingress]
    rfl)), by decide, ?_⟩
  exact not_resumes_follow_of_head_resume _ _ _

end ConWeaveSwitch
