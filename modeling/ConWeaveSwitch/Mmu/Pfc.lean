import ConWeaveSwitch.Mmu.Accounting

/-!
# PFC pause and resume decisions

`GetPauseClasses`, `GetResumeClasses`, `SetPause` and `SetResume`. In dynamic mode a class is
paused against the arrival queue's pool and headroom but resumed against its own, so for the
arrival class the two exclude each other (`pause_excludes_resume_same_queue`, and
`pause_excludes_resume_static` in static mode) while across two queues one `CheckAndSendPfc` can
pause and resume a class at once (`pause_and_resume_same_class`).
-/

namespace ConWeaveSwitch

set_option autoImplicit false

namespace SwitchMmu

/-- `GetPauseClasses(port, qIndex, pClasses)`, class `i` of `pClasses`. Dynamic mode: a class past
its guarantees is paused when its bytes beyond them exceed the threshold of the arrival queue's
pool, or when the arrival PG holds headroom. Static mode: the whole port past
`port_max_shared_cell`, else the arrival PG past `pg_shared_limit_cell`. -/
def getPauseClasses (m : SwitchMmu) (port qIndex i : Nat) : Bool :=
  decide (i < qCnt) &&
    if m.config.dynamicth then
      !decide (m.ingress.usedIngressPGBytes port i ≤ m.config.pgMinCell + m.config.portMinCell) &&
        (decide (((m.ingress.usedIngressPGBytes port i).toNat : ℚ) - m.config.pgMinCell.toNat -
              m.config.portMinCell.toNat >
            m.config.pgSharedAlphaCell *
              ((m.config.bufferCellLimitSp.toNat : ℚ) -
                (m.ingress.usedIngressSPBytes (getIngressSP port qIndex)).toNat)) ||
          m.ingress.usedIngressPGHeadroomBytes port qIndex != 0)
    else
      decide (m.ingress.usedIngressPortBytes port > m.config.portMaxSharedCell) ||
        (i == qIndex && decide (m.ingress.usedIngressPGBytes port qIndex > m.config.pgSharedLimitCell))

def getPauseClassesErrors (m : SwitchMmu) (port : Nat) : List String :=
  if port > m.config.activePortCnt.toNat then ["ERROR: port is " ++ toString port] else []

/-- `GetResumeClasses(port, qIndex)`: a paused class resumes once its bytes beyond the guarantees
are `off_diff` below the threshold of its own pool and its headroom is empty (dynamic mode), or once
it and its port are below the `_off` limits (static mode). -/
def getResumeClasses (m : SwitchMmu) (port qIndex : Nat) : Bool :=
  m.paused port qIndex &&
    if m.config.dynamicth then
      decide (((m.ingress.usedIngressPGBytes port qIndex).toNat : ℚ) - m.config.pgMinCell.toNat -
            m.config.portMinCell.toNat <
          m.config.pgSharedAlphaCell *
            ((m.config.bufferCellLimitSp.toNat : ℚ) -
              (m.ingress.usedIngressSPBytes (getIngressSP port qIndex)).toNat -
              m.config.pgSharedAlphaCellOffDiff)) &&
        m.ingress.usedIngressPGHeadroomBytes port qIndex == 0
    else
      decide (m.ingress.usedIngressPGBytes port qIndex < m.config.pgSharedLimitCellOff) &&
        decide (m.ingress.usedIngressPortBytes port < m.config.portMinCellOff)

def setPause (m : SwitchMmu) (port qIndex : Nat) : SwitchMmu :=
  { m with
    paused := setCell m.paused port qIndex true
    resumeEvt := setCell m.resumeEvt port qIndex true }

def setResume (m : SwitchMmu) (port qIndex : Nat) : SwitchMmu :=
  { m with
    paused := setCell m.paused port qIndex false
    resumeEvt := setCell m.resumeEvt port qIndex false }

section Frames

variable (m : SwitchMmu) (port qIndex : Nat)

@[simp] theorem set_pause_ingress : (m.setPause port qIndex).ingress = m.ingress := rfl

@[simp] theorem set_pause_config : (m.setPause port qIndex).config = m.config := rfl

@[simp] theorem set_pause_paused : (m.setPause port qIndex).paused port qIndex = true := by
  simp [setPause]

end Frames

theorem paused_of_get_resume_classes {m : SwitchMmu} {port qIndex : Nat}
    (resume : m.getResumeClasses port qIndex = true) : m.paused port qIndex = true :=
  (Bool.and_eq_true _ _ ▸ resume).1

theorem get_pause_classes_of_headroom {m : SwitchMmu} {port qIndex i : Nat}
    (dynamic : m.config.dynamicth = true) (inArray : i < qCnt)
    (pastGuarantees : ¬m.ingress.usedIngressPGBytes port i ≤ m.config.pgMinCell + m.config.portMinCell)
    (headroom : m.ingress.usedIngressPGHeadroomBytes port qIndex ≠ 0) :
    m.getPauseClasses port qIndex i = true := by
  simp [getPauseClasses, dynamic, inArray, pastGuarantees, headroom]

theorem get_resume_classes_dynamic {m : SwitchMmu} {port qIndex : Nat}
    (dynamic : m.config.dynamicth = true) :
    m.getResumeClasses port qIndex = true ↔
      m.paused port qIndex = true ∧
        ((m.ingress.usedIngressPGBytes port qIndex).toNat : ℚ) - m.config.pgMinCell.toNat -
            m.config.portMinCell.toNat <
          m.config.pgSharedAlphaCell *
            ((m.config.bufferCellLimitSp.toNat : ℚ) -
              (m.ingress.usedIngressSPBytes (getIngressSP port qIndex)).toNat -
              m.config.pgSharedAlphaCellOffDiff) ∧
        m.ingress.usedIngressPGHeadroomBytes port qIndex = 0 := by
  simp [getResumeClasses, dynamic]

end SwitchMmu

def pfcSwitch : SwitchMmu :=
  (((SwitchMmu.construct SwitchMmu.zeroSwitch).configBufferSize 15384).setActivePortCnt 1).setPgHdrmLimit
    2000

def pgTwoPacket : QueuedPacket := ⟨1, 5, 2, 1050⟩

def otherPortPacket : QueuedPacket := ⟨2, 6, 3, 1250⟩

def pgThreePacket : QueuedPacket := ⟨1, 7, 3, 1000⟩

/-- Port 1 fills PG 2 with 2100 bytes, port 2 brings pool 0 to 4600 bytes, and a 1000-byte packet
on PG 3 of port 1 crosses `buffer_cell_limit_sp`, charged to the headroom of `(1, 3)`. Port 2
drains, and one more 1000-byte packet arrives on `(1, 3)`. -/
def pfcConflictState : SwitchMmu :=
  ((((((((pfcSwitch.initSwitch.admitPacket pgTwoPacket).admitPacket pgTwoPacket).admitPacket
    otherPortPacket).admitPacket otherPortPacket).admitPacket pgThreePacket).release
    otherPortPacket).release otherPortPacket).admitPacket pgThreePacket)

/-- After that run, `GetPauseClasses(1, 3)` marks class 2, because PG 3 holds headroom, and after
`SetPause(1, 2)` `GetResumeClasses(1, 2)` holds, because PG 2 is far below the threshold of its own
pool and holds no headroom: `CheckAndSendPfc(1, 3)` sends a pause and a resume frame for `(1, 2)`. -/
theorem pause_and_resume_same_class :
    BufferReachable (fun _ => True) pfcSwitch
        (pfcConflictState, [pgThreePacket, pgThreePacket, pgTwoPacket, pgTwoPacket]) ∧
      pfcConflictState.getPauseClasses 1 3 2 = true ∧
      (pfcConflictState.setPause 1 2).getResumeClasses 1 2 = true := by
  refine ⟨?_, ?_, ?_⟩
  · exact .tail (.tail (.tail (.tail (.tail (.tail (.tail (.tail .refl
      (.enqueue (by decide) trivial ((SwitchMmu.admits_iff_of_alpha_one rfl).mpr (by decide))))
      (.enqueue (by decide) trivial ((SwitchMmu.admits_iff_of_alpha_one rfl).mpr (by decide))))
      (.enqueue (by decide) trivial ((SwitchMmu.admits_iff_of_alpha_one rfl).mpr (by decide))))
      (.enqueue (by decide) trivial ((SwitchMmu.admits_iff_of_alpha_one rfl).mpr (by decide))))
      (.enqueue (by decide) trivial ((SwitchMmu.admits_iff_of_alpha_one rfl).mpr (by decide))))
      (.dequeue (by decide))) (.dequeue (by decide)))
      (.enqueue (by decide) trivial ((SwitchMmu.admits_iff_of_alpha_one rfl).mpr (by decide)))
  · exact SwitchMmu.get_pause_classes_of_headroom rfl (by decide) (by decide) (by decide)
  · have pg : (pfcConflictState.ingress.usedIngressPGBytes 1 2).toNat = 2100 := by decide
    have sp : (pfcConflictState.ingress.usedIngressSPBytes (getIngressSP 1 2)).toNat = 4100 := by
      decide
    have limit : pfcConflictState.config.bufferCellLimitSp.toNat = 5000 := by decide
    have guarantee : pfcConflictState.config.pgMinCell.toNat = 1048 := by decide
    have portGuarantee : pfcConflictState.config.portMinCell.toNat = 1048 := by decide
    have alpha : pfcConflictState.config.pgSharedAlphaCell = 1 / 16 := rfl
    have offDiff : pfcConflictState.config.pgSharedAlphaCellOffDiff = 16 := rfl
    rw [SwitchMmu.get_resume_classes_dynamic rfl]
    simp only [SwitchMmu.set_pause_paused, SwitchMmu.set_pause_ingress, SwitchMmu.set_pause_config,
      pg, sp, limit, guarantee, portGuarantee, alpha, offDiff]
    exact ⟨trivial, by norm_num, by decide⟩

namespace SwitchMmu

theorem resume_threshold_le_pause {alpha offDiff : ℚ} (limit used : ℚ) (alphaNonneg : 0 ≤ alpha)
    (offDiffNonneg : 0 ≤ offDiff) : alpha * (limit - used - offDiff) ≤ alpha * (limit - used) :=
  mul_le_mul_of_nonneg_left (by linarith) alphaNonneg

/-- In dynamic mode, with a nonnegative alpha and `off_diff`, `CheckAndSendPfc(port, qIndex)`
never pauses and resumes the arrival class `qIndex` itself. -/
theorem pause_excludes_resume_same_queue {m : SwitchMmu} {port qIndex : Nat}
    (dynamic : m.config.dynamicth = true) (alphaNonneg : 0 ≤ m.config.pgSharedAlphaCell)
    (offDiffNonneg : 0 ≤ m.config.pgSharedAlphaCellOffDiff)
    (pause : m.getPauseClasses port qIndex qIndex = true) :
    (m.setPause port qIndex).getResumeClasses port qIndex = false := by
  have below := resume_threshold_le_pause (m.config.bufferCellLimitSp.toNat : ℚ)
    ((m.ingress.usedIngressSPBytes (getIngressSP port qIndex)).toNat : ℚ) alphaNonneg offDiffNonneg
  simp only [getPauseClasses, dynamic, if_true, Bool.and_eq_true, Bool.or_eq_true,
    decide_eq_true_eq, Bool.not_eq_true', decide_eq_false_iff_not, bne_iff_ne, ne_eq] at pause
  simp only [getResumeClasses, set_pause_paused, set_pause_ingress, set_pause_config, dynamic,
    if_true, Bool.true_and, Bool.and_eq_false_iff, decide_eq_false_iff_not, not_lt,
    beq_eq_false_iff_ne, ne_eq]
  rcases pause with ⟨-, -, above | headroom⟩
  · exact Or.inl (by linarith only [above, below])
  · exact Or.inr headroom

end SwitchMmu

def pgThreeHeadroomState : SwitchMmu := pfcConflictState.admitPacket pgThreePacket

theorem pg_three_paused_not_resumed :
    pgThreeHeadroomState.config.dynamicth = true ∧ 0 ≤ pgThreeHeadroomState.config.pgSharedAlphaCell ∧
      0 ≤ pgThreeHeadroomState.config.pgSharedAlphaCellOffDiff ∧
      pgThreeHeadroomState.getPauseClasses 1 3 3 = true ∧
      (pgThreeHeadroomState.setPause 1 3).getResumeClasses 1 3 = false :=
  have dynamic : pgThreeHeadroomState.config.dynamicth = true := rfl
  have alphaNonneg : 0 ≤ pgThreeHeadroomState.config.pgSharedAlphaCell := by
    rw [show pgThreeHeadroomState.config.pgSharedAlphaCell = 1 / 16 from rfl]
    norm_num
  have offDiffNonneg : 0 ≤ pgThreeHeadroomState.config.pgSharedAlphaCellOffDiff := by
    rw [show pgThreeHeadroomState.config.pgSharedAlphaCellOffDiff = 16 from rfl]
    norm_num
  have pause : pgThreeHeadroomState.getPauseClasses 1 3 3 = true :=
    SwitchMmu.get_pause_classes_of_headroom dynamic (by decide) (by decide) (by decide)
  ⟨dynamic, alphaNonneg, offDiffNonneg, pause,
    SwitchMmu.pause_excludes_resume_same_queue dynamic alphaNonneg offDiffNonneg pause⟩

namespace SwitchMmu

/-- In static mode under the limits `InitSwitch` derives, a class `GetPauseClasses` pauses is
not resumed by `GetResumeClasses`: the `_off` limits sit below the pause limits. -/
theorem pause_excludes_resume_static {c : MmuConfig} {m : SwitchMmu} {port qIndex i : Nat}
    (initialized : m.config = c.initSwitch) (static : c.dynamicth = false)
    (pause : m.getPauseClasses port qIndex i = true) :
    (m.setPause port i).getResumeClasses port i = false := by
  have staticM : m.config.dynamicth = false := by rw [initialized]; exact static
  have limits : m.config.portMaxSharedCell = 4800 * mtu ∧ m.config.portMinCellOff = 4700 * mtu ∧
      m.config.pgSharedLimitCell = 20 * mtu ∧ m.config.pgSharedLimitCellOff = 20 * mtu - 2 * mtu := by
    simp [initialized, MmuConfig.initSwitch, static]
  obtain ⟨portMax, portOff, pgMax, pgOff⟩ := limits
  simp only [getPauseClasses, staticM, Bool.false_eq_true, if_false, Bool.and_eq_true,
    Bool.or_eq_true, decide_eq_true_eq, beq_iff_eq] at pause
  simp only [getResumeClasses, set_pause_paused, set_pause_ingress, set_pause_config, staticM,
    Bool.false_eq_true, if_false, Bool.true_and, Bool.and_eq_false_iff, decide_eq_false_iff_not,
    UInt32.not_lt]
  rw [portMax] at pause
  rw [portOff, pgOff]
  rcases pause.2 with portFull | ⟨rfl, pgFull⟩
  · right
    exact le_trans (by decide) ((u32_lt_iff _ _).mp portFull).le
  · left
    rw [pgMax] at pgFull
    exact le_trans (by decide) ((u32_lt_iff _ _).mp pgFull).le

end SwitchMmu

def staticFullState : SwitchMmu :=
  { SwitchMmu.zeroSwitch with
    config := SwitchMmu.zeroSwitch.config.initSwitch
    ingress := { IngressUsage.zero with usedIngressPGBytes := fun _ _ => 30000 } }

theorem static_full_not_resumed :
    staticFullState.config = SwitchMmu.zeroSwitch.config.initSwitch ∧
      SwitchMmu.zeroSwitch.config.dynamicth = false ∧ staticFullState.getPauseClasses 1 3 3 = true ∧
      (staticFullState.setPause 1 3).getResumeClasses 1 3 = false :=
  have pause : staticFullState.getPauseClasses 1 3 3 = true := by decide
  ⟨rfl, rfl, pause, SwitchMmu.pause_excludes_resume_static rfl rfl pause⟩

end ConWeaveSwitch
