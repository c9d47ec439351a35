import ConWeaveSwitch.Mmu.State

/-!
# Buffer admission, accounting and removal

The admission checks, updates and removals of `SwitchMmu`, statement by statement over `uint32_t`
counters that wrap as in the source. The `NS_ASSERT`s on the alphas are compiled out of optimized
builds, so the results hold for every alpha; the removals' diagnostics are companion functions.
-/

namespace ConWeaveSwitch

set_option autoImplicit false

namespace SwitchMmu

/-- `CheckIngressAdmission`: drop when the buffer is full, or when the packet is beyond both
guarantees, the service pool was already past its limit, and the PG headroom has no room. -/
def checkIngressAdmission (m : SwitchMmu) (port qIndex : Nat) (psize : UInt32) : Bool :=
  if m.ingress.usedTotalBytes + psize > m.config.maxBufferBytes then false
  else if m.ingress.usedIngressPGBytes port qIndex + psize > m.config.pgMinCell ∧
      m.ingress.usedIngressPortBytes port + psize > m.config.portMinCell then
    if m.ingress.usedIngressSPBytes (getIngressSP port qIndex) > m.config.bufferCellLimitSp then
      if m.ingress.usedIngressPGHeadroomBytes port qIndex + psize > m.config.pgHdrmLimit port then
        false
      else true
    else true
  else true

def checkEgressAdmission (m : SwitchMmu) (port qIndex : Nat) (psize : UInt32) : Bool :=
  let sp := getEgressSP port qIndex
  if m.egress.usedEgressSPBytes sp + psize > m.config.opBufferSharedLimitCell then false
  else if m.egress.usedEgressPortBytes port + psize > m.config.opUcPortConfigCell then false
  else if m.egress.usedEgressQSharedBytes port qIndex + psize > m.config.opUcPortConfig1Cell then
    false
  else
    !decide (((m.egress.usedEgressQSharedBytes port qIndex).toNat : ℚ) + psize.toNat >
      m.config.pgSharedAlphaCellEgress *
        ((m.config.opBufferSharedLimitCell.toNat : ℚ) - (m.egress.usedEgressSPBytes sp).toNat))

section Checks

variable {m : SwitchMmu} {port qIndex : Nat} {psize : UInt32}

theorem check_ingress_true_iff :
    m.checkIngressAdmission port qIndex psize = true ↔
      m.ingress.usedTotalBytes + psize ≤ m.config.maxBufferBytes ∧
      (m.ingress.usedIngressPGBytes port qIndex + psize > m.config.pgMinCell →
        m.ingress.usedIngressPortBytes port + psize > m.config.portMinCell →
        m.ingress.usedIngressSPBytes (getIngressSP port qIndex) > m.config.bufferCellLimitSp →
        m.ingress.usedIngressPGHeadroomBytes port qIndex + psize ≤ m.config.pgHdrmLimit port) := by
  dsimp only [checkIngressAdmission]
  split_ifs with full beyond pool headroom
  · exact iff_of_false not_false fun ⟨room, _⟩ => UInt32.not_lt.mpr room full
  · exact iff_of_false not_false fun ⟨_, fits⟩ =>
      UInt32.not_le.mpr headroom (fits beyond.1 beyond.2 pool)
  · exact iff_of_true rfl ⟨UInt32.not_lt.mp full, fun _ _ _ => UInt32.not_lt.mp headroom⟩
  · exact iff_of_true rfl ⟨UInt32.not_lt.mp full, fun _ _ over => absurd over pool⟩
  · exact iff_of_true rfl ⟨UInt32.not_lt.mp full, fun pg portOver _ => absurd ⟨pg, portOver⟩ beyond⟩

theorem check_egress_true_iff :
    m.checkEgressAdmission port qIndex psize = true ↔
      m.egress.usedEgressSPBytes (getEgressSP port qIndex) + psize ≤ m.config.opBufferSharedLimitCell ∧
      m.egress.usedEgressPortBytes port + psize ≤ m.config.opUcPortConfigCell ∧
      m.egress.usedEgressQSharedBytes port qIndex + psize ≤ m.config.opUcPortConfig1Cell ∧
      ((m.egress.usedEgressQSharedBytes port qIndex).toNat : ℚ) + psize.toNat ≤
        m.config.pgSharedAlphaCellEgress *
          ((m.config.opBufferSharedLimitCell.toNat : ℚ) -
            (m.egress.usedEgressSPBytes (getEgressSP port qIndex)).toNat) := by
  dsimp only [checkEgressAdmission]
  split_ifs with poolOver portOver queueOver
  · exact iff_of_false not_false fun ⟨fits, _⟩ => UInt32.not_lt.mpr fits poolOver
  · exact iff_of_false not_false fun ⟨_, fits, _⟩ => UInt32.not_lt.mpr fits portOver
  · exact iff_of_false not_false fun ⟨_, _, fits, _⟩ => UInt32.not_lt.mpr fits queueOver
  · rw [Bool.not_eq_true', decide_eq_false_iff_not, not_lt]
    exact ⟨fun under => ⟨UInt32.not_lt.mp poolOver, UInt32.not_lt.mp portOver,
      UInt32.not_lt.mp queueOver, under⟩, fun limits => limits.2.2.2⟩

theorem check_egress_true_iff_of_alpha_one (alpha : m.config.pgSharedAlphaCellEgress = 1) :
    m.checkEgressAdmission port qIndex psize = true ↔
      m.egress.usedEgressSPBytes (getEgressSP port qIndex) + psize ≤ m.config.opBufferSharedLimitCell ∧
      m.egress.usedEgressPortBytes port + psize ≤ m.config.opUcPortConfigCell ∧
      m.egress.usedEgressQSharedBytes port qIndex + psize ≤ m.config.opUcPortConfig1Cell ∧
      (m.egress.usedEgressQSharedBytes port qIndex).toNat + psize.toNat +
          (m.egress.usedEgressSPBytes (getEgressSP port qIndex)).toNat ≤
        m.config.opBufferSharedLimitCell.toNat := by
  rw [check_egress_true_iff, alpha, one_mul, le_sub_iff_add_le]
  norm_cast

end Checks

def updateIngressAdmission (m : SwitchMmu) (port qIndex : Nat) (psize : UInt32) : SwitchMmu :=
  let sp := getIngressSP port qIndex
  let spBytes := m.ingress.usedIngressSPBytes sp + psize
  let u := m.ingress
  { m with ingress :=
    { u with
      usedTotalBytes := u.usedTotalBytes + psize
      usedIngressSPBytes := Function.update u.usedIngressSPBytes sp spBytes
      usedIngressPortBytes :=
        Function.update u.usedIngressPortBytes port (u.usedIngressPortBytes port + psize)
      usedIngressPGBytes :=
        setCell u.usedIngressPGBytes port qIndex (u.usedIngressPGBytes port qIndex + psize)
      usedIngressPGHeadroomBytes :=
        if spBytes > m.config.bufferCellLimitSp then
          setCell u.usedIngressPGHeadroomBytes port qIndex
            (u.usedIngressPGHeadroomBytes port qIndex + psize)
        else u.usedIngressPGHeadroomBytes } }

def updateEgressAdmission (m : SwitchMmu) (port qIndex : Nat) (psize : UInt32) : SwitchMmu :=
  let u := m.egress
  let qMin := u.usedEgressQMinBytes port qIndex
  let shared := u.usedEgressQSharedBytes port qIndex
  let sp := getEgressSP port qIndex
  let portBytes := Function.update u.usedEgressPortBytes port (u.usedEgressPortBytes port + psize)
  { m with egress :=
    if qMin + psize < m.config.qMinCell then
      { u with
        usedEgressQMinBytes := setCell u.usedEgressQMinBytes port qIndex (qMin + psize)
        usedEgressPortBytes := portBytes }
    else if qMin ≠ m.config.qMinCell then
      { u with
        usedEgressQSharedBytes := setCell u.usedEgressQSharedBytes port qIndex
          (shared + psize + qMin - m.config.qMinCell)
        usedEgressPortBytes := portBytes
        usedEgressSPBytes := Function.update u.usedEgressSPBytes sp
          (u.usedEgressSPBytes sp + psize + qMin - m.config.qMinCell)
        usedEgressQMinBytes := setCell u.usedEgressQMinBytes port qIndex m.config.qMinCell }
    else
      { u with
        usedEgressQSharedBytes := setCell u.usedEgressQSharedBytes port qIndex (shared + psize)
        usedEgressPortBytes := portBytes
        usedEgressSPBytes := Function.update u.usedEgressSPBytes sp (u.usedEgressSPBytes sp + psize) } }

/-- The "Illegal Remove" guard of `RemoveFromIngressAdmission`: a counter below the packet size
is first raised to it, so the subtraction that follows leaves zero. -/
def raiseTo (counter psize : UInt32) : UInt32 := if counter < psize then psize else counter

theorem raise_to_of_le {counter psize : UInt32} (holds : psize.toNat ≤ counter.toNat) :
    raiseTo counter psize = counter :=
  if_neg (Nat.not_lt.mpr holds)

@[simp] theorem raise_to_raise_to (counter psize : UInt32) :
    raiseTo (raiseTo counter psize) psize = raiseTo counter psize := by
  unfold raiseTo
  split_ifs with below <;> simp only [UInt32.lt_irrefl, if_false, below, if_true]

/-- `RemoveFromIngressAdmission`. The pool counter is guarded twice, as in the source; the
headroom test `(double)headroom - psize > 0` is exact on rationals. -/
def removeFromIngressAdmission (m : SwitchMmu) (port qIndex : Nat) (psize : UInt32) : SwitchMmu :=
  let u := m.ingress
  let sp := getIngressSP port qIndex
  let headroom := u.usedIngressPGHeadroomBytes port qIndex
  { m with ingress :=
    { u with
      usedTotalBytes := raiseTo u.usedTotalBytes psize - psize
      usedIngressSPBytes := Function.update u.usedIngressSPBytes sp
        (raiseTo (raiseTo (u.usedIngressSPBytes sp) psize) psize - psize)
      usedIngressPortBytes := Function.update u.usedIngressPortBytes port
        (raiseTo (u.usedIngressPortBytes port) psize - psize)
      usedIngressPGBytes := setCell u.usedIngressPGBytes port qIndex
        (raiseTo (u.usedIngressPGBytes port qIndex) psize - psize)
      usedIngressPGHeadroomBytes := setCell u.usedIngressPGHeadroomBytes port qIndex
        (if (headroom.toNat : ℚ) - psize.toNat > 0 then headroom - psize else 0) } }

def removeFromIngressAdmissionWarnings (m : SwitchMmu) (port qIndex : Nat) (psize : UInt32) :
    List String :=
  let u := m.ingress
  let sp := u.usedIngressSPBytes (getIngressSP port qIndex)
  [decide (u.usedTotalBytes < psize), decide (sp < psize), decide (raiseTo sp psize < psize),
      decide (u.usedIngressPortBytes port < psize),
      decide (u.usedIngressPGBytes port qIndex < psize)].filterMap
    fun fires => if fires then some "Warning : Illegal Remove" else none

/-- `RemoveFromEgressAdmission`: the mirror of the three update branches. Its guards only print
"STOP overflow"; the subtractions are not clamped. -/
def removeFromEgressAdmission (m : SwitchMmu) (port qIndex : Nat) (psize : UInt32) : SwitchMmu :=
  let u := m.egress
  let qMin := u.usedEgressQMinBytes port qIndex
  let shared := u.usedEgressQSharedBytes port qIndex
  let sp := getEgressSP port qIndex
  let portBytes := Function.update u.usedEgressPortBytes port (u.usedEgressPortBytes port - psize)
  { m with egress :=
    if qMin < m.config.qMinCell then
      { u with
        usedEgressQMinBytes := setCell u.usedEgressQMinBytes port qIndex (qMin - psize)
        usedEgressPortBytes := portBytes }
    else if qMin = m.config.qMinCell ∧ shared < psize then
      { u with
        usedEgressQMinBytes := setCell u.usedEgressQMinBytes port qIndex (qMin + shared - psize)
        usedEgressSPBytes := Function.update u.usedEgressSPBytes sp (u.usedEgressSPBytes sp - shared)
        usedEgressQSharedBytes := setCell u.usedEgressQSharedBytes port qIndex 0
        usedEgressPortBytes := portBytes }
    else
      { u with
        usedEgressQSharedBytes := setCell u.usedEgressQSharedBytes port qIndex (shared - psize)
        usedEgressPortBytes := portBytes
        usedEgressSPBytes := Function.update u.usedEgressSPBytes sp (u.usedEgressSPBytes sp - psize) } }

def removeFromEgressAdmissionWarnings (m : SwitchMmu) (port qIndex : Nat) (psize : UInt32) :
    List String :=
  let u := m.egress
  let qMin := u.usedEgressQMinBytes port qIndex
  let shared := u.usedEgressQSharedBytes port qIndex
  let overflow :=
    if qMin < m.config.qMinCell then qMin < psize
    else if qMin = m.config.qMinCell ∧ shared < psize then u.usedEgressPortBytes port < psize
    else shared < psize ∨ u.usedEgressPortBytes port < psize ∨
      u.usedEgressSPBytes (getEgressSP port qIndex) < psize
  if overflow then ["STOP overflow"] else []

variable (m : SwitchMmu) (port qIndex : Nat) (psize : UInt32)

@[simp] theorem update_ingress_egress : (m.updateIngressAdmission port qIndex psize).egress = m.egress :=
  rfl

@[simp] theorem update_ingress_config : (m.updateIngressAdmission port qIndex psize).config = m.config :=
  rfl

@[simp] theorem update_egress_ingress : (m.updateEgressAdmission port qIndex psize).ingress = m.ingress :=
  rfl

@[simp] theorem update_egress_config : (m.updateEgressAdmission port qIndex psize).config = m.config :=
  rfl

@[simp] theorem remove_ingress_egress :
    (m.removeFromIngressAdmission port qIndex psize).egress = m.egress := rfl

@[simp] theorem remove_ingress_config :
    (m.removeFromIngressAdmission port qIndex psize).config = m.config := rfl

@[simp] theorem remove_egress_ingress :
    (m.removeFromEgressAdmission port qIndex psize).ingress = m.ingress := rfl

@[simp] theorem remove_egress_config :
    (m.removeFromEgressAdmission port qIndex psize).config = m.config := rfl

end SwitchMmu

theorem u32_add_toNat_le_of_no_wrap {a s s' : UInt32} (le : s.toNat ≤ s'.toNat)
    (room : a.toNat + s'.toNat < 2 ^ 32) : (a + s).toNat ≤ (a + s').toNat := by
  rw [u32_toNat_add_of_lt (by omega), u32_toNat_add_of_lt room]
  omega

/-- For sizes `s ≤ s'` whose sums with the counters the checks add them to do not wrap, each check
that refuses `s` refuses `s'`. -/
theorem admission_antitone_of_no_wrap {m : SwitchMmu} {port qIndex : Nat} {s s' : UInt32}
    (le : s ≤ s')
    (ingressRoom : m.ingress.usedTotalBytes.toNat + s'.toNat < 2 ^ 32 ∧
      (m.ingress.usedIngressPGBytes port qIndex).toNat + s'.toNat < 2 ^ 32 ∧
      (m.ingress.usedIngressPortBytes port).toNat + s'.toNat < 2 ^ 32 ∧
      (m.ingress.usedIngressPGHeadroomBytes port qIndex).toNat + s'.toNat < 2 ^ 32)
    (egressRoom : (m.egress.usedEgressSPBytes (getEgressSP port qIndex)).toNat + s'.toNat < 2 ^ 32 ∧
      (m.egress.usedEgressPortBytes port).toNat + s'.toNat < 2 ^ 32 ∧
      (m.egress.usedEgressQSharedBytes port qIndex).toNat + s'.toNat < 2 ^ 32) :
    (m.checkIngressAdmission port qIndex s = false → m.checkIngressAdmission port qIndex s' = false) ∧
      (m.checkEgressAdmission port qIndex s = false →
        m.checkEgressAdmission port qIndex s' = false) := by
  obtain ⟨totalRoom, pgRoom, portRoom, headroomRoom⟩ := ingressRoom
  obtain ⟨spRoom, egressPortRoom, sharedRoom⟩ := egressRoom
  have sizeLe : (s.toNat : ℚ) ≤ s'.toNat := by exact_mod_cast le
  constructor
  · intro refused
    rw [← Bool.not_eq_true, SwitchMmu.check_ingress_true_iff] at refused ⊢
    rintro ⟨room, fits⟩
    refine refused ⟨Nat.le_trans (u32_add_toNat_le_of_no_wrap le totalRoom) room,
      fun pg portOver pool => Nat.le_trans (u32_add_toNat_le_of_no_wrap le headroomRoom) ?_⟩
    exact fits (Nat.lt_of_lt_of_le pg (u32_add_toNat_le_of_no_wrap le pgRoom))
      (Nat.lt_of_lt_of_le portOver (u32_add_toNat_le_of_no_wrap le portRoom)) pool
  · intro refused
    rw [← Bool.not_eq_true, SwitchMmu.check_egress_true_iff] at refused ⊢
    rintro ⟨poolFits, portFits, queueFits, under⟩
    exact refused ⟨Nat.le_trans (u32_add_toNat_le_of_no_wrap le spRoom) poolFits,
      Nat.le_trans (u32_add_toNat_le_of_no_wrap le egressPortRoom) portFits,
      Nat.le_trans (u32_add_toNat_le_of_no_wrap le sharedRoom) queueFits,
      le_trans (add_le_add_left sizeLe _) under⟩

def queuedKilobyte : SwitchMmu :=
  (SwitchMmu.construct SwitchMmu.zeroSwitch).updateIngressAdmission 1 3 1000

theorem queued_kilobyte_antitone :
    (4500000 : UInt32) ≤ 4500001 ∧
      (queuedKilobyte.ingress.usedTotalBytes.toNat + (4500001 : UInt32).toNat < 2 ^ 32 ∧
        (queuedKilobyte.ingress.usedIngressPGBytes 1 3).toNat + (4500001 : UInt32).toNat < 2 ^ 32 ∧
        (queuedKilobyte.ingress.usedIngressPortBytes 1).toNat + (4500001 : UInt32).toNat < 2 ^ 32 ∧
        (queuedKilobyte.ingress.usedIngressPGHeadroomBytes 1 3).toNat + (4500001 : UInt32).toNat <
          2 ^ 32) ∧
      ((queuedKilobyte.egress.usedEgressSPBytes (getEgressSP 1 3)).toNat + (4500001 : UInt32).toNat <
          2 ^ 32 ∧
        (queuedKilobyte.egress.usedEgressPortBytes 1).toNat + (4500001 : UInt32).toNat < 2 ^ 32 ∧
        (queuedKilobyte.egress.usedEgressQSharedBytes 1 3).toNat + (4500001 : UInt32).toNat < 2 ^ 32) ∧
      ((queuedKilobyte.checkIngressAdmission 1 3 4500000 = false →
          queuedKilobyte.checkIngressAdmission 1 3 4500001 = false) ∧
        (queuedKilobyte.checkEgressAdmission 1 3 4500000 = false →
          queuedKilobyte.checkEgressAdmission 1 3 4500001 = false)) :=
  have ingressRoom : queuedKilobyte.ingress.usedTotalBytes.toNat + (4500001 : UInt32).toNat < 2 ^ 32 ∧
      (queuedKilobyte.ingress.usedIngressPGBytes 1 3).toNat + (4500001 : UInt32).toNat < 2 ^ 32 ∧
      (queuedKilobyte.ingress.usedIngressPortBytes 1).toNat + (4500001 : UInt32).toNat < 2 ^ 32 ∧
      (queuedKilobyte.ingress.usedIngressPGHeadroomBytes 1 3).toNat + (4500001 : UInt32).toNat <
        2 ^ 32 := by decide
  have egressRoom :
      (queuedKilobyte.egress.usedEgressSPBytes (getEgressSP 1 3)).toNat + (4500001 : UInt32).toNat <
          2 ^ 32 ∧
        (queuedKilobyte.egress.usedEgressPortBytes 1).toNat + (4500001 : UInt32).toNat < 2 ^ 32 ∧
        (queuedKilobyte.egress.usedEgressQSharedBytes 1 3).toNat + (4500001 : UInt32).toNat < 2 ^ 32 := by
    decide
  ⟨by decide, ingressRoom, egressRoom,
    admission_antitone_of_no_wrap (by decide) ingressRoom egressRoom⟩

/-- On `queuedKilobyte` a packet of 4500000 bytes is refused, the buffer of 4500000 bytes holding
1000 already, while one of `2^32 − 1000` bytes is admitted: its sum with the total wraps to 0, and
its sum with the PG counter, also 0, is within the guarantee. -/
theorem larger_packet_admitted_after_wrap :
    (4500000 : UInt32) ≤ 4294966296 ∧ queuedKilobyte.checkIngressAdmission 1 3 4500000 = false ∧
      queuedKilobyte.checkIngressAdmission 1 3 4294966296 = true := by
  decide

theorem raise_to_sub_toNat (counter psize : UInt32) :
    (SwitchMmu.raiseTo counter psize - psize).toNat = counter.toNat - psize.toNat := by
  unfold SwitchMmu.raiseTo
  split_ifs with below
  · rw [u32_lt_iff] at below
    rw [u32_toNat_sub_of_le le_rfl]
    omega
  · rw [u32_lt_iff] at below
    exact u32_toNat_sub_of_le (by omega)

theorem headroom_sub_toNat (headroom psize : UInt32) :
    (if (headroom.toNat : ℚ) - psize.toNat > 0 then headroom - psize else 0).toNat =
      headroom.toNat - psize.toNat := by
  split_ifs with above
  · have below : (psize.toNat : ℚ) ≤ headroom.toNat := by linarith
    exact u32_toNat_sub_of_le (by exact_mod_cast below)
  · have below : (headroom.toNat : ℚ) ≤ psize.toNat := by linarith
    have below' : headroom.toNat ≤ psize.toNat := by exact_mod_cast below
    rw [u32_toNat_zero]
    omega

/-- Every counter `RemoveFromIngressAdmission` touches loses the packet size, stopping at zero,
and every other counter keeps its value: no counter grows or wraps. A removal past a guarded
counter logs "Warning : Illegal Remove". -/
theorem remove_ingress_saturates (m : SwitchMmu) (port qIndex : Nat) (psize : UInt32) :
    (m.removeFromIngressAdmission port qIndex psize).ingress.usedTotalBytes.toNat =
        m.ingress.usedTotalBytes.toNat - psize.toNat ∧
      (∀ sp, ((m.removeFromIngressAdmission port qIndex psize).ingress.usedIngressSPBytes sp).toNat =
        if sp = getIngressSP port qIndex then (m.ingress.usedIngressSPBytes sp).toNat - psize.toNat
        else (m.ingress.usedIngressSPBytes sp).toNat) ∧
      (∀ p, ((m.removeFromIngressAdmission port qIndex psize).ingress.usedIngressPortBytes p).toNat =
        if p = port then (m.ingress.usedIngressPortBytes p).toNat - psize.toNat
        else (m.ingress.usedIngressPortBytes p).toNat) ∧
      (∀ p q, ((m.removeFromIngressAdmission port qIndex psize).ingress.usedIngressPGBytes p q).toNat =
        if p = port ∧ q = qIndex then (m.ingress.usedIngressPGBytes p q).toNat - psize.toNat
        else (m.ingress.usedIngressPGBytes p q).toNat) ∧
      (∀ p q,
        ((m.removeFromIngressAdmission port qIndex psize).ingress.usedIngressPGHeadroomBytes p q).toNat =
          if p = port ∧ q = qIndex then (m.ingress.usedIngressPGHeadroomBytes p q).toNat - psize.toNat
          else (m.ingress.usedIngressPGHeadroomBytes p q).toNat) ∧
      (m.ingress.usedTotalBytes < psize ∨ m.ingress.usedIngressSPBytes (getIngressSP port qIndex) < psize ∨
          m.ingress.usedIngressPortBytes port < psize ∨ m.ingress.usedIngressPGBytes port qIndex < psize →
        "Warning : Illegal Remove" ∈ m.removeFromIngressAdmissionWarnings port qIndex psize) := by
  refine ⟨raise_to_sub_toNat _ _, fun sp => ?_, fun p => ?_, fun p q => ?_, fun p q => ?_, ?_⟩
  · simp only [SwitchMmu.removeFromIngressAdmission, Function.update_apply]
    split_ifs with same
    · rw [same, SwitchMmu.raise_to_raise_to, raise_to_sub_toNat]
    · rfl
  · simp only [SwitchMmu.removeFromIngressAdmission, Function.update_apply]
    split_ifs with same
    · rw [same, raise_to_sub_toNat]
    · rfl
  · simp only [SwitchMmu.removeFromIngressAdmission, set_cell_apply]
    split_ifs with same
    · rw [same.1, same.2, raise_to_sub_toNat]
    · rfl
  · simp only [SwitchMmu.removeFromIngressAdmission, set_cell_apply]
    by_cases same : p = port ∧ q = qIndex
    · rw [if_pos same, if_pos same, same.1, same.2, headroom_sub_toNat]
    · rw [if_neg same, if_neg same]
  · intro fires
    rcases fires with below | below | below | below <;>
      simp [SwitchMmu.removeFromIngressAdmissionWarnings, below]

/-- On a switch built with the attribute defaults, removing one byte from queue 3 of port 1, below
its guarantee and empty, logs "STOP overflow" and leaves `2^32 − 1` in `q_min` and in the port
counter. -/
theorem egress_removal_wraps_q_min :
    (SwitchMmu.construct SwitchMmu.zeroSwitch).egress.usedEgressQMinBytes 1 3 = 0 ∧
      (SwitchMmu.construct SwitchMmu.zeroSwitch).egress.usedEgressPortBytes 1 = 0 ∧
      ((SwitchMmu.construct SwitchMmu.zeroSwitch).removeFromEgressAdmission 1 3 1).egress.usedEgressQMinBytes
          1 3 = 4294967295 ∧
      ((SwitchMmu.construct SwitchMmu.zeroSwitch).removeFromEgressAdmission 1 3 1).egress.usedEgressPortBytes
          1 = 4294967295 ∧
      (SwitchMmu.construct SwitchMmu.zeroSwitch).removeFromEgressAdmissionWarnings 1 3 1 =
        ["STOP overflow"] := by
  refine ⟨by decide, by decide, by decide, by decide, ?_⟩
  rw [SwitchMmu.removeFromEgressAdmissionWarnings, if_pos (by decide)]

end ConWeaveSwitch
