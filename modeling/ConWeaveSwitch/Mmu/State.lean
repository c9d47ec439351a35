import ConWeaveSwitch.Settings

/-!
# The switch MMU state and `InitSwitch`

The members of `SwitchMmu` some modelled function reads or writes; arrays are functions of the
index, of which only indices below `pCnt` and `qCnt` are C++ cells, and event handles are pending
flags. `initSwitch` derives the limits and clears the counters; the constructor and the
attribute setters leave every member they do not set as it comes in.
-/

namespace ConWeaveSwitch

set_option autoImplicit false

def qCnt : Nat := 8

def pCnt : Nat := 128

def mtu : UInt32 := 1048

/-- `SwitchMmu::PortCreditState`, the CPEM credit state of one port. Times are simulated
nanoseconds; doubles are rationals. -/
structure PortCreditState where
  feedbackCredit : ℚ
  inflightCredit : ℚ
  inflightBytes : UInt64
  lastQueueLen : UInt32
  lastFeedbackTime : ℤ
  lastSendTime : ℤ
  effectiveRate : UInt64
  initialized : Bool

def PortCreditState.empty : PortCreditState := ⟨0, 0, 0, 0, 0, 0, 0, false⟩

structure MmuConfig where
  kmin : Nat → UInt32
  kmax : Nat → UInt32
  pmax : Nat → ℚ
  maxBufferBytes : UInt32
  activePortCnt : UInt32
  maxBufferBytesPerPort : UInt32
  staticMaxBufferBytes : UInt32
  bufferCellLimitSp : UInt32
  pgMinCell : UInt32
  portMinCell : UInt32
  pgSharedLimitCell : UInt32
  portMaxSharedCell : UInt32
  pgHdrmLimit : Nat → UInt32
  portMinCellOff : UInt32
  pgSharedLimitCellOff : UInt32
  qMinCell : UInt32
  opUcPortConfig1Cell : UInt32
  opUcPortConfigCell : UInt32
  opBufferSharedLimitCell : UInt32
  pgSharedAlphaCell : ℚ
  pgSharedAlphaCellEgress : ℚ
  pgSharedAlphaCellOffDiff : ℚ
  dynamicth : Bool

structure IngressUsage where
  usedTotalBytes : UInt32
  usedIngressPGBytes : Nat → Nat → UInt32
  usedIngressPortBytes : Nat → UInt32
  usedIngressSPBytes : Nat → UInt32
  usedIngressPGHeadroomBytes : Nat → Nat → UInt32

structure EgressUsage where
  usedEgressQMinBytes : Nat → Nat → UInt32
  usedEgressQSharedBytes : Nat → Nat → UInt32
  usedEgressPortBytes : Nat → UInt32
  usedEgressSPBytes : Nat → UInt32

def IngressUsage.zero : IngressUsage := ⟨0, fun _ _ => 0, fun _ => 0, fun _ => 0, fun _ _ => 0⟩

def EgressUsage.zero : EgressUsage := ⟨fun _ _ => 0, fun _ _ => 0, fun _ => 0, fun _ => 0⟩

/-- The members of `SwitchMmu`, grouped by the functions that write them: the configuration, the
ingress and egress counters, the PFC flags and the CPEM port state. -/
structure SwitchMmu where
  config : MmuConfig
  ingress : IngressUsage
  egress : EgressUsage
  /-- `paused[port][q]`, a `uint32_t` only ever read as a truth value. -/
  paused : Nat → Nat → Bool
  /-- Whether `resumeEvt[port][q]`, the scheduled `SetResume`, is pending. -/
  resumeEvt : Nat → Nat → Bool
  /-- `m_pause_remote[port][q]`. -/
  pauseRemote : Nat → Nat → Bool
  cpemState : Nat → PortCreditState
  /-- Whether `m_cpemFeedbackEvent[port]` is pending. -/
  cpemFeedbackEvent : Nat → Bool

def getIngressSP (_port pgIndex : Nat) : Nat := if pgIndex = 1 then 1 else 0

def getEgressSP (_port qIndex : Nat) : Nat := if qIndex = 0 then 0 else 1

def setCell {α : Type} (array : Nat → Nat → α) (p q : Nat) (value : α) : Nat → Nat → α :=
  Function.update array p (Function.update (array p) q value)

@[simp] theorem set_cell_apply {α : Type} (array : Nat → Nat → α) (p q : Nat) (value : α)
    (p' q' : Nat) :
    setCell array p q value p' q' = if p' = p ∧ q' = q then value else array p' q' := by
  by_cases samePort : p' = p
  · subst samePort
    by_cases sameQueue : q' = q
    · subst sameQueue; simp [setCell]
    · simp [setCell, sameQueue]
  · simp [setCell, samePort]

namespace MmuConfig

/-- `Σ_{i < m_activePortCnt} m_pg_hdrm_limit[i]` as the `uint32_t` loop of `InitSwitch` adds it. -/
def totalPgHdrmLimit (c : MmuConfig) : UInt32 :=
  (List.range c.activePortCnt.toNat).foldl (fun total i => total + c.pgHdrmLimit i) 0

/-- The configuration half of `SwitchMmu::InitSwitch`. The guarantee term reads `m_pg_min_cell`
and `m_port_min_cell` after `InitSwitch` has set both to `MTU`. -/
def initSwitch (c : MmuConfig) : MmuConfig :=
  let maxBufferBytes :=
    if c.staticMaxBufferBytes ≠ 0 then c.staticMaxBufferBytes
    else c.maxBufferBytesPerPort * c.activePortCnt
  let pgSharedLimitCell := if c.dynamicth then maxBufferBytes else 20 * mtu
  let guarantees := c.activePortCnt * max (8 * mtu) mtu
  { c with
    maxBufferBytes := maxBufferBytes
    pgSharedLimitCell := pgSharedLimitCell
    portMaxSharedCell := if c.dynamicth then maxBufferBytes else 4800 * mtu
    pgMinCell := mtu
    portMinCell := mtu
    bufferCellLimitSp := maxBufferBytes - c.totalPgHdrmLimit - guarantees
    portMinCellOff := 4700 * mtu
    pgSharedLimitCellOff := pgSharedLimitCell - 2 * mtu
    opBufferSharedLimitCell := maxBufferBytes - guarantees
    opUcPortConfigCell := maxBufferBytes
    qMinCell := 1 + mtu
    opUcPortConfig1Cell := maxBufferBytes
    pgSharedAlphaCellOffDiff := 16 }

end MmuConfig

namespace SwitchMmu

def initSwitch (m : SwitchMmu) : SwitchMmu :=
  { m with config := m.config.initSwitch, ingress := IngressUsage.zero, egress := EgressUsage.zero }

def setDynamicThreshold (m : SwitchMmu) (value : Bool) : SwitchMmu :=
  initSwitch { m with config := { m.config with dynamicth := value } }

def setActivePortCnt (m : SwitchMmu) (value : UInt32) : SwitchMmu :=
  initSwitch { m with config := { m.config with activePortCnt := value } }

def configNPort (m : SwitchMmu) (nPort : UInt32) : SwitchMmu := m.setActivePortCnt nPort

def setMaxBufferBytesPerPort (m : SwitchMmu) (value : UInt32) : SwitchMmu :=
  initSwitch { m with config := { m.config with maxBufferBytesPerPort := value } }

def setPgHdrmLimit (m : SwitchMmu) (value : UInt32) : SwitchMmu :=
  initSwitch { m with config := { m.config with pgHdrmLimit := fun _ => value } }

def configHdrm (m : SwitchMmu) (port : Nat) (size : UInt32) : SwitchMmu :=
  initSwitch { m with config := { m.config with
    pgHdrmLimit := Function.update m.config.pgHdrmLimit port size } }

def configBufferSize (m : SwitchMmu) (size : UInt32) : SwitchMmu :=
  initSwitch { m with config := { m.config with staticMaxBufferBytes := size } }

def configEcn (m : SwitchMmu) (port : Nat) (kmin kmax : UInt32) (pmax : ℚ) : SwitchMmu :=
  { m with config := { m.config with
    kmin := Function.update m.config.kmin port (kmin * 1000)
    kmax := Function.update m.config.kmax port (kmax * 1000)
    pmax := Function.update m.config.pmax port pmax } }

/-- `CreateObject<SwitchMmu>()` from `raw`, a state whose members hold whatever the allocation
left: the in-class initializers, the constructor (`m_dynamicth = false; InitSwitch()`), then the
attribute defaults of `GetTypeId` in their order, each setter re-running `InitSwitch`. The
`PortCreditState` default constructor and the default `EventId` are applied to the arrays that
hold them; `paused`, `m_pause_remote`, the ECN thresholds and the headroom limits keep their
values until the attributes or `ConfigEcn` set them. -/
def construct (raw : SwitchMmu) : SwitchMmu :=
  let initialized : SwitchMmu :=
    { raw with
      config :=
        { raw.config with
          maxBufferBytes := 0
          activePortCnt := 0
          maxBufferBytesPerPort := 0
          staticMaxBufferBytes := 0
          pgSharedAlphaCell := 0
          pgSharedAlphaCellEgress := 0
          dynamicth := false }
      ingress := { raw.ingress with usedTotalBytes := 0 }
      cpemState := fun _ => PortCreditState.empty
      cpemFeedbackEvent := fun _ => false
      resumeEvt := fun _ _ => false }
  let built := initSwitch initialized
  let alphas : SwitchMmu :=
    { built with config :=
      { built.config with
        pgSharedAlphaCell := 1 / 16
        pgSharedAlphaCellEgress := 1 } }
  (((alphas.setDynamicThreshold true).setMaxBufferBytesPerPort (375 * 1000)).setActivePortCnt 12
    ).setPgHdrmLimit (12500 + 2 * mtu)

def zeroSwitch : SwitchMmu where
  config := ⟨fun _ => 0, fun _ => 0, fun _ => 0, 0, 0, 0, 0, 0, 0, 0, 0, 0, fun _ => 0, 0, 0, 0, 0, 0,
    0, 0, 0, 0, false⟩
  ingress := IngressUsage.zero
  egress := EgressUsage.zero
  paused _ _ := false
  resumeEvt _ _ := false
  pauseRemote _ _ := false
  cpemState _ := PortCreditState.empty
  cpemFeedbackEvent _ := false

@[simp] theorem init_ingress (m : SwitchMmu) : m.initSwitch.ingress = IngressUsage.zero := rfl

@[simp] theorem init_egress (m : SwitchMmu) : m.initSwitch.egress = EgressUsage.zero := rfl

@[simp] theorem init_q_min_cell (m : SwitchMmu) : m.initSwitch.config.qMinCell = 1 + mtu := rfl

end SwitchMmu

end ConWeaveSwitch
