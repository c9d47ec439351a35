import ConWeaveSwitch.Mmu.State
import Mathlib.Algebra.Order.BigOperators.Group.Finset

/-!
# Configuration calls and the ingress shared pool

Every configuration call re-runs `InitSwitch`, which leaves the shared pool exactly what the
reservations of the active ports leave of the buffer when they fit
(`shared_pool_partition_of_configure`); its loop reserves the headroom of ports from 0, which the
switch does not use (`shared_pool_reserves_port_zero`). `SetBroadcomParams` skips `InitSwitch`, so
the next call keeps only its headroom and alpha (`configure_set_broadcom_params`).
-/

namespace ConWeaveSwitch

set_option autoImplicit false

/-- The configuration calls of `SwitchMmu`, each of which re-runs `InitSwitch`. -/
inductive ConfigCall where
  | configHdrm (port : Nat) (size : UInt32)
  | configNPort (nPort : UInt32)
  | configBufferSize (size : UInt32)
  | setPgHdrmLimit (value : UInt32)
  | setActivePortCnt (value : UInt32)
  | setMaxBufferBytesPerPort (value : UInt32)
  | setDynamicThreshold (value : Bool)

namespace SwitchMmu

def configure (m : SwitchMmu) : ConfigCall → SwitchMmu
  | .configHdrm port size => m.configHdrm port size
  | .configNPort nPort => m.configNPort nPort
  | .configBufferSize size => m.configBufferSize size
  | .setPgHdrmLimit value => m.setPgHdrmLimit value
  | .setActivePortCnt value => m.setActivePortCnt value
  | .setMaxBufferBytesPerPort value => m.setMaxBufferBytesPerPort value
  | .setDynamicThreshold value => m.setDynamicThreshold value

theorem configure_init (m : SwitchMmu) (call : ConfigCall) :
    ∃ m' : SwitchMmu, m.configure call = m'.initSwitch := by
  cases call <;> exact ⟨_, rfl⟩

theorem configure_all_init (m : SwitchMmu) (call : ConfigCall) (calls : List ConfigCall) :
    ∃ m' : SwitchMmu, (call :: calls).foldl configure m = m'.initSwitch := by
  induction calls generalizing m call with
  | nil => exact configure_init m call
  | cons next rest ih => exact ih (m.configure call) next

structure BroadcomParams where
  bufferCellLimitSp : UInt32
  pgMinCell : UInt32
  portMinCell : UInt32
  pgSharedLimitCell : UInt32
  portMaxSharedCell : UInt32
  pgHdrmLimit : UInt32
  qMinCell : UInt32
  opUcPortConfig1Cell : UInt32
  opUcPortConfigCell : UInt32
  opBufferSharedLimitCell : UInt32
  qSharedAlphaCell : UInt32

def setBroadcomParams (m : SwitchMmu) (params : BroadcomParams) : SwitchMmu :=
  { m with config := { m.config with
    bufferCellLimitSp := params.bufferCellLimitSp
    pgMinCell := params.pgMinCell
    portMinCell := params.portMinCell
    pgSharedLimitCell := params.pgSharedLimitCell
    portMaxSharedCell := params.portMaxSharedCell
    pgHdrmLimit := fun i => if i < pCnt then params.pgHdrmLimit else m.config.pgHdrmLimit i
    qMinCell := params.qMinCell
    opUcPortConfig1Cell := params.opUcPortConfig1Cell
    opUcPortConfigCell := params.opUcPortConfigCell
    opBufferSharedLimitCell := params.opBufferSharedLimitCell
    pgSharedAlphaCell := params.qSharedAlphaCell.toNat } }

/-- The next configuration call undoes `SetBroadcomParams` except for the headroom limits and the
ingress alpha: its `InitSwitch` derives the nine other limits afresh from the members it reads. -/
theorem configure_set_broadcom_params (m : SwitchMmu) (params : BroadcomParams) (call : ConfigCall) :
    (m.setBroadcomParams params).configure call =
      ({ m with config := { m.config with
        pgHdrmLimit := fun i => if i < pCnt then params.pgHdrmLimit else m.config.pgHdrmLimit i
        pgSharedAlphaCell := params.qSharedAlphaCell.toNat } } : SwitchMmu).configure call := by
  cases call <;> rfl

end SwitchMmu

namespace MmuConfig

def ReservationsFit (c : MmuConfig) : Prop :=
  ∑ i ∈ Finset.range c.activePortCnt.toNat, (c.pgHdrmLimit i).toNat +
      c.activePortCnt.toNat * max (qCnt * c.pgMinCell.toNat) c.portMinCell.toNat ≤
    c.maxBufferBytes.toNat

def SharedPoolPartition (c : MmuConfig) : Prop :=
  c.bufferCellLimitSp.toNat + ∑ i ∈ Finset.range c.activePortCnt.toNat, (c.pgHdrmLimit i).toNat +
      c.activePortCnt.toNat * max (qCnt * c.pgMinCell.toNat) c.portMinCell.toNat =
    c.maxBufferBytes.toNat

theorem foldl_range_add_toNat (f : Nat → UInt32) (n : Nat) :
    ((List.range n).foldl (fun total i => total + f i) 0).toNat =
      (∑ i ∈ Finset.range n, (f i).toNat) % 2 ^ 32 := by
  induction n with
  | zero => rfl
  | succ n ih =>
    rw [List.range_succ, List.foldl_append, List.foldl_cons, List.foldl_nil, u32_toNat_add, ih,
      Finset.sum_range_succ, Nat.mod_add_mod]

theorem init_switch_partition (c : MmuConfig) (fits : ReservationsFit c.initSwitch) :
    SharedPoolPartition c.initSwitch := by
  have below := u32_toNat_lt c.initSwitch.maxBufferBytes
  have fits' : ∑ i ∈ Finset.range c.activePortCnt.toNat, (c.pgHdrmLimit i).toNat +
      c.activePortCnt.toNat * 8384 ≤ c.initSwitch.maxBufferBytes.toNat := fits
  have total : c.totalPgHdrmLimit.toNat =
      ∑ i ∈ Finset.range c.activePortCnt.toNat, (c.pgHdrmLimit i).toNat := by
    rw [totalPgHdrmLimit, foldl_range_add_toNat, Nat.mod_eq_of_lt (by omega)]
  have guarantees : (c.activePortCnt * max (8 * mtu) mtu).toNat = c.activePortCnt.toNat * 8384 := by
    rw [u32_toNat_mul, show (max (8 * mtu) mtu).toNat = 8384 from rfl, Nat.mod_eq_of_lt (by omega)]
  have limit : c.initSwitch.bufferCellLimitSp =
      c.initSwitch.maxBufferBytes - c.totalPgHdrmLimit - c.activePortCnt * max (8 * mtu) mtu := rfl
  show c.initSwitch.bufferCellLimitSp.toNat +
      ∑ i ∈ Finset.range c.activePortCnt.toNat, (c.pgHdrmLimit i).toNat + c.activePortCnt.toNat * 8384 =
    c.initSwitch.maxBufferBytes.toNat
  rw [limit, u32_toNat_sub_of_le (by rw [u32_toNat_sub_of_le (by omega), total, guarantees]; omega),
    u32_toNat_sub_of_le (by omega), total, guarantees]
  omega

end MmuConfig

/-- After any nonempty sequence of configuration calls whose active ports' reservations fit in the
buffer, the ingress shared pool `buffer_cell_limit_sp` is exactly what the reservations leave. -/
theorem shared_pool_partition_of_configure (m : SwitchMmu) (call : ConfigCall)
    (calls : List ConfigCall)
    (fits : ((call :: calls).foldl SwitchMmu.configure m).config.ReservationsFit) :
    ((call :: calls).foldl SwitchMmu.configure m).config.SharedPoolPartition := by
  obtain ⟨m', last⟩ := SwitchMmu.configure_all_init m call calls
  rw [last] at fits ⊢
  exact MmuConfig.init_switch_partition m'.config fits

def oneActivePort : SwitchMmu :=
  [ConfigCall.setActivePortCnt 1, ConfigCall.configHdrm 1 50000].foldl SwitchMmu.configure
    (SwitchMmu.construct SwitchMmu.zeroSwitch)

theorem one_active_port_partition :
    oneActivePort.config.ReservationsFit ∧ oneActivePort.config.SharedPoolPartition :=
  have fits : oneActivePort.config.ReservationsFit := by
    have count : oneActivePort.config.activePortCnt.toNat = 1 := by decide
    rw [MmuConfig.ReservationsFit, count, Finset.sum_range_one]
    decide
  ⟨fits, shared_pool_partition_of_configure _ _ _ fits⟩

/-- With one active port the loop reserves the 14596 bytes of headroom of port 0 rather than the
50000 of port 1: `375000 − 14596 − 8384 = 352020` is left to the shared pool, so the shared pool,
the headroom of port 1 and its guarantee add up to 410404, not to the 375000 of the buffer, although
they fit in it. -/
theorem shared_pool_reserves_port_zero :
    oneActivePort.config.activePortCnt = 1 ∧ oneActivePort.config.maxBufferBytes = 375000 ∧
      oneActivePort.config.pgHdrmLimit 0 = 14596 ∧ oneActivePort.config.pgHdrmLimit 1 = 50000 ∧
      oneActivePort.config.bufferCellLimitSp = 352020 ∧
      (oneActivePort.config.pgHdrmLimit 1).toNat +
          1 * max (qCnt * oneActivePort.config.pgMinCell.toNat) oneActivePort.config.portMinCell.toNat ≤
        oneActivePort.config.maxBufferBytes.toNat ∧
      oneActivePort.config.bufferCellLimitSp.toNat + (oneActivePort.config.pgHdrmLimit 1).toNat +
          1 * max (qCnt * oneActivePort.config.pgMinCell.toNat) oneActivePort.config.portMinCell.toNat ≠
        oneActivePort.config.maxBufferBytes.toNat := by
  decide

end ConWeaveSwitch
