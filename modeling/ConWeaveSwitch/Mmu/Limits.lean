import ConWeaveSwitch.Mmu.Accounting

/-!
# Occupancy limits and the PG headroom

`CheckEgressAdmission` bounds the pool, port and queue before a packet is charged, so the bounds
hold over every run of packets of at most 65535 bytes on a buffer below `2^32 - 65535`, where no
32-bit addition wraps. The
headroom is charged by `UpdateIngressAdmission` when the pool is past its limit after the packet,
but checked only when it was past it before, so the headroom can exceed its limit
(`headroom_exceeds_limit`).
-/

namespace ConWeaveSwitch

set_option autoImplicit false

open Finset

structure WithinLimits (c : MmuConfig) (live : List QueuedPacket) : Prop where
  port : ∀ p, bytesOf (fun k => k.outDev = p) live ≤ c.opUcPortConfigCell.toNat
  shared : ∀ p q, egressBytes live p q - c.qMinCell.toNat ≤ c.opUcPortConfig1Cell.toNat
  pool : ∀ sp, egressPoolShared live c.qMinCell.toNat sp ≤ c.opBufferSharedLimitCell.toNat

theorem egress_pool_shared_mono {small large : List QueuedPacket}
    (below : ∀ p q, egressBytes small p q ≤ egressBytes large p q) (qMin sp : Nat) :
    egressPoolShared small qMin sp ≤ egressPoolShared large qMin sp :=
  sum_le_sum fun p _ => sum_le_sum fun q _ => by
    split_ifs
    exacts [Nat.sub_le_sub_right (below p q) qMin, le_rfl]

namespace WithinLimits

variable {m : SwitchMmu} {c : MmuConfig} {live : List QueuedPacket} {k : QueuedPacket}

theorem nil (c : MmuConfig) : WithinLimits c [] := by
  refine ⟨fun _ => Nat.zero_le _, fun _ _ => ?_, fun _ => ?_⟩ <;>
    simp [egressBytes, egressPoolShared]

theorem erase (limits : WithinLimits c live) (held : k ∈ live) : WithinLimits c (live.erase k) where
  port p := (bytes_of_erase_le _ held).trans (limits.port p)
  shared p q := (Nat.sub_le_sub_right (bytes_of_erase_le _ held) _).trans (limits.shared p q)
  pool sp := (egress_pool_shared_mono (fun _ _ => bytes_of_erase_le _ held) _ _).trans (limits.pool sp)

theorem admit_packet (accounts : Accounts m live) (limits : WithinLimits m.config live) (valid : k.WellFormed)
    (room : bytesOf (fun _ => true) live + k.size.toNat < 2 ^ 32)
    (passes : m.checkEgressAdmission k.outDev k.qIndex k.size = true) :
    WithinLimits m.config (k :: live) := by
  obtain ⟨-, portBound, queueBound, -⟩ := valid
  obtain ⟨poolPasses, portPasses, sharedPasses, -⟩ := SwitchMmu.check_egress_true_iff.mp passes
  have poolHeld := pool_shared_le_total accounts.wellFormed m.config.qMinCell.toNat
    (getEgressSP k.outDev k.qIndex)
  have sharedHeld : (m.egress.usedEgressQSharedBytes k.outDev k.qIndex).toNat ≤
      egressBytes live k.outDev k.qIndex :=
    (accounts.egress.qShared _ _).trans_le (Nat.sub_le _ _)
  rw [u32_le_iff, add_size_toNat room ((accounts.egress.sp _).trans_le poolHeld),
    accounts.egress.sp] at poolPasses
  rw [u32_le_iff, add_size_toNat room (accounts.egress.port _).le, accounts.egress.port] at portPasses
  rw [u32_le_iff, add_size_toNat room sharedHeld, accounts.egress.qShared] at sharedPasses
  have same : k.outDev = k.outDev ∧ k.qIndex = k.qIndex := ⟨rfl, rfl⟩
  have agree : ∀ p q, ¬(p = k.outDev ∧ q = k.qIndex) →
      egressBytes (k :: live) p q = egressBytes live p q := fun _ _ => egress_bytes_cons_of_ne
  refine ⟨fun p => ?_, fun p q => ?_, fun sp => ?_⟩
  · rw [bytes_of_key_cons QueuedPacket.outDev]
    split_ifs with samePort
    · subst samePort
      omega
    · rw [zero_add]
      exact limits.port p
  · by_cases cell : p = k.outDev ∧ q = k.qIndex
    · obtain ⟨rfl, rfl⟩ := cell
      rw [egress_bytes_cons, if_pos same]
      omega
    · rw [agree p q cell]
      exact limits.shared p q
  · have change := egress_pool_shared_change portBound queueBound agree m.config.qMinCell.toNat sp
    by_cases samePool : sp = getEgressSP k.outDev k.qIndex
    · subst samePool
      rw [if_pos rfl, if_pos rfl, egress_bytes_cons, if_pos same] at change
      omega
    · rw [if_neg (Ne.symm samePool), if_neg (Ne.symm samePool)] at change
      have := limits.pool sp
      omega

end WithinLimits

section Runs

variable {fits : QueuedPacket → Prop} {start : SwitchMmu} {state : SwitchMmu × List QueuedPacket}

theorem limits_of_reachable
    (room : ∀ k, fits k → start.initSwitch.config.maxBufferBytes.toNat + k.size.toNat < 2 ^ 32)
    (reach : BufferReachable fits start state) : WithinLimits state.1.config state.2 := by
  induction reach with
  | refl => exact WithinLimits.nil _
  | tail before step limits =>
      cases step with
      | @enqueue m live k valid allowed admitted =>
          have config : m.config = start.initSwitch.config := reachable_config before
          have accounts : Accounts m live := accounts_of_reachable room before
          have fitsRoom : m.config.maxBufferBytes.toNat + k.size.toNat < 2 ^ 32 := config ▸ room _ allowed
          have within := accounts.withinBuffer
          exact WithinLimits.admit_packet (m := m) accounts limits valid (by omega)
            (Bool.and_eq_true _ _ ▸ admitted).1
      | dequeue held => exact limits.erase held

end Runs

/-- The 32-bit additions `CheckIngressAdmission`, `CheckEgressAdmission`,
`UpdateIngressAdmission` and `UpdateEgressAdmission` make for the packet `k`, each as the sum of
its terms' values: none of them wraps. -/
structure NoWrap (m : SwitchMmu) (k : QueuedPacket) : Prop where
  total : m.ingress.usedTotalBytes.toNat + k.size.toNat < 2 ^ 32
  ingressPG : (m.ingress.usedIngressPGBytes k.inDev k.qIndex).toNat + k.size.toNat < 2 ^ 32
  ingressPort : (m.ingress.usedIngressPortBytes k.inDev).toNat + k.size.toNat < 2 ^ 32
  ingressSP :
    (m.ingress.usedIngressSPBytes (getIngressSP k.inDev k.qIndex)).toNat + k.size.toNat < 2 ^ 32
  headroom : (m.ingress.usedIngressPGHeadroomBytes k.inDev k.qIndex).toNat + k.size.toNat < 2 ^ 32
  egressSP :
    (m.egress.usedEgressSPBytes (getEgressSP k.outDev k.qIndex)).toNat + k.size.toNat < 2 ^ 32
  egressPort : (m.egress.usedEgressPortBytes k.outDev).toNat + k.size.toNat < 2 ^ 32
  egressQShared : (m.egress.usedEgressQSharedBytes k.outDev k.qIndex).toNat + k.size.toNat < 2 ^ 32
  egressQMin : (m.egress.usedEgressQMinBytes k.outDev k.qIndex).toNat + k.size.toNat < 2 ^ 32
  sharedRefill : (m.egress.usedEgressQSharedBytes k.outDev k.qIndex).toNat + k.size.toNat +
    (m.egress.usedEgressQMinBytes k.outDev k.qIndex).toNat < 2 ^ 32
  poolRefill : (m.egress.usedEgressSPBytes (getEgressSP k.outDev k.qIndex)).toNat + k.size.toNat +
    (m.egress.usedEgressQMinBytes k.outDev k.qIndex).toNat < 2 ^ 32

theorem no_wrap_of_accounts {m : SwitchMmu} {live : List QueuedPacket} {k : QueuedPacket}
    (accounts : Accounts m live) (valid : k.WellFormed)
    (room : bytesOf (fun _ => true) live + k.size.toNat < 2 ^ 32) : NoWrap m k := by
  obtain ⟨-, portBound, queueBound, -⟩ := valid
  have held := bytes_of_le_total
  have pg := (accounts.ingress.pg k.inDev k.qIndex).trans_le (held _ live)
  have headroom := (accounts.ingress.headroom k.inDev k.qIndex).trans (held _ live)
  have port := (accounts.ingress.port k.inDev).trans_le (held _ live)
  have sp := (accounts.ingress.sp (getIngressSP k.inDev k.qIndex)).trans_le (held _ live)
  have queue : egressBytes live k.outDev k.qIndex ≤ bytesOf (fun _ => true) live := held _ live
  have pool := pool_shared_add_q_min_le accounts.wellFormed m.config.qMinCell.toNat portBound
    queueBound
  have egressPort := (accounts.egress.port k.outDev).trans_le (held _ live)
  have total := accounts.ingress.total
  have qMin := accounts.egress.qMin k.outDev k.qIndex
  have qShared := accounts.egress.qShared k.outDev k.qIndex
  have egressSP := accounts.egress.sp (getEgressSP k.outDev k.qIndex)
  constructor <;> omega

structure Occupancy (m : SwitchMmu) : Prop where
  total : m.ingress.usedTotalBytes ≤ m.config.maxBufferBytes
  egressPort : ∀ p, m.egress.usedEgressPortBytes p ≤ m.config.opUcPortConfigCell
  egressQShared : ∀ p q, m.egress.usedEgressQSharedBytes p q ≤ m.config.opUcPortConfig1Cell
  egressSP : ∀ sp, m.egress.usedEgressSPBytes sp ≤ m.config.opBufferSharedLimitCell
  noWrap : ∀ k : QueuedPacket, k.WellFormed → k.size.toNat ≤ 65535 → NoWrap m k

/-- Runs of packets of at most 65535 bytes, with `max_buffer + 65535 < 2^32`, stay within the
occupancy bounds. -/
theorem occupancy_of_reachable {start m : SwitchMmu} {live : List QueuedPacket}
    (bufferRoom : start.initSwitch.config.maxBufferBytes.toNat + 65535 < 2 ^ 32)
    (reach : BufferReachable (fun k => k.size.toNat ≤ 65535) start (m, live)) : Occupancy m := by
  have room : ∀ k : QueuedPacket, k.size.toNat ≤ 65535 →
      start.initSwitch.config.maxBufferBytes.toNat + k.size.toNat < 2 ^ 32 := fun _ small => by
    omega
  have accounts : Accounts m live := accounts_of_reachable room reach
  have limits : WithinLimits m.config live := limits_of_reachable room reach
  have config : m.config = start.initSwitch.config := reachable_config reach
  have within := accounts.withinBuffer
  rw [config] at within
  refine ⟨?_, fun p => ?_, fun p q => ?_, fun sp => ?_, fun k valid small => ?_⟩
  · rw [u32_le_iff, accounts.ingress.total, config]
    exact within
  · rw [u32_le_iff, accounts.egress.port]
    exact limits.port p
  · rw [u32_le_iff, accounts.egress.qShared]
    exact limits.shared p q
  · rw [u32_le_iff, accounts.egress.sp]
    exact limits.pool sp
  · exact no_wrap_of_accounts accounts valid (by omega)

theorem small_pair_occupancy :
    smallSwitch.initSwitch.config.maxBufferBytes.toNat + 65535 < 2 ^ 32 ∧
      BufferReachable (fun k => k.size.toNat ≤ 65535) smallSwitch
        ((smallSwitch.initSwitch.admitPacket smallPacket).admitPacket smallPacket, [smallPacket, smallPacket]) ∧
      Occupancy ((smallSwitch.initSwitch.admitPacket smallPacket).admitPacket smallPacket) := by
  have bufferRoom : smallSwitch.initSwitch.config.maxBufferBytes.toNat + 65535 < 2 ^ 32 := by decide
  have reach : BufferReachable (fun k => k.size.toNat ≤ 65535) smallSwitch
      ((smallSwitch.initSwitch.admitPacket smallPacket).admitPacket smallPacket, [smallPacket, smallPacket]) :=
    small_pair_reachable (by decide)
  exact ⟨bufferRoom, reach, occupancy_of_reachable bufferRoom reach⟩

/-- Two 1000-byte packets into a PG whose port has 500 bytes of headroom, with
`buffer_cell_limit_sp = 1500`: the second passes `CheckIngressAdmission` because the pool held 1000
bytes before it, and `UpdateIngressAdmission` charges it to the headroom because the pool holds
2000 after it. -/
theorem headroom_exceeds_limit :
    BufferReachable (fun _ => True) smallSwitch
        ((smallSwitch.initSwitch.admitPacket smallPacket).admitPacket smallPacket, [smallPacket, smallPacket]) ∧
      ((smallSwitch.initSwitch.admitPacket smallPacket).admitPacket smallPacket).ingress.usedIngressPGHeadroomBytes
          1 3 >
        ((smallSwitch.initSwitch.admitPacket smallPacket).admitPacket smallPacket).config.pgHdrmLimit 1 :=
  ⟨small_pair_reachable trivial, by decide⟩

end ConWeaveSwitch
