import ConWeaveSwitch.Mmu.Admission
import Mathlib.Algebra.Order.BigOperators.Group.Finset

/-!
# The buffer counters refine the multiset of live packets

A buffer run interleaves enqueues that `DoSwitchSend` admits and dequeues of held packets;
`Accounts` states each counter as a function of the held packets and holds over every run whose
packets fit beside `max_buffer` in 32 bits. Without that bound the admission sum
`used_total + psize` wraps and a packet is admitted past a full buffer
(`admitted_wrap_breaks_accounting`).
-/

namespace ConWeaveSwitch

set_option autoImplicit false

open Finset

/-- What the MMU knows of a packet in the buffer: the in-device of its `FlowIdTag`, the egress
port and queue `DoSwitchSend` chose, and its size. -/
structure QueuedPacket where
  inDev : Nat
  outDev : Nat
  qIndex : Nat
  size : UInt32
deriving DecidableEq

/-- A packet `DoSwitchSend` runs admission for: ports and queue are array indices and the queue
is not the control queue 0, which bypasses admission. -/
def QueuedPacket.WellFormed (k : QueuedPacket) : Prop :=
  k.inDev < pCnt ∧ k.outDev < pCnt ∧ k.qIndex < qCnt ∧ k.qIndex ≠ 0

instance (k : QueuedPacket) : Decidable k.WellFormed :=
  inferInstanceAs (Decidable (_ ∧ _ ∧ _ ∧ _))

def bytesOf (select : QueuedPacket → Bool) : List QueuedPacket → Nat
  | [] => 0
  | k :: live => (if select k then k.size.toNat else 0) + bytesOf select live

def ingressBytes (live : List QueuedPacket) (p q : Nat) : Nat :=
  bytesOf (fun k => k.inDev = p && k.qIndex = q) live

def egressBytes (live : List QueuedPacket) (p q : Nat) : Nat :=
  bytesOf (fun k => k.outDev = p && k.qIndex = q) live

/-- Bytes held in all egress queues of the pool `sp` beyond each queue's guarantee `qMin`. -/
def egressPoolShared (live : List QueuedPacket) (qMin sp : Nat) : Nat :=
  ∑ p ∈ range pCnt, ∑ q ∈ range qCnt, if getEgressSP p q = sp then egressBytes live p q - qMin else 0

@[simp] theorem bytes_of_nil (select : QueuedPacket → Bool) : bytesOf select [] = 0 := rfl

@[simp] theorem bytes_of_cons (select : QueuedPacket → Bool) (k : QueuedPacket)
    (live : List QueuedPacket) :
    bytesOf select (k :: live) = (if select k then k.size.toNat else 0) + bytesOf select live :=
  rfl

theorem bytes_of_erase (select : QueuedPacket → Bool) {k : QueuedPacket}
    {live : List QueuedPacket} (held : k ∈ live) :
    bytesOf select live = (if select k then k.size.toNat else 0) + bytesOf select (live.erase k) := by
  induction live with
  | nil => cases held
  | cons head live induction =>
      by_cases same : head = k
      · subst same; simp
      · have later : k ∈ live := (List.mem_cons.mp held).resolve_left (Ne.symm same)
        rw [List.erase_cons_tail (by simpa using same), bytes_of_cons, bytes_of_cons,
          induction later]
        omega

theorem ingress_pick (k : QueuedPacket) (p q n : Nat) :
    (if (k.inDev = p && k.qIndex = q) = true then n else 0) =
      if p = k.inDev ∧ q = k.qIndex then n else 0 := by
  simp only [Bool.and_eq_true, decide_eq_true_eq, @eq_comm _ k.inDev, @eq_comm _ k.qIndex]

theorem egress_pick (k : QueuedPacket) (p q n : Nat) :
    (if (k.outDev = p && k.qIndex = q) = true then n else 0) =
      if p = k.outDev ∧ q = k.qIndex then n else 0 := by
  simp only [Bool.and_eq_true, decide_eq_true_eq, @eq_comm _ k.outDev, @eq_comm _ k.qIndex]

theorem key_pick (key : QueuedPacket → Nat) (k : QueuedPacket) (i n : Nat) :
    (if decide (key k = i) = true then n else 0) = if i = key k then n else 0 := by
  simp only [decide_eq_true_eq, @eq_comm _ (key k)]

theorem bytes_of_erase_le (select : QueuedPacket → Bool) {k : QueuedPacket}
    {live : List QueuedPacket} (held : k ∈ live) : bytesOf select (live.erase k) ≤ bytesOf select live := by
  rw [bytes_of_erase select held]
  exact Nat.le_add_left _ _

theorem ingress_bytes_cons (k : QueuedPacket) (live : List QueuedPacket) (p q : Nat) :
    ingressBytes (k :: live) p q =
      (if p = k.inDev ∧ q = k.qIndex then k.size.toNat else 0) + ingressBytes live p q := by
  rw [ingressBytes, bytes_of_cons, ingress_pick]; rfl

theorem egress_bytes_cons (k : QueuedPacket) (live : List QueuedPacket) (p q : Nat) :
    egressBytes (k :: live) p q =
      (if p = k.outDev ∧ q = k.qIndex then k.size.toNat else 0) + egressBytes live p q := by
  rw [egressBytes, bytes_of_cons, egress_pick]; rfl

theorem bytes_of_key_cons (key : QueuedPacket → Nat) (k : QueuedPacket) (live : List QueuedPacket)
    (i : Nat) :
    bytesOf (fun k' => key k' = i) (k :: live) =
      (if i = key k then k.size.toNat else 0) + bytesOf (fun k' => key k' = i) live := by
  rw [bytes_of_cons, key_pick]

theorem ingress_bytes_erase {k : QueuedPacket} {live : List QueuedPacket} (held : k ∈ live)
    (p q : Nat) :
    ingressBytes live p q =
      (if p = k.inDev ∧ q = k.qIndex then k.size.toNat else 0) + ingressBytes (live.erase k) p q := by
  rw [ingressBytes, bytes_of_erase _ held, ingress_pick]; rfl

theorem egress_bytes_erase {k : QueuedPacket} {live : List QueuedPacket} (held : k ∈ live)
    (p q : Nat) :
    egressBytes live p q =
      (if p = k.outDev ∧ q = k.qIndex then k.size.toNat else 0) + egressBytes (live.erase k) p q := by
  rw [egressBytes, bytes_of_erase _ held, egress_pick]; rfl

theorem egress_bytes_cons_of_ne {k : QueuedPacket} {live : List QueuedPacket} {p q : Nat}
    (off : ¬(p = k.outDev ∧ q = k.qIndex)) : egressBytes (k :: live) p q = egressBytes live p q := by
  rw [egress_bytes_cons, if_neg off, zero_add]

theorem egress_bytes_erase_of_ne {k : QueuedPacket} {live : List QueuedPacket} (held : k ∈ live)
    {p q : Nat} (off : ¬(p = k.outDev ∧ q = k.qIndex)) :
    egressBytes (live.erase k) p q = egressBytes live p q := by
  rw [egress_bytes_erase held, if_neg off, zero_add]

theorem bytes_of_key_erase (key : QueuedPacket → Nat) {k : QueuedPacket} {live : List QueuedPacket}
    (held : k ∈ live) (i : Nat) :
    bytesOf (fun k' => key k' = i) live =
      (if i = key k then k.size.toNat else 0) + bytesOf (fun k' => key k' = i) (live.erase k) := by
  rw [bytes_of_erase _ held, key_pick]

theorem bytes_of_le_of_imp {select wider : QueuedPacket → Bool}
    (implies : ∀ k, select k → wider k) (live : List QueuedPacket) :
    bytesOf select live ≤ bytesOf wider live := by
  induction live with
  | nil => rfl
  | cons k live induction =>
      have step : (if select k then k.size.toNat else 0) ≤ if wider k then k.size.toNat else 0 := by
        by_cases picked : select k
        · simp [picked, implies k picked]
        · simp [picked]
      simp only [bytes_of_cons]
      omega

theorem bytes_of_le_total (select : QueuedPacket → Bool) (live : List QueuedPacket) :
    bytesOf select live ≤ bytesOf (fun _ => true) live :=
  bytes_of_le_of_imp (fun _ _ => rfl) live

theorem add_size_toNat {counter : UInt32} {select : QueuedPacket → Bool} {live : List QueuedPacket}
    {k : QueuedPacket} (room : bytesOf (fun _ => true) live + k.size.toNat < 2 ^ 32)
    (below : counter.toNat ≤ bytesOf select live) :
    (counter + k.size).toNat = counter.toNat + k.size.toNat :=
  u32_toNat_add_of_lt (by have := bytes_of_le_total select live; omega)

theorem raise_sub_size_toNat {counter : UInt32} {select : QueuedPacket → Bool}
    {live : List QueuedPacket} {k : QueuedPacket} (held : k ∈ live) (picked : select k = true)
    (equal : counter.toNat = bytesOf select live) :
    (SwitchMmu.raiseTo counter k.size - k.size).toNat = bytesOf select (live.erase k) := by
  have split := bytes_of_erase select held
  rw [if_pos picked] at split
  have holds : k.size.toNat ≤ counter.toNat := by omega
  rw [SwitchMmu.raise_to_of_le holds, u32_toNat_sub_of_le holds]
  omega

theorem bytes_of_congr {select other : QueuedPacket → Bool} {live : List QueuedPacket}
    (agree : ∀ k ∈ live, select k = other k) : bytesOf select live = bytesOf other live := by
  induction live with
  | nil => rfl
  | cons k live induction =>
      simp only [bytes_of_cons, agree k (List.mem_cons_self k live),
        induction fun k' held => agree k' (List.mem_cons_of_mem k held)]

theorem bytes_of_split (select : QueuedPacket → Bool) (key : QueuedPacket → Nat) (n : Nat)
    {live : List QueuedPacket} (bounded : ∀ k ∈ live, select k → key k < n) :
    bytesOf select live = ∑ i ∈ range n, bytesOf (fun k => select k && key k = i) live := by
  induction live with
  | nil => simp
  | cons k live induction =>
      have rest := induction fun k' held => bounded k' (List.mem_cons_of_mem k held)
      have head : (∑ i ∈ range n, if (select k && decide (key k = i)) then k.size.toNat else 0) =
          if select k then k.size.toNat else 0 := by
        by_cases picked : select k
        · have below := bounded k (List.mem_cons_self k live) picked
          simp [picked, below]
        · simp [picked]
      simp only [bytes_of_cons, sum_add_distrib, head, rest]

theorem sum_cells_split (f : Nat → Nat → Nat) {o c : Nat} (portBound : o < pCnt)
    (queueBound : c < qCnt) :
    ∑ p ∈ range pCnt, ∑ q ∈ range qCnt, f p q =
      f o c + ∑ p ∈ range pCnt, ∑ q ∈ range qCnt, if p = o ∧ q = c then 0 else f p q := by
  have inner : ∀ p ∈ range pCnt, ∑ q ∈ range qCnt, f p q =
      (if p = o then f o c else 0) + ∑ q ∈ range qCnt, if p = o ∧ q = c then 0 else f p q := by
    intro p _
    by_cases same : p = o
    · subst same
      rw [← add_sum_erase _ _ (mem_range.mpr queueBound), ← add_sum_erase _ _ (mem_range.mpr queueBound)]
      simp only [true_and, if_true, zero_add]
      congr 1
      exact sum_congr rfl fun q member => by simp [(mem_erase.mp member).1]
    · simp [same]
  rw [sum_congr rfl inner, sum_add_distrib, sum_ite_eq' (range pCnt) o, if_pos (mem_range.mpr portBound)]

theorem sum_cells_change (f g : Nat → Nat → Nat) {o c : Nat} (portBound : o < pCnt)
    (queueBound : c < qCnt) (agree : ∀ p q, ¬(p = o ∧ q = c) → f p q = g p q) :
    (∑ p ∈ range pCnt, ∑ q ∈ range qCnt, f p q) + g o c =
      (∑ p ∈ range pCnt, ∑ q ∈ range qCnt, g p q) + f o c := by
  rw [sum_cells_split f portBound queueBound, sum_cells_split g portBound queueBound]
  have rest : (∑ p ∈ range pCnt, ∑ q ∈ range qCnt, if p = o ∧ q = c then 0 else f p q) =
      ∑ p ∈ range pCnt, ∑ q ∈ range qCnt, if p = o ∧ q = c then 0 else g p q :=
    sum_congr rfl fun p _ => sum_congr rfl fun q _ => by
      by_cases cell : p = o ∧ q = c
      · simp [cell]
      · simp [cell, agree p q cell]
  omega

theorem bytes_of_eq_zero {select : QueuedPacket → Bool} {live : List QueuedPacket}
    (none : ∀ k ∈ live, select k = false) : bytesOf select live = 0 := by
  induction live with
  | nil => rfl
  | cons k live induction =>
      rw [bytes_of_cons, if_neg (by simp [none k (List.mem_cons_self k live)]),
        induction fun k' held => none k' (List.mem_cons_of_mem k held)]

theorem bytes_of_cells {live : List QueuedPacket} (wellFormed : ∀ k ∈ live, k.WellFormed) :
    bytesOf (fun _ => true) live = ∑ p ∈ range pCnt, ∑ q ∈ range qCnt, egressBytes live p q := by
  rw [bytes_of_split _ QueuedPacket.outDev pCnt fun k held _ => (wellFormed k held).2.1]
  refine sum_congr rfl fun p _ => ?_
  rw [bytes_of_split _ QueuedPacket.qIndex qCnt fun k held _ => (wellFormed k held).2.2.1]
  rfl

theorem bytes_of_ingress_cells {live : List QueuedPacket} (wellFormed : ∀ k ∈ live, k.WellFormed) :
    bytesOf (fun _ => true) live = ∑ p ∈ range pCnt, ∑ q ∈ range qCnt, ingressBytes live p q := by
  rw [bytes_of_split _ QueuedPacket.inDev pCnt fun k held _ => (wellFormed k held).1]
  refine sum_congr rfl fun p _ => ?_
  rw [bytes_of_split _ QueuedPacket.qIndex qCnt fun k held _ => (wellFormed k held).2.2.1]
  rfl

theorem bytes_of_in_dev {live : List QueuedPacket} (wellFormed : ∀ k ∈ live, k.WellFormed) (p : Nat) :
    bytesOf (fun k => k.inDev = p) live = ∑ q ∈ range qCnt, ingressBytes live p q :=
  bytes_of_split _ QueuedPacket.qIndex qCnt fun k held _ => (wellFormed k held).2.2.1

theorem bytes_of_out_dev {live : List QueuedPacket} (wellFormed : ∀ k ∈ live, k.WellFormed) (p : Nat) :
    bytesOf (fun k => k.outDev = p) live = ∑ q ∈ range qCnt, egressBytes live p q :=
  bytes_of_split _ QueuedPacket.qIndex qCnt fun k held _ => (wellFormed k held).2.2.1

theorem bytes_of_ingress_sp {live : List QueuedPacket} (wellFormed : ∀ k ∈ live, k.WellFormed)
    (sp : Nat) :
    bytesOf (fun k => getIngressSP k.inDev k.qIndex = sp) live =
      ∑ p ∈ range pCnt, ∑ q ∈ range qCnt, if getIngressSP p q = sp then ingressBytes live p q else 0 := by
  rw [bytes_of_split _ QueuedPacket.inDev pCnt fun k held _ => (wellFormed k held).1]
  refine sum_congr rfl fun p _ => ?_
  rw [bytes_of_split _ QueuedPacket.qIndex qCnt fun k held _ => (wellFormed k held).2.2.1]
  refine sum_congr rfl fun q _ => ?_
  split_ifs with pool
  · exact bytes_of_congr fun k _ => by
      by_cases port : k.inDev = p <;> by_cases queue : k.qIndex = q <;> simp [port, queue, pool]
  · exact bytes_of_eq_zero fun k _ => by
      by_cases port : k.inDev = p <;> by_cases queue : k.qIndex = q <;> simp [port, queue, pool]

theorem pool_shared_add_q_min_le {live : List QueuedPacket} (wellFormed : ∀ k ∈ live, k.WellFormed)
    (qMin : Nat) {o c : Nat} (portBound : o < pCnt) (queueBound : c < qCnt) :
    egressPoolShared live qMin (getEgressSP o c) + min (egressBytes live o c) qMin ≤
      bytesOf (fun _ => true) live := by
  rw [bytes_of_cells wellFormed, egressPoolShared, sum_cells_split _ portBound queueBound,
    sum_cells_split (egressBytes live) portBound queueBound, if_pos rfl]
  have rest : (∑ p ∈ range pCnt, ∑ q ∈ range qCnt, if p = o ∧ q = c then 0 else
      if getEgressSP p q = getEgressSP o c then egressBytes live p q - qMin else 0) ≤
      ∑ p ∈ range pCnt, ∑ q ∈ range qCnt, if p = o ∧ q = c then 0 else egressBytes live p q :=
    sum_le_sum fun p _ => sum_le_sum fun q _ => by split_ifs <;> omega
  omega

theorem pool_shared_le_total {live : List QueuedPacket} (wellFormed : ∀ k ∈ live, k.WellFormed)
    (qMin sp : Nat) : egressPoolShared live qMin sp ≤ bytesOf (fun _ => true) live := by
  rw [bytes_of_cells wellFormed]
  exact sum_le_sum fun p _ => sum_le_sum fun q _ => by split_ifs <;> omega

theorem shared_le_pool (live : List QueuedPacket) (qMin : Nat) {o c : Nat} (portBound : o < pCnt)
    (queueBound : c < qCnt) :
    egressBytes live o c - qMin ≤ egressPoolShared live qMin (getEgressSP o c) := by
  rw [egressPoolShared, sum_cells_split _ portBound queueBound, if_pos rfl]
  omega

theorem egress_pool_shared_change {live other : List QueuedPacket} {o c : Nat}
    (portBound : o < pCnt) (queueBound : c < qCnt)
    (agree : ∀ p q, ¬(p = o ∧ q = c) → egressBytes other p q = egressBytes live p q)
    (qMin sp : Nat) :
    egressPoolShared other qMin sp +
        (if getEgressSP o c = sp then egressBytes live o c - qMin else 0) =
      egressPoolShared live qMin sp +
        (if getEgressSP o c = sp then egressBytes other o c - qMin else 0) := by
  unfold egressPoolShared
  exact sum_cells_change (fun p q => if getEgressSP p q = sp then egressBytes other p q - qMin else 0)
    (fun p q => if getEgressSP p q = sp then egressBytes live p q - qMin else 0) portBound queueBound
    fun p q off => by simp only [agree p q off]

namespace SwitchMmu

variable {m : SwitchMmu} {o c : Nat} {psize : UInt32} {e : Nat}

theorem update_egress_frame :
    (∀ p q, ¬(p = o ∧ q = c) →
      (m.updateEgressAdmission o c psize).egress.usedEgressQMinBytes p q =
          m.egress.usedEgressQMinBytes p q ∧
        (m.updateEgressAdmission o c psize).egress.usedEgressQSharedBytes p q =
          m.egress.usedEgressQSharedBytes p q) ∧
    (∀ sp, sp ≠ getEgressSP o c →
      (m.updateEgressAdmission o c psize).egress.usedEgressSPBytes sp = m.egress.usedEgressSPBytes sp) ∧
    (m.updateEgressAdmission o c psize).egress.usedEgressPortBytes =
      Function.update m.egress.usedEgressPortBytes o (m.egress.usedEgressPortBytes o + psize) := by
  dsimp only [updateEgressAdmission]
  refine ⟨fun p q off => ?_, fun sp other => ?_, ?_⟩
  · split_ifs <;> simp [set_cell_apply, off]
  · split_ifs <;> simp [Function.update_noteq other]
  · split_ifs <;> rfl

theorem remove_egress_frame :
    (∀ p q, ¬(p = o ∧ q = c) →
      (m.removeFromEgressAdmission o c psize).egress.usedEgressQMinBytes p q =
          m.egress.usedEgressQMinBytes p q ∧
        (m.removeFromEgressAdmission o c psize).egress.usedEgressQSharedBytes p q =
          m.egress.usedEgressQSharedBytes p q) ∧
    (∀ sp, sp ≠ getEgressSP o c →
      (m.removeFromEgressAdmission o c psize).egress.usedEgressSPBytes sp =
        m.egress.usedEgressSPBytes sp) ∧
    (m.removeFromEgressAdmission o c psize).egress.usedEgressPortBytes =
      Function.update m.egress.usedEgressPortBytes o (m.egress.usedEgressPortBytes o - psize) := by
  dsimp only [removeFromEgressAdmission]
  refine ⟨fun p q off => ?_, fun sp other => ?_, ?_⟩
  · split_ifs <;> simp [set_cell_apply, off]
  · split_ifs <;> simp [Function.update_noteq other]
  · split_ifs <;> rfl

/-- `UpdateEgressAdmission` on a queue holding `e` bytes, split as `min e q_min_cell` guaranteed
and `e - q_min_cell` shared, leaves the split of `e + psize`, whichever of its three branches
runs, and moves the pool by the change of the shared part. -/
theorem update_egress_cell
    (qMinSplit : (m.egress.usedEgressQMinBytes o c).toNat = min e m.config.qMinCell.toNat)
    (sharedSplit : (m.egress.usedEgressQSharedBytes o c).toNat = e - m.config.qMinCell.toNat)
    (room : e + psize.toNat < 2 ^ 32)
    (poolRoom : (m.egress.usedEgressSPBytes (getEgressSP o c)).toNat +
      min e m.config.qMinCell.toNat + psize.toNat < 2 ^ 32) :
    ((m.updateEgressAdmission o c psize).egress.usedEgressQMinBytes o c).toNat =
        min (e + psize.toNat) m.config.qMinCell.toNat ∧
      ((m.updateEgressAdmission o c psize).egress.usedEgressQSharedBytes o c).toNat =
        e + psize.toNat - m.config.qMinCell.toNat ∧
      ((m.updateEgressAdmission o c psize).egress.usedEgressSPBytes (getEgressSP o c)).toNat =
        (m.egress.usedEgressSPBytes (getEgressSP o c)).toNat +
          (e + psize.toNat - m.config.qMinCell.toNat) - (e - m.config.qMinCell.toNat) := by
  have cellBound := u32_toNat_lt m.config.qMinCell
  have qMinRoom : (m.egress.usedEgressQMinBytes o c).toNat + psize.toNat < 2 ^ 32 := by omega
  dsimp only [updateEgressAdmission]
  split_ifs with guaranteed crossing
  · rw [u32_lt_iff, u32_toNat_add_of_lt qMinRoom] at guaranteed
    simp only [set_cell_apply, and_self, if_true, u32_toNat_add_of_lt qMinRoom]
    omega
  · rw [u32_lt_iff, u32_toNat_add_of_lt qMinRoom] at guaranteed
    rw [u32_ne_iff] at crossing
    have below : e < m.config.qMinCell.toNat := by omega
    simp only [set_cell_apply, and_self, if_true, Function.update_same]
    rw [u32_toNat_add_add_sub (by omega) (by omega), u32_toNat_add_add_sub (by omega) (by omega)]
    omega
  · rw [u32_lt_iff, u32_toNat_add_of_lt qMinRoom] at guaranteed
    rw [not_not, u32_eq_iff] at crossing
    have sharedRoom : (m.egress.usedEgressQSharedBytes o c).toNat + psize.toNat < 2 ^ 32 := by omega
    have spRoom : (m.egress.usedEgressSPBytes (getEgressSP o c)).toNat + psize.toNat < 2 ^ 32 := by
      omega
    simp only [set_cell_apply, and_self, if_true, Function.update_same,
      u32_toNat_add_of_lt sharedRoom, u32_toNat_add_of_lt spRoom]
    omega

theorem remove_egress_cell
    (qMinSplit : (m.egress.usedEgressQMinBytes o c).toNat = min e m.config.qMinCell.toNat)
    (sharedSplit : (m.egress.usedEgressQSharedBytes o c).toNat = e - m.config.qMinCell.toNat)
    (held : psize.toNat ≤ e) (room : e < 2 ^ 32)
    (poolHolds : e - m.config.qMinCell.toNat ≤ (m.egress.usedEgressSPBytes (getEgressSP o c)).toNat) :
    ((m.removeFromEgressAdmission o c psize).egress.usedEgressQMinBytes o c).toNat =
        min (e - psize.toNat) m.config.qMinCell.toNat ∧
      ((m.removeFromEgressAdmission o c psize).egress.usedEgressQSharedBytes o c).toNat =
        e - psize.toNat - m.config.qMinCell.toNat ∧
      ((m.removeFromEgressAdmission o c psize).egress.usedEgressSPBytes (getEgressSP o c)).toNat =
        (m.egress.usedEgressSPBytes (getEgressSP o c)).toNat -
          ((e - m.config.qMinCell.toNat) - (e - psize.toNat - m.config.qMinCell.toNat)) := by
  dsimp only [removeFromEgressAdmission]
  split_ifs with guaranteed partly
  · rw [u32_lt_iff] at guaranteed
    have qMinHolds : psize.toNat ≤ (m.egress.usedEgressQMinBytes o c).toNat := by omega
    simp only [set_cell_apply, and_self, if_true, u32_toNat_sub_of_le qMinHolds]
    omega
  · rw [u32_eq_iff, u32_lt_iff] at partly
    have refill : (m.egress.usedEgressQMinBytes o c + m.egress.usedEgressQSharedBytes o c).toNat =
        e := by
      rw [u32_toNat_add_of_lt (by omega)]; omega
    have refillHolds : psize.toNat ≤
        (m.egress.usedEgressQMinBytes o c + m.egress.usedEgressQSharedBytes o c).toNat := by
      rw [refill]; exact held
    have sharedInPool : (m.egress.usedEgressQSharedBytes o c).toNat ≤
        (m.egress.usedEgressSPBytes (getEgressSP o c)).toNat := by omega
    simp only [set_cell_apply, and_self, if_true, Function.update_same, u32_toNat_zero,
      u32_toNat_sub_of_le refillHolds, refill, u32_toNat_sub_of_le sharedInPool]
    omega
  · rw [u32_lt_iff, not_lt] at guaranteed
    rw [u32_eq_iff, u32_lt_iff, not_and_or, not_lt] at partly
    have sharedHolds : psize.toNat ≤ (m.egress.usedEgressQSharedBytes o c).toNat := by omega
    have poolHolds' : psize.toNat ≤ (m.egress.usedEgressSPBytes (getEgressSP o c)).toNat := by
      omega
    simp only [set_cell_apply, and_self, if_true, Function.update_same,
      u32_toNat_sub_of_le sharedHolds, u32_toNat_sub_of_le poolHolds']
    omega

/-- The admission test of `DoSwitchSend` for a packet with `qIndex != 0`, egress first. -/
def admits (m : SwitchMmu) (k : QueuedPacket) : Bool :=
  m.checkEgressAdmission k.outDev k.qIndex k.size && m.checkIngressAdmission k.inDev k.qIndex k.size

def admitPacket (m : SwitchMmu) (k : QueuedPacket) : SwitchMmu :=
  (m.updateIngressAdmission k.inDev k.qIndex k.size).updateEgressAdmission k.outDev k.qIndex k.size

/-- The removals `SwitchNotifyDequeue` makes for a dequeued packet with `qIndex != 0` that
arrived on a port. -/
def release (m : SwitchMmu) (k : QueuedPacket) : SwitchMmu :=
  (m.removeFromIngressAdmission k.inDev k.qIndex k.size).removeFromEgressAdmission k.outDev
    k.qIndex k.size

theorem admits_iff_of_alpha_one {k : QueuedPacket} (alpha : m.config.pgSharedAlphaCellEgress = 1) :
    m.admits k = true ↔
      (m.egress.usedEgressSPBytes (getEgressSP k.outDev k.qIndex) + k.size ≤
          m.config.opBufferSharedLimitCell ∧
        m.egress.usedEgressPortBytes k.outDev + k.size ≤ m.config.opUcPortConfigCell ∧
        m.egress.usedEgressQSharedBytes k.outDev k.qIndex + k.size ≤ m.config.opUcPortConfig1Cell ∧
        (m.egress.usedEgressQSharedBytes k.outDev k.qIndex).toNat + k.size.toNat +
            (m.egress.usedEgressSPBytes (getEgressSP k.outDev k.qIndex)).toNat ≤
          m.config.opBufferSharedLimitCell.toNat) ∧
      m.checkIngressAdmission k.inDev k.qIndex k.size = true := by
  rw [admits, Bool.and_eq_true, check_egress_true_iff_of_alpha_one alpha]

end SwitchMmu

/-! ## The accounting invariant -/

structure IngressAccounts (u : IngressUsage) (live : List QueuedPacket) : Prop where
  total : u.usedTotalBytes.toNat = bytesOf (fun _ => true) live
  pg : ∀ p q, (u.usedIngressPGBytes p q).toNat = ingressBytes live p q
  port : ∀ p, (u.usedIngressPortBytes p).toNat = bytesOf (fun k => k.inDev = p) live
  sp : ∀ sp,
    (u.usedIngressSPBytes sp).toNat = bytesOf (fun k => getIngressSP k.inDev k.qIndex = sp) live
  headroom : ∀ p q, (u.usedIngressPGHeadroomBytes p q).toNat ≤ ingressBytes live p q

structure EgressAccounts (u : EgressUsage) (qMinCell : UInt32) (live : List QueuedPacket) : Prop where
  qMin : ∀ p q, (u.usedEgressQMinBytes p q).toNat = min (egressBytes live p q) qMinCell.toNat
  qShared : ∀ p q, (u.usedEgressQSharedBytes p q).toNat = egressBytes live p q - qMinCell.toNat
  port : ∀ p, (u.usedEgressPortBytes p).toNat = bytesOf (fun k => k.outDev = p) live
  sp : ∀ sp, (u.usedEgressSPBytes sp).toNat = egressPoolShared live qMinCell.toNat sp

/-- The buffer counters of `m` account for the held packets `live`, which never exceed
`max_buffer`. -/
structure Accounts (m : SwitchMmu) (live : List QueuedPacket) : Prop where
  wellFormed : ∀ k ∈ live, k.WellFormed
  withinBuffer : bytesOf (fun _ => true) live ≤ m.config.maxBufferBytes.toNat
  ingress : IngressAccounts m.ingress live
  egress : EgressAccounts m.egress m.config.qMinCell live

theorem accounts_init (start : SwitchMmu) : Accounts start.initSwitch [] where
  wellFormed := by simp
  withinBuffer := Nat.zero_le _
  ingress := ⟨rfl, fun _ _ => rfl, fun _ => rfl, fun _ => rfl, fun _ _ => le_rfl⟩
  egress := by
    refine ⟨fun _ _ => ?_, fun _ _ => ?_, fun _ => rfl, fun _ => ?_⟩ <;>
      simp [egressBytes, egressPoolShared, EgressUsage.zero]

section Steps

variable {m : SwitchMmu} {live : List QueuedPacket} {k : QueuedPacket}

namespace IngressAccounts

theorem update (accounts : IngressAccounts m.ingress live)
    (room : bytesOf (fun _ => true) live + k.size.toNat < 2 ^ 32) :
    IngressAccounts (m.updateIngressAdmission k.inDev k.qIndex k.size).ingress (k :: live) := by
  have grow : ∀ {counter : UInt32} {select : QueuedPacket → Bool},
      counter.toNat ≤ bytesOf select live → (counter + k.size).toNat = counter.toNat + k.size.toNat :=
    add_size_toNat room
  refine ⟨?_, fun p q => ?_, fun p => ?_, fun sp => ?_, fun p q => ?_⟩ <;>
    dsimp only [SwitchMmu.updateIngressAdmission]
  · rw [grow accounts.total.le, accounts.total, bytes_of_cons, if_pos rfl, Nat.add_comm]
  · rw [set_cell_apply, ingress_bytes_cons]
    split_ifs with cell
    · obtain ⟨rfl, rfl⟩ := cell
      rw [grow (accounts.pg _ _).le, accounts.pg, Nat.add_comm]
    · rw [zero_add, accounts.pg]
  · rw [Function.update_apply, bytes_of_key_cons QueuedPacket.inDev]
    split_ifs with same
    · subst same
      rw [grow (accounts.port _).le, accounts.port, Nat.add_comm]
    · rw [zero_add, accounts.port]
  · rw [Function.update_apply, bytes_of_key_cons fun k => getIngressSP k.inDev k.qIndex]
    split_ifs with same
    · subst same
      rw [grow (accounts.sp _).le, accounts.sp, Nat.add_comm]
    · rw [zero_add, accounts.sp]
  · have before := accounts.headroom p q
    by_cases cell : p = k.inDev ∧ q = k.qIndex
    · obtain ⟨rfl, rfl⟩ := cell
      have same : k.inDev = k.inDev ∧ k.qIndex = k.qIndex := ⟨rfl, rfl⟩
      rw [ingress_bytes_cons, if_pos same]
      split_ifs
      · rw [set_cell_apply, if_pos same, grow before]
        omega
      · omega
    · rw [ingress_bytes_cons, if_neg cell, zero_add]
      split_ifs
      · rwa [set_cell_apply, if_neg cell]
      · exact before

theorem remove (accounts : IngressAccounts m.ingress live) (held : k ∈ live) :
    IngressAccounts (m.removeFromIngressAdmission k.inDev k.qIndex k.size).ingress (live.erase k) := by
  refine ⟨?_, fun p q => ?_, fun p => ?_, fun sp => ?_, fun p q => ?_⟩ <;>
    dsimp only [SwitchMmu.removeFromIngressAdmission]
  · exact raise_sub_size_toNat held rfl accounts.total
  · have split := ingress_bytes_erase held p q
    rw [set_cell_apply]
    split_ifs at split ⊢ with cell
    · obtain ⟨rfl, rfl⟩ := cell
      exact raise_sub_size_toNat held (by simp) (accounts.pg _ _)
    · rw [accounts.pg]
      omega
  · have split := bytes_of_key_erase QueuedPacket.inDev held p
    rw [Function.update_apply]
    split_ifs at split ⊢ with same
    · subst same
      exact raise_sub_size_toNat held (by simp) (accounts.port _)
    · rw [accounts.port]
      omega
  · have split := bytes_of_key_erase (fun k => getIngressSP k.inDev k.qIndex) held sp
    rw [Function.update_apply]
    split_ifs at split ⊢ with same
    · subst same
      rw [SwitchMmu.raise_to_raise_to]
      exact raise_sub_size_toNat held (by simp) (accounts.sp _)
    · rw [accounts.sp]
      omega
  · have split := ingress_bytes_erase held p q
    have before := accounts.headroom p q
    rw [set_cell_apply]
    split_ifs at split ⊢ with cell positive
    · obtain ⟨rfl, rfl⟩ := cell
      have above : k.size.toNat < (m.ingress.usedIngressPGHeadroomBytes k.inDev k.qIndex).toNat := by
        exact_mod_cast sub_pos.mp positive
      rw [u32_toNat_sub_of_le above.le]
      omega
    · exact Nat.zero_le _
    · omega

end IngressAccounts

namespace EgressAccounts

theorem update (accounts : EgressAccounts m.egress m.config.qMinCell live)
    (wellFormed : ∀ k' ∈ live, k'.WellFormed) (valid : k.WellFormed)
    (room : bytesOf (fun _ => true) live + k.size.toNat < 2 ^ 32) :
    EgressAccounts (m.updateEgressAdmission k.outDev k.qIndex k.size).egress m.config.qMinCell
      (k :: live) := by
  obtain ⟨-, portBound, queueBound, -⟩ := valid
  have pool := pool_shared_add_q_min_le wellFormed m.config.qMinCell.toNat portBound queueBound
  have queue : egressBytes live k.outDev k.qIndex ≤ bytesOf (fun _ => true) live :=
    bytes_of_le_total _ live
  obtain ⟨qMinCell, sharedCell, spCell⟩ :=
    @SwitchMmu.update_egress_cell m k.outDev k.qIndex k.size _ (accounts.qMin _ _)
      (accounts.qShared _ _) (by omega) (by rw [accounts.sp]; omega)
  obtain ⟨queueFrame, spFrame, portFrame⟩ := @SwitchMmu.update_egress_frame m k.outDev k.qIndex k.size
  have agree : ∀ p q, ¬(p = k.outDev ∧ q = k.qIndex) →
      egressBytes (k :: live) p q = egressBytes live p q := fun _ _ => egress_bytes_cons_of_ne
  have same : k.outDev = k.outDev ∧ k.qIndex = k.qIndex := ⟨rfl, rfl⟩
  refine ⟨fun p q => ?_, fun p q => ?_, fun p => ?_, fun sp => ?_⟩
  · by_cases cell : p = k.outDev ∧ q = k.qIndex
    · obtain ⟨rfl, rfl⟩ := cell
      rw [qMinCell, egress_bytes_cons, if_pos same, Nat.add_comm]
    · rw [(queueFrame p q cell).1, agree p q cell, accounts.qMin]
  · by_cases cell : p = k.outDev ∧ q = k.qIndex
    · obtain ⟨rfl, rfl⟩ := cell
      rw [sharedCell, egress_bytes_cons, if_pos same, Nat.add_comm]
    · rw [(queueFrame p q cell).2, agree p q cell, accounts.qShared]
  · rw [portFrame, Function.update_apply, bytes_of_key_cons QueuedPacket.outDev]
    split_ifs with samePort
    · subst samePort
      rw [add_size_toNat room (accounts.port _).le, accounts.port, Nat.add_comm]
    · rw [zero_add, accounts.port]
  · have change := egress_pool_shared_change portBound queueBound agree m.config.qMinCell.toNat sp
    by_cases samePool : sp = getEgressSP k.outDev k.qIndex
    · subst samePool
      rw [if_pos rfl, if_pos rfl, egress_bytes_cons, if_pos same] at change
      rw [spCell, accounts.sp]
      omega
    · rw [if_neg (Ne.symm samePool), if_neg (Ne.symm samePool)] at change
      rw [spFrame sp samePool, accounts.sp]
      omega

theorem remove (accounts : EgressAccounts m.egress m.config.qMinCell live)
    (wellFormed : ∀ k' ∈ live, k'.WellFormed) (held : k ∈ live)
    (room : bytesOf (fun _ => true) live < 2 ^ 32) :
    EgressAccounts (m.removeFromEgressAdmission k.outDev k.qIndex k.size).egress m.config.qMinCell
      (live.erase k) := by
  obtain ⟨-, portBound, queueBound, -⟩ := wellFormed k held
  have queue : egressBytes live k.outDev k.qIndex ≤ bytesOf (fun _ => true) live :=
    bytes_of_le_total _ live
  have same : k.outDev = k.outDev ∧ k.qIndex = k.qIndex := ⟨rfl, rfl⟩
  have split := egress_bytes_erase held k.outDev k.qIndex
  rw [if_pos same] at split
  obtain ⟨qMinCell, sharedCell, spCell⟩ :=
    @SwitchMmu.remove_egress_cell m k.outDev k.qIndex k.size _ (accounts.qMin _ _)
      (accounts.qShared _ _) (by omega) (by omega)
      (by rw [accounts.sp]; exact shared_le_pool live _ portBound queueBound)
  obtain ⟨queueFrame, spFrame, portFrame⟩ := @SwitchMmu.remove_egress_frame m k.outDev k.qIndex k.size
  have agree : ∀ p q, ¬(p = k.outDev ∧ q = k.qIndex) →
      egressBytes (live.erase k) p q = egressBytes live p q := fun _ _ => egress_bytes_erase_of_ne held
  refine ⟨fun p q => ?_, fun p q => ?_, fun p => ?_, fun sp => ?_⟩
  · by_cases cell : p = k.outDev ∧ q = k.qIndex
    · obtain ⟨rfl, rfl⟩ := cell
      rw [qMinCell, split, Nat.add_sub_cancel_left]
    · rw [(queueFrame p q cell).1, agree p q cell, accounts.qMin]
  · by_cases cell : p = k.outDev ∧ q = k.qIndex
    · obtain ⟨rfl, rfl⟩ := cell
      rw [sharedCell, split, Nat.add_sub_cancel_left]
    · rw [(queueFrame p q cell).2, agree p q cell, accounts.qShared]
  · have portSplit := bytes_of_key_erase QueuedPacket.outDev held p
    rw [portFrame, Function.update_apply, ← accounts.port] at *
    split_ifs at portSplit ⊢ with samePort
    · subst samePort
      rw [u32_toNat_sub_of_le (by omega)]
      omega
    · omega
  · have change := egress_pool_shared_change portBound queueBound agree m.config.qMinCell.toNat sp
    by_cases samePool : sp = getEgressSP k.outDev k.qIndex
    · subst samePool
      have inPool := shared_le_pool live m.config.qMinCell.toNat portBound queueBound
      rw [if_pos rfl, if_pos rfl] at change
      rw [spCell, accounts.sp]
      omega
    · rw [if_neg (Ne.symm samePool), if_neg (Ne.symm samePool)] at change
      rw [spFrame sp samePool, accounts.sp]
      omega

end EgressAccounts

theorem admit_packet_accounts (accounts : Accounts m live) (valid : k.WellFormed)
    (fits : m.config.maxBufferBytes.toNat + k.size.toNat < 2 ^ 32) (admitted : m.admits k = true) :
    Accounts (m.admitPacket k) (k :: live) := by
  simp only [SwitchMmu.admits, Bool.and_eq_true] at admitted
  have passes := (SwitchMmu.check_ingress_true_iff.mp admitted.2).1
  have within := accounts.withinBuffer
  rw [u32_le_iff, u32_toNat_add, accounts.ingress.total, Nat.mod_eq_of_lt (by omega)] at passes
  have room : bytesOf (fun _ => true) live + k.size.toNat < 2 ^ 32 := by omega
  refine ⟨List.forall_mem_cons.mpr ⟨valid, accounts.wellFormed⟩, ?_, accounts.ingress.update room,
    EgressAccounts.update (m := m.updateIngressAdmission k.inDev k.qIndex k.size) accounts.egress
      accounts.wellFormed valid room⟩
  show k.size.toNat + bytesOf (fun _ => true) live ≤ m.config.maxBufferBytes.toNat
  omega

theorem accounts_release (accounts : Accounts m live) (held : k ∈ live) :
    Accounts (m.release k) (live.erase k) := by
  have split := bytes_of_erase (fun _ => true) held
  have within := accounts.withinBuffer
  refine ⟨fun k' member => accounts.wellFormed k' (List.mem_of_mem_erase member), ?_,
    accounts.ingress.remove held,
    EgressAccounts.remove (m := m.removeFromIngressAdmission k.inDev k.qIndex k.size) accounts.egress
      accounts.wellFormed held (accounts.ingress.total ▸ u32_toNat_lt _)⟩
  show _ ≤ m.config.maxBufferBytes.toNat
  omega

end Steps

/-! ## Runs -/

/-- One step of a buffer run: the admitted enqueue of a packet that `fits` allows, or the dequeue
of a held packet. -/
inductive BufferStep (fits : QueuedPacket → Prop) :
    SwitchMmu × List QueuedPacket → SwitchMmu × List QueuedPacket → Prop
  | enqueue {m : SwitchMmu} {live : List QueuedPacket} {k : QueuedPacket} (valid : k.WellFormed)
      (allowed : fits k) (admitted : m.admits k = true) :
      BufferStep fits (m, live) (m.admitPacket k, k :: live)
  | dequeue {m : SwitchMmu} {live : List QueuedPacket} {k : QueuedPacket} (held : k ∈ live) :
      BufferStep fits (m, live) (m.release k, live.erase k)

/-- The states, with the packets they hold, of the runs that start from `InitSwitch`. -/
def BufferReachable (fits : QueuedPacket → Prop) (start : SwitchMmu)
    (state : SwitchMmu × List QueuedPacket) : Prop :=
  Relation.ReflTransGen (BufferStep fits) (start.initSwitch, []) state

section Runs

variable {fits : QueuedPacket → Prop} {start : SwitchMmu} {state : SwitchMmu × List QueuedPacket}

theorem reachable_config (reach : BufferReachable fits start state) :
    state.1.config = start.initSwitch.config := by
  induction reach with
  | refl => rfl
  | tail _ step same => cases step <;> exact same

theorem well_formed_of_reachable (reach : BufferReachable fits start state) :
    ∀ k ∈ state.2, k.WellFormed := by
  induction reach with
  | refl => exact fun _ held => absurd held (List.not_mem_nil _)
  | tail _ step wellFormed =>
      cases step with
      | enqueue valid => exact List.forall_mem_cons.mpr ⟨valid, wellFormed⟩
      | dequeue => exact fun k held => wellFormed k (List.mem_of_mem_erase held)

theorem accounts_of_reachable
    (room : ∀ k, fits k → start.initSwitch.config.maxBufferBytes.toNat + k.size.toNat < 2 ^ 32)
    (reach : BufferReachable fits start state) : Accounts state.1 state.2 := by
  induction reach with
  | refl => exact accounts_init start
  | tail before step accounts =>
      cases step with
      | enqueue valid allowed admitted =>
          have config : _ = start.initSwitch.config := reachable_config before
          exact admit_packet_accounts accounts valid (config ▸ room _ allowed) admitted
      | dequeue held => exact accounts_release accounts held

end Runs

/-- The counters as sums, over the MMU's own port and queue ranges, of the bytes held per
cell. -/
structure CounterSums (m : SwitchMmu) (live : List QueuedPacket) : Prop where
  ingressPG : ∀ p q, (m.ingress.usedIngressPGBytes p q).toNat = ingressBytes live p q
  ingressPort : ∀ p,
    (m.ingress.usedIngressPortBytes p).toNat = ∑ q ∈ range qCnt, ingressBytes live p q
  ingressSP : ∀ sp, (m.ingress.usedIngressSPBytes sp).toNat =
    ∑ p ∈ range pCnt, ∑ q ∈ range qCnt, if getIngressSP p q = sp then ingressBytes live p q else 0
  totalIngress :
    m.ingress.usedTotalBytes.toNat = ∑ p ∈ range pCnt, ∑ q ∈ range qCnt, ingressBytes live p q
  totalEgress :
    m.ingress.usedTotalBytes.toNat = ∑ p ∈ range pCnt, ∑ q ∈ range qCnt, egressBytes live p q
  headroom : ∀ p q, m.ingress.usedIngressPGHeadroomBytes p q ≤ m.ingress.usedIngressPGBytes p q
  egressQMin : ∀ p q,
    (m.egress.usedEgressQMinBytes p q).toNat = min (egressBytes live p q) m.config.qMinCell.toNat
  egressQShared : ∀ p q,
    (m.egress.usedEgressQSharedBytes p q).toNat = egressBytes live p q - m.config.qMinCell.toNat
  egressPort : ∀ p,
    (m.egress.usedEgressPortBytes p).toNat = ∑ q ∈ range qCnt, egressBytes live p q
  egressSP : ∀ sp,
    (m.egress.usedEgressSPBytes sp).toNat = egressPoolShared live m.config.qMinCell.toNat sp

theorem counter_sums_of_accounts {m : SwitchMmu} {live : List QueuedPacket}
    (accounts : Accounts m live) : CounterSums m live := by
  have wellFormed := accounts.wellFormed
  refine ⟨accounts.ingress.pg, fun p => ?_, fun sp => ?_, ?_, ?_, fun p q => ?_, accounts.egress.qMin,
    accounts.egress.qShared, fun p => ?_, accounts.egress.sp⟩
  · rw [accounts.ingress.port, bytes_of_in_dev wellFormed]
  · rw [accounts.ingress.sp, bytes_of_ingress_sp wellFormed]
  · rw [accounts.ingress.total, bytes_of_ingress_cells wellFormed]
  · rw [accounts.ingress.total, bytes_of_cells wellFormed]
  · rw [u32_le_iff, accounts.ingress.pg]
    exact accounts.ingress.headroom p q
  · rw [accounts.egress.port, bytes_of_out_dev wellFormed]

/-- In every run whose packets each fit beside `max_buffer` in 32 bits, the counters are the sums
of the bytes held. -/
theorem buffer_counters_of_reachable {start m : SwitchMmu} {live : List QueuedPacket}
    (reach : BufferReachable
      (fun k => start.initSwitch.config.maxBufferBytes.toNat + k.size.toNat < 2 ^ 32) start (m, live)) :
    CounterSums m live :=
  counter_sums_of_accounts (accounts_of_reachable (fun _ allowed => allowed) reach)

def smallSwitch : SwitchMmu :=
  (((SwitchMmu.construct SwitchMmu.zeroSwitch).configBufferSize 10384).setActivePortCnt 1).setPgHdrmLimit 500

def smallPacket : QueuedPacket := ⟨1, 2, 3, 1000⟩

theorem small_pair_reachable {fits : QueuedPacket → Prop} (allowed : fits smallPacket) :
    BufferReachable fits smallSwitch
      ((smallSwitch.initSwitch.admitPacket smallPacket).admitPacket smallPacket, [smallPacket, smallPacket]) :=
  .tail (.tail .refl (.enqueue (by decide) allowed ((SwitchMmu.admits_iff_of_alpha_one rfl).mpr
    (by decide)))) (.enqueue (by decide) allowed ((SwitchMmu.admits_iff_of_alpha_one rfl).mpr (by decide)))

theorem small_run_counters :
    BufferReachable (fun k => smallSwitch.initSwitch.config.maxBufferBytes.toNat + k.size.toNat < 2 ^ 32)
        smallSwitch
        (((smallSwitch.initSwitch.admitPacket smallPacket).admitPacket smallPacket).release smallPacket,
          [smallPacket]) ∧
      CounterSums (((smallSwitch.initSwitch.admitPacket smallPacket).admitPacket smallPacket).release smallPacket)
        [smallPacket] := by
  have reach : BufferReachable
      (fun k => smallSwitch.initSwitch.config.maxBufferBytes.toNat + k.size.toNat < 2 ^ 32) smallSwitch
      (((smallSwitch.initSwitch.admitPacket smallPacket).admitPacket smallPacket).release smallPacket,
        [smallPacket]) :=
    .tail (small_pair_reachable (by decide)) (.dequeue (by decide))
  exact ⟨reach, buffer_counters_of_reachable reach⟩

/-- `max_buffer = 2^32 - 1` and no active port, so every limit is the whole buffer. -/
def wrapSwitch : SwitchMmu :=
  ((SwitchMmu.construct SwitchMmu.zeroSwitch).configBufferSize 0xffffffff).setActivePortCnt 0

def wrapFirst : QueuedPacket := ⟨1, 2, 3, 0x80000000⟩

def wrapSecond : QueuedPacket := ⟨3, 4, 3, 0x80000000⟩

/-- Two admitted packets of `2^31` bytes: the second passes `CheckIngressAdmission` because
`used_total + psize` wraps to 0, and `used_total` ends at 0 with `2^32` bytes held. -/
theorem admitted_wrap_breaks_accounting :
    BufferReachable (fun _ => True) wrapSwitch
        ((wrapSwitch.initSwitch.admitPacket wrapFirst).admitPacket wrapSecond, [wrapSecond, wrapFirst]) ∧
      ¬CounterSums ((wrapSwitch.initSwitch.admitPacket wrapFirst).admitPacket wrapSecond) [wrapSecond, wrapFirst] := by
  refine ⟨.tail (.tail .refl (.enqueue (by decide) trivial
      ((SwitchMmu.admits_iff_of_alpha_one rfl).mpr (by decide))))
    (.enqueue (by decide) trivial ((SwitchMmu.admits_iff_of_alpha_one rfl).mpr (by decide))),
    fun sums => ?_⟩
  have total := sums.totalIngress
  rw [← bytes_of_ingress_cells (by decide)] at total
  exact absurd total (by decide)

end ConWeaveSwitch
