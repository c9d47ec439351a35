import ConWeaveSwitch.Mmu.State
import Mathlib.Algebra.Order.Field.Basic

/-!
# ECN marking

`ShouldSendCN` with the random draw as an argument: for a fixed draw a longer queue is marked
whenever a shorter one is (`should_send_cn_mono_of_shared_le`), and `ConfigEcn`'s kilobyte
thresholds act in bytes while `1000 · kmax` fits in 32 bits (`config_ecn_marking`).
-/

namespace ConWeaveSwitch

set_option autoImplicit false

namespace SwitchMmu

def ecnMarkProbability (shared kmin kmax : UInt32) (pmax : ℚ) : ℚ :=
  ((shared - kmin).toNat : ℚ) / (kmax - kmin).toNat * pmax

/-- `ShouldSendCN(ifindex, qIndex)` with `draw` the value of `m_uniform_random_var.GetValue(0, 1)`,
which the code draws only between the thresholds. -/
def shouldSendCN (m : SwitchMmu) (ifindex qIndex : Nat) (draw : ℚ) : Bool :=
  if qIndex = 0 then false
  else
    let shared := m.egress.usedEgressQSharedBytes ifindex qIndex
    if shared > m.config.kmax ifindex then true
    else if shared > m.config.kmin ifindex ∧ m.config.kmin ifindex ≠ m.config.kmax ifindex then
      decide (draw < ecnMarkProbability shared (m.config.kmin ifindex) (m.config.kmax ifindex)
        (m.config.pmax ifindex))
    else false

@[simp] theorem config_ecn_egress (m : SwitchMmu) (port : Nat) (kmin kmax : UInt32) (pmax : ℚ) :
    (m.configEcn port kmin kmax pmax).egress = m.egress := rfl

variable {shared shared' kmin kmax : UInt32} {pmax : ℚ}

theorem ecn_mark_probability_eq (above : kmin.toNat < shared.toNat) (below : shared.toNat ≤ kmax.toNat) :
    ecnMarkProbability shared kmin kmax pmax =
      ((shared.toNat - kmin.toNat : ℕ) : ℚ) / (kmax.toNat - kmin.toNat : ℕ) * pmax := by
  rw [ecnMarkProbability, u32_toNat_sub_of_le above.le, u32_toNat_sub_of_le (above.trans_le below).le]

theorem ecn_mark_probability_mono (above : kmin.toNat < shared.toNat) (le : shared.toNat ≤ shared'.toNat)
    (below : shared'.toNat ≤ kmax.toNat) (positive : 0 < ecnMarkProbability shared kmin kmax pmax) :
    ecnMarkProbability shared kmin kmax pmax ≤ ecnMarkProbability shared' kmin kmax pmax := by
  rw [ecn_mark_probability_eq above (le.trans below),
    ecn_mark_probability_eq (above.trans_le le) below] at *
  have ratioNonneg : (0 : ℚ) ≤ ((shared.toNat - kmin.toNat : ℕ) : ℚ) / (kmax.toNat - kmin.toNat : ℕ) :=
    by positivity
  have pmaxPos : 0 < pmax := pos_of_mul_pos_right positive ratioNonneg
  apply mul_le_mul_of_nonneg_right _ pmaxPos.le
  apply div_le_div_of_nonneg_right _ (Nat.cast_nonneg _)
  exact_mod_cast Nat.sub_le_sub_right le _

variable {m m' : SwitchMmu} {ifindex qIndex : Nat} {draw : ℚ}

theorem should_send_cn_eq (nonzero : qIndex ≠ 0) :
    m.shouldSendCN ifindex qIndex draw =
      (decide (m.config.kmax ifindex < m.egress.usedEgressQSharedBytes ifindex qIndex) ||
        decide (m.config.kmin ifindex < m.egress.usedEgressQSharedBytes ifindex qIndex ∧
          m.config.kmin ifindex ≠ m.config.kmax ifindex ∧
          draw < ecnMarkProbability (m.egress.usedEgressQSharedBytes ifindex qIndex)
            (m.config.kmin ifindex) (m.config.kmax ifindex) (m.config.pmax ifindex))) := by
  rw [shouldSendCN, if_neg nonzero]
  dsimp only
  split_ifs with full between
  · rw [decide_eq_true full]
    rfl
  · rw [decide_eq_false full, Bool.false_or]
    exact decide_eq_decide.mpr ⟨fun drawBelow => ⟨between.1, between.2, drawBelow⟩, fun h => h.2.2⟩
  · rw [decide_eq_false full, decide_eq_false fun h => between ⟨h.1, h.2.1⟩]
    rfl

/-- For a fixed nonnegative draw, a queue of an egress port holding at least as many shared bytes,
under the same ECN parameters, is marked whenever the shorter one is. -/
theorem should_send_cn_mono_of_shared_le (drawNonneg : 0 ≤ draw)
    (sameKmin : m'.config.kmin ifindex = m.config.kmin ifindex)
    (sameKmax : m'.config.kmax ifindex = m.config.kmax ifindex)
    (samePmax : m'.config.pmax ifindex = m.config.pmax ifindex)
    (le : m.egress.usedEgressQSharedBytes ifindex qIndex ≤ m'.egress.usedEgressQSharedBytes ifindex qIndex)
    (marks : m.shouldSendCN ifindex qIndex draw = true) : m'.shouldSendCN ifindex qIndex draw = true := by
  by_cases zero : qIndex = 0
  · rw [shouldSendCN, if_pos zero] at marks
    exact absurd marks Bool.false_ne_true
  rw [should_send_cn_eq zero, sameKmin, sameKmax, samePmax]
  rw [should_send_cn_eq zero] at marks
  simp only [Bool.or_eq_true, decide_eq_true_eq, u32_lt_iff, u32_le_iff] at marks le ⊢
  by_cases full : (m.config.kmax ifindex).toNat < (m'.egress.usedEgressQSharedBytes ifindex qIndex).toNat
  · exact .inl full
  rcases marks with above | ⟨kminBelow, distinct, drawBelow⟩
  · omega
  have probability := ecn_mark_probability_mono kminBelow le (not_lt.mp full)
    (drawNonneg.trans_lt drawBelow)
  exact .inr ⟨by omega, distinct, drawBelow.trans_le probability⟩

def ecnQueued (bytes : UInt32) : SwitchMmu :=
  let m := (construct zeroSwitch).configEcn 1 5 200 (1 / 5)
  { m with egress := { m.egress with usedEgressQSharedBytes := fun _ _ => bytes } }

theorem ecn_queued_marks_longer :
    (0 : ℚ) ≤ 0 ∧ (ecnQueued 300000).config.kmin 1 = (ecnQueued 250000).config.kmin 1 ∧
      (ecnQueued 300000).config.kmax 1 = (ecnQueued 250000).config.kmax 1 ∧
      (ecnQueued 300000).config.pmax 1 = (ecnQueued 250000).config.pmax 1 ∧
      (ecnQueued 250000).egress.usedEgressQSharedBytes 1 3 ≤
        (ecnQueued 300000).egress.usedEgressQSharedBytes 1 3 ∧
      (ecnQueued 250000).shouldSendCN 1 3 0 = true ∧ (ecnQueued 300000).shouldSendCN 1 3 0 = true :=
  have marks : (ecnQueued 250000).shouldSendCN 1 3 0 = true := by decide
  ⟨le_rfl, rfl, rfl, rfl, by decide, marks, should_send_cn_mono_of_shared_le le_rfl rfl rfl rfl
    (by decide) marks⟩

theorem kilobytes_toNat {k : UInt32} (fits : 1000 * k.toNat < 2 ^ 32) : (k * 1000).toNat = 1000 * k.toNat := by
  rw [u32_toNat_mul, show (1000 : UInt32).toNat = 1000 from rfl, Nat.mod_eq_of_lt (by omega), Nat.mul_comm]

/-- After `ConfigEcn(port, kmin, kmax, pmax)` with `kmin ≤ kmax` kilobytes and `1000 · kmax`
below `2^32`, a queue other than 0 of the port is marked for every draw once its shared bytes pass
`1000 · kmax`, never at or below `1000 · kmin`, and in between exactly when the draw falls below
`(q − 1000 · kmin) / (1000 · kmax − 1000 · kmin) · pmax`. -/
theorem config_ecn_marking (m : SwitchMmu) {port : Nat} {kmin kmax : UInt32} {pmax draw : ℚ}
    (nonzero : qIndex ≠ 0) (ordered : kmin.toNat ≤ kmax.toNat) (fits : 1000 * kmax.toNat < 2 ^ 32) :
    (1000 * kmax.toNat < (m.egress.usedEgressQSharedBytes port qIndex).toNat →
        (m.configEcn port kmin kmax pmax).shouldSendCN port qIndex draw = true) ∧
      ((m.egress.usedEgressQSharedBytes port qIndex).toNat ≤ 1000 * kmin.toNat →
        (m.configEcn port kmin kmax pmax).shouldSendCN port qIndex draw = false) ∧
      (1000 * kmin.toNat < (m.egress.usedEgressQSharedBytes port qIndex).toNat →
        (m.egress.usedEgressQSharedBytes port qIndex).toNat ≤ 1000 * kmax.toNat →
        ((m.configEcn port kmin kmax pmax).shouldSendCN port qIndex draw = true ↔
          draw < (((m.egress.usedEgressQSharedBytes port qIndex).toNat - 1000 * kmin.toNat : ℕ) : ℚ) /
            (1000 * kmax.toNat - 1000 * kmin.toNat : ℕ) * pmax)) := by
  have kminBytes : ((m.configEcn port kmin kmax pmax).config.kmin port).toNat = 1000 * kmin.toNat := by
    simp only [configEcn, Function.update_same]
    exact kilobytes_toNat (by omega)
  have kmaxBytes : ((m.configEcn port kmin kmax pmax).config.kmax port).toNat = 1000 * kmax.toNat := by
    simp only [configEcn, Function.update_same]
    exact kilobytes_toNat fits
  have samePmax : (m.configEcn port kmin kmax pmax).config.pmax port = pmax := Function.update_same _ _ _
  have marking := congrArg (· = true)
    (@should_send_cn_eq (m.configEcn port kmin kmax pmax) port qIndex draw nonzero)
  simp only [config_ecn_egress, Bool.or_eq_true, decide_eq_true_eq, u32_lt_iff, u32_ne_iff, kminBytes,
    kmaxBytes, samePmax, eq_iff_iff] at marking
  refine ⟨fun full => marking.mpr (.inl full), fun empty => ?_, fun above below => ?_⟩
  · rw [Bool.eq_false_iff, ne_eq, marking]
    rintro (full | ⟨above, -, -⟩) <;> omega
  · rw [marking, ecn_mark_probability_eq (by rw [kminBytes]; exact above) (by rw [kmaxBytes]; exact below),
      kminBytes, kmaxBytes]
    constructor
    · rintro (full | ⟨-, -, drawBelow⟩)
      · omega
      · exact drawBelow
    · intro drawBelow
      have distinct : 1000 * kmin.toNat ≠ 1000 * kmax.toNat := by omega
      exact .inr ⟨above, distinct, drawBelow⟩

theorem ecn_thresholds_in_kilobytes :
    (3 : Nat) ≠ 0 ∧ (5 : UInt32).toNat ≤ (200 : UInt32).toNat ∧ 1000 * (200 : UInt32).toNat < 2 ^ 32 ∧
      (1000 * (200 : UInt32).toNat < ((construct zeroSwitch).egress.usedEgressQSharedBytes 1 3).toNat →
          ((construct zeroSwitch).configEcn 1 5 200 (1 / 5)).shouldSendCN 1 3 (1 / 2) = true) ∧
        (((construct zeroSwitch).egress.usedEgressQSharedBytes 1 3).toNat ≤ 1000 * (5 : UInt32).toNat →
          ((construct zeroSwitch).configEcn 1 5 200 (1 / 5)).shouldSendCN 1 3 (1 / 2) = false) ∧
        (1000 * (5 : UInt32).toNat < ((construct zeroSwitch).egress.usedEgressQSharedBytes 1 3).toNat →
          ((construct zeroSwitch).egress.usedEgressQSharedBytes 1 3).toNat ≤ 1000 * (200 : UInt32).toNat →
          (((construct zeroSwitch).configEcn 1 5 200 (1 / 5)).shouldSendCN 1 3 (1 / 2) = true ↔
            (1 / 2 : ℚ) < ((((construct zeroSwitch).egress.usedEgressQSharedBytes 1 3).toNat -
                1000 * (5 : UInt32).toNat : ℕ) : ℚ) /
              (1000 * (200 : UInt32).toNat - 1000 * (5 : UInt32).toNat : ℕ) * (1 / 5))) :=
  ⟨by decide, by decide, by decide, config_ecn_marking _ (by decide) (by decide) (by decide)⟩

end SwitchMmu

end ConWeaveSwitch
