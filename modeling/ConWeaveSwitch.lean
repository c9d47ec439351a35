import ConWeaveSwitch.Word
import ConWeaveSwitch.Settings
import ConWeaveSwitch.Mmu.State
import ConWeaveSwitch.Mmu.Admission
import ConWeaveSwitch.Mmu.Accounting
import ConWeaveSwitch.Mmu.Limits
import ConWeaveSwitch.Mmu.Pfc
import ConWeaveSwitch.Cpem.Thresholds
import ConWeaveSwitch.Cpem.Credit
import ConWeaveSwitch.Node.Routing
import ConWeaveSwitch.Header.CreditFeedback
import ConWeaveSwitch.Node.Forwarding
import ConWeaveSwitch.Cpem.Generator
import ConWeaveSwitch.Cpem.Feedback
import ConWeaveSwitch.Node.Cpem
import ConWeaveSwitch.Mmu.Config
import ConWeaveSwitch.Node.Murmur
import ConWeaveSwitch.Mmu.Ecn
import ConWeaveSwitch.Node.Pipeline
import ConWeaveSwitch.Node.CreditRuns
