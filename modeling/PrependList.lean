import PrependList.Main
import PrependList.Session.Basic
import PrependList.Proofs.Chain.Refusal
import PrependList.Proofs.Demo.EarlyExit
import PrependList.Proofs.Demo.Verdict
import PrependList.Proofs.Session.Agreement
import PrependList.Proofs.Command.Grammar
import PrependList.Proofs.Command.Settlement
import PrependList.Proofs.Command.Output
import PrependList.Log.Logger
import PrependList.Log.Story
import PrependList.Session.Host
import PrependList.Proofs.Log.Selection
import PrependList.Proofs.Session.Logging
import PrependList.Proofs.Command.ExitStatus
import PrependList.Proofs.Session.Visits
import PrependList.Proofs.Session.Accounting
import PrependList.Proofs.Demo.Interruption
import PrependList.Proofs.Demo.Effort
import PrependList.Proofs.Print.Entries
import PrependList.Proofs.Session.Queries
import PrependList.Proofs.Print.Inverse
import PrependList.Proofs.Chain.Legible
import PrependList.Proofs.Text.Quoted
import PrependList.Proofs.Chain.Error
import PrependList.Proofs.Chain.Reversal
import PrependList.Proofs.Demo.Report
import PrependList.Proofs.Session.Reversal
import PrependList.Proofs.Log.Lines
import PrependList.Proofs.Command.Announcement
import PrependList.Proofs.Command.Verbosity
