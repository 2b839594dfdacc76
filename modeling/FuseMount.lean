import FuseMount.Main
import FuseMount.Proofs.Config.Influence
import FuseMount.Proofs.Config.Spelling
import FuseMount.Proofs.Failure.Conversion
import FuseMount.Proofs.Failure.Printing
import FuseMount.Proofs.Failure.Trace
import FuseMount.Proofs.Helper.DirectMount
import FuseMount.Proofs.Helper.Separator
import FuseMount.Proofs.InitFlags.Negotiation
import FuseMount.Proofs.InitFlags.Readdirplus
import FuseMount.Proofs.MountFlags.Action
import FuseMount.Proofs.MountPoint.Recognition
import FuseMount.Proofs.Options.Argument
import FuseMount.Proofs.Options.Completion
import FuseMount.Proofs.Options.Escaping
import FuseMount.Proofs.Options.Expression
import FuseMount.Proofs.Options.Refinement
import FuseMount.Proofs.Options.Stability
import FuseMount.Proofs.Program.Discipline
import FuseMount.Proofs.Program.Feedback
import FuseMount.Proofs.Program.HelperLine
import FuseMount.Proofs.Program.LogFilter
import FuseMount.Proofs.Session.Diagnosis
import FuseMount.Proofs.Settings.RoundTrip
import FuseMount.Proofs.Unmount.Discovery
import FuseMount.Proofs.Unmount.HelperUse
import FuseMount.Proofs.Unmount.Operand
