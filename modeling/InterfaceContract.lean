import InterfaceContract.Contract.Compilation
import InterfaceContract.Declaration.Builder
import InterfaceContract.Dispatcher.Creation
import InterfaceContract.Block.Compilation
import InterfaceContract.Pipeline.EditingHook
import InterfaceContract.Logging.Logger
import InterfaceContract.Dispatcher.Form
import InterfaceContract.Proofs.Diagnostic.AppendOnly
import InterfaceContract.Proofs.Diagnostic.Wording
import InterfaceContract.Proofs.Diagnostic.Text
import InterfaceContract.Proofs.Dispatch.FreshTag
import InterfaceContract.Proofs.Field.Resolution
import InterfaceContract.Proofs.Pipeline.StageRuns
import InterfaceContract.Proofs.Pipeline.QuietHook
import InterfaceContract.Proofs.Pipeline.Recording
import InterfaceContract.Proofs.Pipeline.Editing
import InterfaceContract.Proofs.Classification.Acceptance
import InterfaceContract.Proofs.Contract.Assembly
import InterfaceContract.Proofs.Contract.Reports
import InterfaceContract.Proofs.Contract.Implementers
import InterfaceContract.Proofs.Field.Rules
import InterfaceContract.Proofs.TypeExpr.LifetimeNames
import InterfaceContract.Proofs.TypeExpr.Segments
import InterfaceContract.Proofs.Contract.WellFormed
import InterfaceContract.Proofs.Contract.Dispatch
import InterfaceContract.Proofs.Dispatcher.Creation
import InterfaceContract.Proofs.Dispatcher.Narrowing
import InterfaceContract.Proofs.Dispatcher.Agreement
import InterfaceContract.Proofs.Dispatcher.Service
import InterfaceContract.Proofs.Dispatcher.History
import InterfaceContract.Proofs.Contract.Alignment
import InterfaceContract.Proofs.Contract.DowncastPairing
import InterfaceContract.Proofs.Watching
import InterfaceContract.Proofs.Pipeline.Interruption
import InterfaceContract.Proofs.Interruption
import InterfaceContract.Proofs.Contract.Asynchrony
import InterfaceContract.Proofs.Dispatcher.Deferral
import InterfaceContract.Proofs.Dispatcher.Naming
import InterfaceContract.Proofs.Dispatcher.Refusal
import InterfaceContract.Proofs.Field.Reservation
import InterfaceContract.Proofs.Contract.Reservation
import InterfaceContract.Proofs.Contract.IgnoredMethods
import InterfaceContract.Proofs.Contract.Coherence
import InterfaceContract.Proofs.Block.Assembly
import InterfaceContract.Proofs.Scalar.Ownership
import InterfaceContract.Proofs.TypeExpr.Readability
import InterfaceContract.Proofs.Dispatch.Numbering
import InterfaceContract.Proofs.Implementer.MergeHistory
import InterfaceContract.Proofs.Logging.Legibility
import InterfaceContract.Proofs.Logging.LoggedRun
import InterfaceContract.Proofs.Logging.Transparency
import InterfaceContract.Proofs.Field.Verdict
import InterfaceContract.Proofs.Classification.Accounting
import InterfaceContract.Proofs.Dispatcher.Arguments
import InterfaceContract.Proofs.Dispatcher.Precedence
import InterfaceContract.Proofs.Dispatcher.Delegation
import InterfaceContract.Proofs.Scalar.Threading
import InterfaceContract.Proofs.Dispatcher.Registration
import InterfaceContract.Proofs.Logging.Enablement
import InterfaceContract.Proofs.Number.Nearest
import InterfaceContract.Proofs.Logging.Headline
import InterfaceContract.Proofs.Logging.StageLog
import InterfaceContract.Proofs.Logging.Interference
import InterfaceContract.Proofs.Name.CamelCase
import InterfaceContract.Proofs.Contract.LifetimeRenaming
