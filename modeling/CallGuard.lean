import CallGuard.Http
import CallGuard.Pipeline
import CallGuard.Profile.Service
import CallGuard.Proofs.Bytes
import CallGuard.Proofs.Call.Bearer
import CallGuard.Proofs.Call.Grammar
import CallGuard.Proofs.Decimal.Stepwise
import CallGuard.Proofs.Except
import CallGuard.Proofs.Http.Front
import CallGuard.Proofs.Http.Path
import CallGuard.Proofs.Http.Rejection
import CallGuard.Proofs.Http.Request
import CallGuard.Proofs.Json.Printer
import CallGuard.Proofs.Json.Quoted
import CallGuard.Proofs.Method.Grammar
import CallGuard.Proofs.Method.Matching
import CallGuard.Proofs.Method.Split
import CallGuard.Proofs.Pipeline.Concealment
import CallGuard.Proofs.Pipeline.Delivery
import CallGuard.Proofs.Pipeline.Denial
import CallGuard.Proofs.Pipeline.Headers
import CallGuard.Proofs.Pipeline.Passage
import CallGuard.Proofs.Pipeline.Reason
import CallGuard.Proofs.Pipeline.Run
import CallGuard.Proofs.Policy.Coverage
import CallGuard.Proofs.Policy.Decision
import CallGuard.Proofs.Policy.Privilege
import CallGuard.Proofs.Profile.Alike
import CallGuard.Proofs.Profile.Effect
import CallGuard.Proofs.Profile.Failure
import CallGuard.Proofs.Profile.History
import CallGuard.Proofs.Profile.Identity
import CallGuard.Proofs.Profile.Listing
import CallGuard.Proofs.Profile.Ownership
import CallGuard.Proofs.Profile.Secrecy
import CallGuard.Proofs.Profile.Withheld
import CallGuard.Proofs.Reading
import CallGuard.Proofs.Schema.Defect
import CallGuard.Proofs.Schema.Exposure
import CallGuard.Proofs.Schema.Propagation
import CallGuard.Proofs.Schema.Redaction
import CallGuard.Proofs.Text.Order
import CallGuard.Proofs.Text.Percent
import CallGuard.Proofs.Text.Words
import CallGuard.Proofs.Token.Acceptance
import CallGuard.Proofs.Token.Clock
import CallGuard.Proofs.Token.Forgery
import CallGuard.Proofs.Token.Identity
import CallGuard.Proofs.Token.Lifetime
import CallGuard.Settings.Load
import CallGuard.Stub
