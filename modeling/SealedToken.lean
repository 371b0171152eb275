import SealedToken.Token.Fields
import SealedToken.Deployment.Step
import SealedToken.Log.System
import SealedToken.Trial
import SealedToken.Proofs.Clock
import SealedToken.Proofs.Text.Utf8
import SealedToken.Proofs.Text.Case
import SealedToken.Proofs.Text.Hex
import SealedToken.Proofs.Text.Decimal
import SealedToken.Proofs.Text.Blank
import SealedToken.Proofs.Text.Grouping
import SealedToken.Proofs.Text.Tidying
import SealedToken.Proofs.Text.Spelling
import SealedToken.Proofs.Text.Printable
import SealedToken.Proofs.Text.Quoted
import SealedToken.Proofs.Notice.Line
import SealedToken.Proofs.Notice.Sink
import SealedToken.Proofs.Settings.Choice
import SealedToken.Proofs.Settings.Meaning
import SealedToken.Proofs.Settings.Precedence
import SealedToken.Proofs.Cipher.Sealing
import SealedToken.Proofs.Cipher.Opening
import SealedToken.Proofs.Cipher.Unhexing
import SealedToken.Proofs.Token.Payload
import SealedToken.Proofs.Token.Rendering
import SealedToken.Proofs.Token.Unsealing
import SealedToken.Proofs.Token.Checking
import SealedToken.Proofs.Token.Parts
import SealedToken.Proofs.Deployment.Reply
import SealedToken.Proofs.Token.TokenFor
import SealedToken.Proofs.Deployment.Acceptance
import SealedToken.Proofs.Token.Ending
import SealedToken.Proofs.Token.Forging
import SealedToken.Proofs.Deployment.Answering
import SealedToken.Proofs.Deployment.RoundTrip
import SealedToken.Proofs.Deployment.Binding
import SealedToken.Proofs.Deployment.Threshold
import SealedToken.Proofs.Metrics.Journal
import SealedToken.Proofs.Deployment.History
import SealedToken.Proofs.Deployment.Entries
import SealedToken.Proofs.Deployment.Wiring
import SealedToken.Proofs.Deployment.Ledger
import SealedToken.Proofs.Deployment.Basis
import SealedToken.Proofs.Deployment.Thinning
import SealedToken.Proofs.Token.Secrecy
import SealedToken.Proofs.Deployment.Secrecy
import SealedToken.Proofs.Deployment.Malleability
import SealedToken.Proofs.Token.Requesting
import SealedToken.Proofs.Deployment.Requesting
import SealedToken.Proofs.Token.Causes
import SealedToken.Proofs.Deployment.Causes
import SealedToken.Proofs.Deployment.Printing
import SealedToken.Proofs.Deployment.View
import SealedToken.Proofs.Deployment.Transparency
import SealedToken.Proofs.Token.Failing
import SealedToken.Proofs.Deployment.Failing
import SealedToken.Proofs.Deployment.Injectivity
import SealedToken.Proofs.Deployment.Assembling
import SealedToken.Proofs.Deployment.Configuration
import SealedToken.Proofs.Deployment.Appointing
