import HttpGateway.Config.Printer
import HttpGateway.Main
import HttpGateway.Proofs.Access.Decision
import HttpGateway.Proofs.Gateway.Mediation
import HttpGateway.Proofs.Routing.Coverage
import HttpGateway.Proofs.Backend.Sending
import HttpGateway.Proofs.Access.Building
import HttpGateway.Proofs.Access.Identity
import HttpGateway.Proofs.Access.Denial
import HttpGateway.Proofs.Gateway.Denial
import HttpGateway.Proofs.Config.Wiring
import HttpGateway.Proofs.Json.RoundTrip
import HttpGateway.Proofs.Message.Field
import HttpGateway.Proofs.Access.ArrayOrder
import HttpGateway.Proofs.Gateway.Noninterference
import HttpGateway.Proofs.Routing.Selection
import HttpGateway.Proofs.Config.Findings
import HttpGateway.Proofs.Gateway.Declared
import HttpGateway.Proofs.Config.Backend
import HttpGateway.Proofs.Gateway.Payload
import HttpGateway.Proofs.Gateway.Stage
import HttpGateway.Proofs.Gateway.Redaction
import HttpGateway.Proofs.Gateway.Accounting
import HttpGateway.Proofs.Json.Scalar
import HttpGateway.Proofs.Gateway.Sources
import HttpGateway.Proofs.Access.Tightening
import HttpGateway.Proofs.Text.Recasing
import HttpGateway.Proofs.Routing.Recasing
import HttpGateway.Proofs.Gateway.MediaType
import HttpGateway.Proofs.Gateway.Failing
import HttpGateway.Proofs.Gateway.Verbatim
import HttpGateway.Proofs.Gateway.Serving
import HttpGateway.Proofs.Routing.Slashes
import HttpGateway.Proofs.Routing.Plain
import HttpGateway.Proofs.Routing.Slots
import HttpGateway.Proofs.Text.Uppercase
import HttpGateway.Proofs.Routing.Calls
import HttpGateway.Proofs.Backend.Backoff
import HttpGateway.Proofs.Access.Encoding
