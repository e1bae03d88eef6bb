import SensorGateway.Bench.Exchange
import SensorGateway.Discovery
import SensorGateway.Main
import SensorGateway.Proofs.Bridge.Slot
import SensorGateway.Proofs.Frame.RoundTrip
import SensorGateway.Proofs.Link.Transport
import SensorGateway.Proofs.LineBuffer.Loss
import SensorGateway.Proofs.Link.Torn
import SensorGateway.Proofs.Binding.Table
import SensorGateway.Proofs.Bridge.Health
import SensorGateway.Proofs.Bridge.Answer
import SensorGateway.Proofs.Frame.Grammar
import SensorGateway.Proofs.Link.Lifecycle
import SensorGateway.Proofs.Bridge.Lasting
import SensorGateway.Proofs.Link.Trace
import SensorGateway.Proofs.Value.OneLine
import SensorGateway.Proofs.Bridge.Alike
import SensorGateway.Proofs.Bridge.Written
import SensorGateway.Proofs.Bridge.Charges
import SensorGateway.Proofs.Bridge.Ledger
import SensorGateway.Proofs.Bridge.Effect
import SensorGateway.Proofs.Bridge.Commands
import SensorGateway.Proofs.Bridge.Checks
import SensorGateway.Proofs.Value.RoundTrip
import SensorGateway.Proofs.Binding.Spelling
import SensorGateway.Proofs.Configuration.Order
import SensorGateway.Proofs.Console.Lines
import SensorGateway.Proofs.LineBuffer.Tail
import SensorGateway.Proofs.Value.Color
import SensorGateway.Proofs.Value.Parsed
import SensorGateway.Proofs.Discovery
import SensorGateway.Proofs.Frame.LineEnd
import SensorGateway.Proofs.Link.Opening
