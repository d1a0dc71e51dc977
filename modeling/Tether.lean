import Tether.Main
import Tether.Proofs.Act.Exec
import Tether.Proofs.Act.Relate
import Tether.Proofs.Act.Change
import Tether.Proofs.Footprint.Gate
import Tether.Proofs.Namespace.Reading
import Tether.Proofs.Namespace.Admission
import Tether.Proofs.Footprint.Run
import Tether.Proofs.Run.Channels
import Tether.Proofs.Footprint.Terminal
import Tether.Proofs.Run.Outline
import Tether.Proofs.Run.Cleanup
import Tether.Proofs.Footprint.Public
import Tether.Proofs.Namespace.Alike
import Tether.Proofs.Nonce
import Tether.Proofs.Text.LineEnds
import Tether.Proofs.Run.Secrecy
import Tether.Proofs.Namespace.Address
import Tether.Proofs.Run.Trials
import Tether.Proofs.Run.Operations
import Tether.Proofs.Run.Lookup
import Tether.Proofs.Run.Tunnel
import Tether.Proofs.Run.Session
import Tether.Proofs.Run.Status
import Tether.Proofs.Terminal.Escape
import Tether.Proofs.Connect.Login
import Tether.Proofs.Namespace.Waiting
import Tether.Proofs.Run.Notes
import Tether.Proofs.Run.Rendezvous
import Tether.Proofs.Run.Command
import Tether.Proofs.Run.Agreement
import Tether.Proofs.CommandLine.Host
import Tether.Proofs.Connect.Trust
import Tether.Proofs.Run.Mute
import Tether.Proofs.Connect.Mute
import Tether.Proofs.Run.Conclusion
import Tether.Proofs.Run.Truthful
import Tether.Proofs.Terminal.Relay
import Tether.Proofs.Run.Beside
import Tether.Proofs.Run.Undisturbed
import Tether.Proofs.CommandLine.Doubt
import Tether.Proofs.Connect.Dial
import Tether.Proofs.Namespace.Isolation
import Tether.Proofs.Options.Check
import Tether.Proofs.CommandLine.Parsed
import Tether.Proofs.CommandLine.Settings
import Tether.Proofs.Terminal.Input
import Tether.Proofs.Namespace.Reads
import Tether.Proofs.Namespace.Deadline
import Tether.Proofs.Run.Negotiation
import Tether.Proofs.Terminal.Moves
import Tether.Proofs.Terminal.Holder
import Tether.Proofs.Remote.Listen
import Tether.Proofs.Remote.Pty
import Tether.Proofs.Bytes.Base64
import Tether.Proofs.Options.Duration
import Tether.Proofs.Text.Words
import Tether.Proofs.Keys.HostKey
import Tether.Proofs.Keys.Load
import Tether.Proofs.Connect.Keys
import Tether.Proofs.Launch
import Tether.Proofs.Remote.Status
import Tether.Proofs.Text.Lines
import Tether.Proofs.Run.Found
import Tether.Proofs.CommandLine.Deeds
import Tether.Proofs.CommandLine.Exits
