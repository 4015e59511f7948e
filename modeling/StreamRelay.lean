import StreamRelay.Buffer.Lending
import StreamRelay.Error
import StreamRelay.Log.Filter
import StreamRelay.Main
import StreamRelay.Net.Host
import StreamRelay.Net.Resolve
import StreamRelay.Net.SocketPair
import StreamRelay.Program.Machine
import StreamRelay.Program.Rehearsal
import StreamRelay.Pump.Rehearsal
import StreamRelay.Relay.Network
import StreamRelay.Relay.Opening
import StreamRelay.Relay.Rehearsal
import StreamRelay.Settings.Apply
import StreamRelay.Settings.Source
import StreamRelay.Proofs.Pump.Fidelity
import StreamRelay.Proofs.Buffer.Borrow
import StreamRelay.Proofs.Session.LifeCycle
import StreamRelay.Proofs.Session.Borrowing
import StreamRelay.Proofs.Session.Exchange
import StreamRelay.Proofs.Session.Conveyance
import StreamRelay.Proofs.Session.Delivery
import StreamRelay.Proofs.Session.Waiting
import StreamRelay.Proofs.Session.Ending
import StreamRelay.Proofs.Session.Cancellation
import StreamRelay.Proofs.Relay.Shutdown
import StreamRelay.Proofs.Relay.Accounts
import StreamRelay.Proofs.Relay.Acceptance
import StreamRelay.Proofs.Pump.Likeness
import StreamRelay.Proofs.Session.Likeness
import StreamRelay.Proofs.Relay.Isolation
import StreamRelay.Proofs.Relay.Provision
import StreamRelay.Proofs.Settings.Addresses
import StreamRelay.Proofs.Settings.ReadBack
import StreamRelay.Proofs.Json.Acceptance
import StreamRelay.Proofs.Json.Printing
import StreamRelay.Proofs.Settings.Reload
import StreamRelay.Proofs.Buffer.Lending
import StreamRelay.Proofs.Pump.Farewell
import StreamRelay.Proofs.Pump.Tenure
import StreamRelay.Proofs.Pump.Cancellation
import StreamRelay.Proofs.Net.Grammar
import StreamRelay.Proofs.Settings.Distinctness
import StreamRelay.Proofs.Buffer.Leavings
import StreamRelay.Proofs.Net.SocketAddress
import StreamRelay.Proofs.Settings.Failure
import StreamRelay.Proofs.Settings.Variables
import StreamRelay.Proofs.Relay.Reception
import StreamRelay.Proofs.Relay.Target
import StreamRelay.Proofs.Buffer.Refusals
import StreamRelay.Proofs.Relay.Opening
import StreamRelay.Proofs.Pump.Chunk
