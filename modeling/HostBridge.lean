import HostBridge.Config.File
import HostBridge.Host.Stock
import HostBridge.HostedResult
import HostBridge.Ownership.Handles
import HostBridge.Session
import HostBridge.StateStore.Callback
import HostBridge.StateStore.Holder
import HostBridge.StateStore.Staged
import HostBridge.Transaction.Envelope
import HostBridge.Transaction.Template
import HostBridge.Version
import HostBridge.Vm.Scripted
import HostBridge.Wire.Cursor
import HostBridge.Wire.Request
import HostBridge.Proofs.Ledger.History
import HostBridge.Proofs.Ledger.Refinement
import HostBridge.Proofs.Ownership.Dues
import HostBridge.Proofs.Ownership.Custody
import HostBridge.Proofs.Ownership.Contents
import HostBridge.Session.Lifetime
import HostBridge.Proofs.Vm.Run
import HostBridge.Proofs.Vm.Exchange
import HostBridge.Proofs.Vm.Trace
import HostBridge.Proofs.Session.Opening
import HostBridge.Proofs.Session.Request
import HostBridge.Proofs.Session.Idle
import HostBridge.Proofs.Session.Lifetime
import HostBridge.Proofs.Wire.Reading
import HostBridge.Proofs.Text.Utf8
import HostBridge.Proofs.Calldata.Grammar
import HostBridge.Proofs.Calldata.RoundTrip
import HostBridge.Proofs.Calldata.Shortest
import HostBridge.Proofs.Host.Values
import HostBridge.Proofs.Host.Dispatch
import HostBridge.Proofs.Host.Callback
import HostBridge.Proofs.Vm.Report
import HostBridge.Proofs.Receipt.RoundTrip
import HostBridge.Proofs.Host.Imports
import HostBridge.Proofs.Vm.Steps
import HostBridge.Proofs.Session.Turn
import HostBridge.Proofs.SmallVm.Replies
import HostBridge.Proofs.SmallVm.Entries
import HostBridge.Proofs.SmallVm.Calls
import HostBridge.Proofs.SmallVm.Opening
import HostBridge.Proofs.SmallVm.Execution
import HostBridge.Proofs.Receipt.Limits
import HostBridge.Proofs.Receipt.Grammar
import HostBridge.Proofs.Text.Strict
import HostBridge.Proofs.Receipt.Layouts
import HostBridge.Proofs.Vm.Canonical
import HostBridge.Proofs.Transaction.Limits
import HostBridge.Proofs.Transaction.RoundTrip
import HostBridge.Proofs.Host.Registrar
import HostBridge.Proofs.StateStore.Routing
import HostBridge.Proofs.SmallVm.Answers
import HostBridge.Proofs.SmallVm.History
import HostBridge.Proofs.Host.Indices
import HostBridge.Session.Tenancy
import HostBridge.Proofs.SmallVm.Indices
import HostBridge.Proofs.SmallVm.Tenancy
import HostBridge.Proofs.Receipt.Cut
import HostBridge.Proofs.Receipt.Normal
import HostBridge.Proofs.Wire.Stream
import HostBridge.Proofs.Calldata.Prefix
import HostBridge.Proofs.Host.ValuePrefix
import HostBridge.Proofs.Calldata.Integers
import HostBridge.Ownership.Holdings
import HostBridge.Proofs.Wire.Duality
import HostBridge.Proofs.Ownership.Backing
import HostBridge.Proofs.Ownership.Actions
import HostBridge.Proofs.Ownership.Holdings
import HostBridge.Proofs.Ownership.Isolation
import HostBridge.Proofs.Ownership.ReadPaths
import HostBridge.Proofs.Wire.Cursor
import HostBridge.Proofs.Transaction.FixedSize
import HostBridge.Proofs.Receipt.Hosted
import HostBridge.Proofs.Text.Hex
import HostBridge.Proofs.Session.Offers
