import DigestSync.Data.Blake3
import DigestSync.Data.Hex
import DigestSync.Data.SortedMap
import DigestSync.Data.Utf8
import DigestSync.Delta
import DigestSync.Name.Text
import DigestSync.Task
import DigestSync.Cbor.Forms
import DigestSync.Sync.Config
import DigestSync.Sync.Convergence
import DigestSync.Sync.SyncName
import DigestSync.Store.Memory
import DigestSync.Store.Schema
import DigestSync.Store.Table
import DigestSync.Fetch.Hint
import DigestSync.Fetch.Progress
import DigestSync.Fetch.RetryPause
import DigestSync.Node.Config
import DigestSync.Network.Broadcast
import DigestSync.Store.Volume
import DigestSync.Sync.Core
import DigestSync.Fetch.Fetcher
import DigestSync.Fetch.Worklist
import DigestSync.Fetch.Fault
import DigestSync.Fetch.Manager
import DigestSync.Node.ActionLog
import DigestSync.Node.Fault
import DigestSync.Node.Node
import DigestSync.Simulation.Agenda
import DigestSync.Simulation.Script
import DigestSync.Simulation.FetcherBench
import DigestSync.Simulation.ManagerBench
import DigestSync.Simulation.World
import DigestSync.Store.Call
import DigestSync.Simulation.Stage
import DigestSync.Proofs.Fetch.Interleaving
import DigestSync.Proofs.Fetch.Retrieval
import DigestSync.Proofs.Store.DigestLog
import DigestSync.Proofs.Store.Refinement
import DigestSync.Proofs.Name.Prefix
import DigestSync.Proofs.Data.Bytes
import DigestSync.Proofs.Sync.Exchange
import DigestSync.Proofs.Sync.Advance
import DigestSync.Proofs.Sync.Tidings
import DigestSync.Proofs.Sync.Truncation
import DigestSync.Proofs.Sync.Variant
import DigestSync.Proofs.Sync.Reports
import DigestSync.Proofs.Sync.Group
import DigestSync.Proofs.Node.Interleaving
import DigestSync.Proofs.Node.Undisturbed
import DigestSync.Proofs.Cbor.Stream
import DigestSync.Proofs.Cbor.Item
import DigestSync.Proofs.Fetch.Arena
import DigestSync.Proofs.Fetch.Faults
import DigestSync.Proofs.Store.Hearing
import DigestSync.Proofs.Sync.Publishing
import DigestSync.Proofs.Sync.Unlocated
import DigestSync.Proofs.Sync.Loop
import DigestSync.Proofs.Sync.Timing
import DigestSync.Proofs.Node.Ending
import DigestSync.Proofs.Fetch.Calls
import DigestSync.Proofs.Fetch.Refusals
import DigestSync.Proofs.Fetch.Redundancy
import DigestSync.Proofs.Network.Traffic
import DigestSync.Node.Mesh
import DigestSync.Proofs.Sync.Locators
import DigestSync.Proofs.Node.Handover
import DigestSync.Proofs.Node.Faithful
import DigestSync.Proofs.Node.Serving
import DigestSync.Proofs.Node.Mesh
import DigestSync.Proofs.Fetch.Restart
import DigestSync.Proofs.Store.Catchup
import DigestSync.Proofs.Fetch.Sweep
import DigestSync.Proofs.Fetch.Patience
import DigestSync.Proofs.DigestInput
import DigestSync.Proofs.Fetch.Schedule
import DigestSync.Proofs.Fetch.Cancel
import DigestSync.Proofs.Fetch.Backoff
import DigestSync.Proofs.Replay
import DigestSync.Proofs.Tally
import DigestSync.Proofs.Name.Grammar
import DigestSync.Proofs.Node.Service
import DigestSync.Proofs.Sync.Convergence
import DigestSync.Proofs.Store.Merging
import DigestSync.Proofs.Name.Order
import DigestSync.Proofs.Fetch.Arrivals
import DigestSync.Proofs.Digest
import DigestSync.Proofs.Cbor.RoundTrip
