import ChunkRelay.Main
import ChunkRelay.Proofs.Report.Canonical
import ChunkRelay.Proofs.Session.LockStep
import ChunkRelay.Proofs.Session.Reached
import ChunkRelay.Proofs.Session.Turns
import ChunkRelay.Proofs.Bridge.Forwarding
import ChunkRelay.Proofs.Bridge.Counting
import ChunkRelay.Proofs.Bridge.Window
import ChunkRelay.Proofs.Device.Connection
import ChunkRelay.Proofs.Device.Handle
import ChunkRelay.Proofs.Upkeep
import ChunkRelay.Proofs.Device.StreamDebt
import ChunkRelay.Proofs.Upload.Http
import ChunkRelay.Proofs.Bench.Cleanup
import ChunkRelay.Proofs.Console.Cleanup
import ChunkRelay.Proofs.Device.Presented
import ChunkRelay.Proofs.Session.OverConnection
import ChunkRelay.Proofs.Bench.Account
import ChunkRelay.Proofs.Console.Accounts
import ChunkRelay.Proofs.Device.Mode
import ChunkRelay.Proofs.Device.Contract
import ChunkRelay.Proofs.Session.Closing
import ChunkRelay.Proofs.Session.LossyLink
import ChunkRelay.Proofs.Session.ByTable
import ChunkRelay.Proofs.Upload.Accounting
import ChunkRelay.Proofs.Secrecy.Authorization
import ChunkRelay.Proofs.Secrecy.Bench
import ChunkRelay.Proofs.Secrecy.InMemory
import ChunkRelay.Proofs.Secrecy.Program
import ChunkRelay.Proofs.Context
import ChunkRelay.Proofs.Settings.Document
import ChunkRelay.Proofs.Console.Settings
import ChunkRelay.Proofs.Bridge.Ending
import ChunkRelay.Proofs.Bridge.Starting
import ChunkRelay.Proofs.Bridge.Accepting
import ChunkRelay.Proofs.Bridge.Subscribing
import ChunkRelay.Proofs.Device.Refusals
import ChunkRelay.Proofs.Upload.Authorization
import ChunkRelay.Proofs.Session.Tracking
import ChunkRelay.Proofs.Session.Switching
import ChunkRelay.Proofs.Report.Packet
import ChunkRelay.Proofs.Device.Filter
import ChunkRelay.Proofs.Console.DeviceIds
