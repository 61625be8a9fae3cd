import BdevUbi.Library.RegularFile
import BdevUbi.Library.LittleEndian
import BdevUbi.Library.Transitions
import BdevUbi.Library.AppendLog
import BdevUbi.Library.CString
import BdevUbi.Library.JsonObject
import BdevUbi.Device.Geometry
import BdevUbi.Device.Delta
import BdevUbi.Device.Uring
import BdevUbi.Device.RoundTrip
import BdevUbi.Device.Writes
import BdevUbi.Device.Layout
import BdevUbi.Device.Transfers
import BdevUbi.Device.EntryPoints
import BdevUbi.Device.Sessions
import BdevUbi.Device.Overlay
import BdevUbi.Device.Ring
import BdevUbi.Device.Lookups
import BdevUbi.Device.Channels
import BdevUbi.Snapshot.Requests
import BdevUbi.Snapshot.Status
import BdevUbi.Snapshot.Copies
import BdevUbi.Snapshot.Completion
import BdevUbi.Snapshot.Trails
import BdevUbi.Snapshot.Answers
import BdevUbi.Snapshot.Releases
import BdevUbi.Snapshot.History
import BdevUbi.Bdev.Lifetime
import BdevUbi.Bdev.Create
import BdevUbi.Bdev.Cleanup
import BdevUbi.Bdev.Recreate
import BdevUbi.Bdev.Esnap
import BdevUbi.Bdev.Reload
import BdevUbi.Bdev.Paths
import BdevUbi.Rpc.Config
import BdevUbi.Rpc.Names
import BdevUbi.Library.Layers
import BdevUbi.Library.WriteCache
import BdevUbi.Disk.Store
import BdevUbi.Disk.Refinement
import BdevUbi.Disk.Saving
import BdevUbi.Disk.Progress
import BdevUbi.Disk.Fidelity
import BdevUbi.Disk.Flush
import BdevUbi.Disk.Capacity
import BdevUbi.Library.Slots
import BdevUbi.Library.Ledger
import BdevUbi.Dd.Copy
import BdevUbi.Dd.Turns
import BdevUbi.Dd.Outstanding
import BdevUbi.Dd.Queue
import BdevUbi.Dd.Exits
import BdevUbi.Dd.Stopping
import BdevUbi.Dd.Work
import BdevUbi.Dd.Tally
import BdevUbi.Dd.Overruns
import BdevUbi.Dd.Partial
import BdevUbi.Dd.Parts
import BdevUbi.Dd.Regions
import BdevUbi.Dd.Stages
import BdevUbi.Dd.Contents
import BdevUbi.Dd.Flags
import BdevUbi.Dd.Ending
import BdevUbi.Dd.Setup
import BdevUbi.Dd.Launch
import BdevUbi.Dd.Devices
import BdevUbi.Dd.Handles
