import GpuPlacement.FileTree
import GpuPlacement.Json.Reader
import GpuPlacement.Main
import GpuPlacement.Toml.DateTable
import GpuPlacement.Proofs.Allocator.Alike
import GpuPlacement.Proofs.Allocator.ByIndex
import GpuPlacement.Proofs.Allocator.Exclusive
import GpuPlacement.Proofs.Allocator.Preferred
import GpuPlacement.Proofs.Allocator.Stranding
import GpuPlacement.Proofs.Commands.Plan
import GpuPlacement.Proofs.Data.Decode
import GpuPlacement.Proofs.Device.Calls
import GpuPlacement.Proofs.Link.Names
import GpuPlacement.Proofs.Numa.BusId
import GpuPlacement.Proofs.Numa.Feedback
import GpuPlacement.Proofs.Numa.Formatted
import GpuPlacement.Proofs.Numa.Inventory
import GpuPlacement.Proofs.Numa.Lookup
import GpuPlacement.Proofs.Numa.NodeList
import GpuPlacement.Proofs.Numa.ReadBack
import GpuPlacement.Proofs.Numa.Resolution
import GpuPlacement.Proofs.Numa.Start
import GpuPlacement.Proofs.Numa.SystemNodes
import GpuPlacement.Proofs.Numa.WriteOnce
import GpuPlacement.Proofs.Numa.Written
import GpuPlacement.Proofs.Policy.Alike
import GpuPlacement.Proofs.Policy.AnyOrder
import GpuPlacement.Proofs.Policy.BestEffort
import GpuPlacement.Proofs.Policy.Enumeration
import GpuPlacement.Proofs.Policy.FirstBest
import GpuPlacement.Proofs.Policy.FirstFeasible
import GpuPlacement.Proofs.Policy.Odometer
import GpuPlacement.Proofs.Policy.Scores
import GpuPlacement.Proofs.Policy.Searched
import GpuPlacement.Proofs.Topology.Rewritten
import GpuPlacement.Proofs.Topology.RoundTrip
import GpuPlacement.Proofs.Topology.WellFormed
