import GpuPlacement.Allocator
import GpuPlacement.CommandLine
import GpuPlacement.Config
import GpuPlacement.Json.Writer
import GpuPlacement.Numa.Filter
import GpuPlacement.Numa.Inventory

/-!
# The commands

What each command prints, given the files it reads. A command ends well, or with a problem that
is reported on the error output; what was printed before a broken invariant stays printed.
-/

set_option autoImplicit false

namespace GpuPlacement

open CommandLine (Command Invocation)

/-- What a run of the program leaves behind. -/
structure Report where
  code : Nat
  output : String
  errorOutput : String
  deriving DecidableEq, Repr

/-- Why a command ends badly. -/
inductive Problem where
  | placement (cause : Error)
  | numa (cause : Numa.Error)
  /-- The policy picks nothing for the request. -/
  | unsatisfied (size available required : Nat)
  /-- A broken invariant, with what was printed before it was met. -/
  | broken (output : String) (fault : Fault)
  deriving DecidableEq, Repr

namespace Problem

def message : Problem → String
  | .placement cause => cause.message
  | .numa cause => cause.message
  | .unsatisfied size available required =>
    s!"no allocation of {size} GPUs satisfies the request " ++
      s!"({available} available, {required} required)"
  | .broken _ fault => fault.message

def fileCause : Problem → Option FileError
  | .placement (.file cause) => some cause
  | .numa (.file cause) => some cause
  | _ => none

def report (p : Problem) : Report :=
  match p with
  | .broken output fault => ⟨101, output, fault.message ++ "\n"⟩
  | _ =>
    let cause := match p.fileCause with
      | none => ""
      | some cause => s!"\n\nCaused by:\n    {cause.message}"
    ⟨1, "", s!"Error: {p.message}{cause}\n"⟩

/-- A failed operation, when nothing has been printed yet. -/
def ofFailure : Failure → Problem
  | .refused cause => .placement cause
  | .broken fault => .broken "" fault

end Problem

namespace Commands

/-- A text of lines, each with its end. -/
def lines (ls : List String) : String := String.join (ls.map fun l => l ++ "\n")

def loadDevices (fs : FileSystem) (c : Config) : Except Problem (List Device) :=
  ((Topology.ofFile fs c.topology.path).bind Topology.devices).mapError .placement

def loadAllocator (fs : FileSystem) (c : Config) : Except Problem Allocator := do
  return .new (← loadDevices fs c) c.topology.policy.policy

/-! ## Picking devices -/

def allocationData (policy : PolicyKind) (size : Nat) (devices : List String) : Data :=
  .record [
    ("policy", .string policy.name),
    ("size", .nat size),
    ("devices", .strings devices)]

/-- Picks the preferred devices for a request. Where no available devices are named, all are. -/
def allocate (fs : FileSystem) (c : Config) (size : Nat) (available required : List String)
    (json : Bool) : Except Problem String := do
  let a ← loadAllocator fs c
  let available := if available.isEmpty then a.devices.map Device.uuid else available
  let devices ← (a.preferredAllocation available required size).mapError .ofFailure
  if devices.isEmpty then
    throw (.unsatisfied size available.length required.length)
  else if json then
    return lines [Json.pretty (allocationData c.topology.policy size devices)]
  else return lines devices

/-! ## Replaying reservations -/

/-- The result of one reservation. -/
structure PlanStep where
  count : Nat
  result : Except Error (List Nat)

/-- Makes reservations in turn. A refused one is a result like any other. -/
def planSteps (a : Allocator) : List Nat → Except Fault (List PlanStep × Allocator)
  | [] => .ok ([], a)
  | count :: rest =>
    match a.allocate count with
    | (.error (.broken fault), _) => .error fault
    | (.error (.refused e), a) => do
      let (steps, a) ← planSteps a rest
      return (⟨count, .error e⟩ :: steps, a)
    | (.ok indices, a) => do
      let (steps, a) ← planSteps a rest
      return (⟨count, .ok indices⟩ :: steps, a)

namespace PlanStep

/-- A step as data; a failed one reserves nothing. -/
def toData (s : PlanStep) : Data :=
  let (indices, problem) : List Nat × Data := match s.result with
    | .ok indices => (indices, .null)
    | .error e => ([], .string e.message)
  .record [
    ("count", .nat s.count),
    ("gpus", .list (indices.map .nat)),
    ("error", problem)]

/-- A step as the last column of a table. -/
def outcome (s : PlanStep) : String :=
  match s.result with
  | .ok indices => String.intercalate "," (indices.map toString)
  | .error e => s!"failed: {e.message}"

end PlanStep

def planRow (step count outcome : String) : String :=
  s!"{Text.padRight 6 step} {Text.padRight 8 count} {outcome}"

def statusLine (status : Device × Bool) : String :=
  let state := if status.2 then "In Use" else "Available"
  s!"[{status.1.index}] {status.1.uuid} - {state}"

/-- The table of steps and the state of the devices after them. -/
def planTable (steps : List PlanStep) (a : Allocator) : List String :=
  [planRow "STEP" "COUNT" "GPUS", String.ofList (List.replicate 40 '-')] ++
    steps.mapIdx (fun i s => planRow (toString (i + 1)) (toString s.count) s.outcome) ++
    ["", s!"GPUs: {a.totalCount} total, {a.availableCount} available"] ++
    a.deviceStatus.map statusLine

def plan (fs : FileSystem) (c : Config) (counts : List Nat) (json : Bool) :
    Except Problem String := do
  let a ← loadAllocator fs c
  let (steps, a) ← (planSteps a counts).mapError (.broken "")
  if json then return lines [Json.pretty (.list (steps.map PlanStep.toData))]
  else return lines (planTable steps a)

/-! ## Memory nodes -/

def containerOf (c : Config) (id : String) (mems visibleDevices : Option String) :
    Numa.Container where
  id := id
  env := visibleDevices.toList.map (Numa.Container.envEntry c.numa.deviceVariable)
  mems := mems

/-- The memory nodes of a container, listed as they were found and as a node list. -/
def resolveNodes (fs : FileSystem) (c : Config) (t : Topology) (container : Numa.Container) :
    Except Numa.Error (List String × String) := do
  let root := c.numa.sysfsRoot
  let d := Numa.inventoryDiscoverer t fs root c.numa.deviceVariable
  let (started, f) := Numa.Filter.new.start (Numa.Sysfs.systemNodes fs root) d
  started.result
  let nodes ← (f.resolve d container).1.result
  let nodes := nodes.map toString
  let parsed ← Numa.NodeList.parse (String.intercalate "," nodes)
  return (nodes, Numa.NodeList.format parsed)

def numaNodes (fs : FileSystem) (c : Config) (id : String)
    (mems visibleDevices : Option String) (json : Bool) : Except Problem String := do
  let t ← (Numa.checkedTopology fs c.topology.path).mapError .placement
  let container := containerOf c id mems visibleDevices
  let (nodes, list) ← (resolveNodes fs c t container).mapError .numa
  if json then
    return lines [Json.pretty (.record [
      ("container", .string container.id),
      ("nodes", .strings nodes),
      ("mems", .string list)])]
  else
    return lines ["Nodes: " ++ String.intercalate "," nodes, "Mems: " ++ list]

/-! ## Showing the topology -/

/-- The pair scores of a device, with a hyphen for the device itself. -/
def scoreCells (a : Device) : List Device → Except Fault (List String)
  | [] => .ok []
  | b :: rest => do
    let cell ← if a.same b then pure "-" else (pairScore (some a) (some b)).map toString
    let cells ← scoreCells a rest
    return cell :: cells

/-- Adds a line of pair scores for each device to what has been printed. -/
def scoreRows (devices : List Device) (output : String) : List Device → Except Problem String
  | [] => .ok output
  | a :: rest =>
    match scoreCells a devices with
    | .error fault => .error (.broken output fault)
    | .ok cells =>
      let row := String.intercalate "\t" cells
      let line := s!"  GPU {Text.padRight 3 (toString a.index)} {row}"
      scoreRows devices (output ++ lines [line]) rest

/-- Shows the devices of the topology, and the scores of their pairs if there are any. -/
def topology (fs : FileSystem) (c : Config) (json : Bool) : Except Problem String := do
  let devices ← loadDevices fs c
  if json then return lines [Json.pretty (.list (devices.map Device.toData))]
  else
    let details := lines (devices.map Device.details)
    if 1 < devices.length then
      scoreRows devices (details ++ lines ["", "Pair scores:"]) devices
    else return details

/-! ## Running -/

/-- The configuration of an invocation: the file's, changed by the options. -/
def configOf (fs : FileSystem) (i : Invocation) : Except Problem Config := do
  let c ← match i.config with
    | none => pure {}
    | some path => (Config.ofFile fs path).mapError .placement
  return {
    topology := {
      path := i.topology.getD c.topology.path
      policy := i.policy.getD c.topology.policy }
    numa := c.numa
    logging := { c.logging with level := i.logLevel.getD c.logging.level } }

def perform (fs : FileSystem) (c : Config) (json : Bool) : Command → Except Problem String
  | .allocate size available required => allocate fs c size available required json
  | .plan counts => plan fs c counts json
  | .numaNodes container mems visibleDevices sysfsRoot =>
    let numa := { c.numa with sysfsRoot := sysfsRoot.getD c.numa.sysfsRoot }
    numaNodes fs { c with numa := numa } container mems visibleDevices json
  | .topology => topology fs c json

def execute (fs : FileSystem) (i : Invocation) : Report :=
  match (configOf fs i).bind fun c => perform fs c i.json i.command with
  | .ok output => ⟨0, output, ""⟩
  | .error problem => problem.report

def usage : String :=
  "Usage: topoalloc [OPTIONS] <COMMAND>\n\n" ++
    "Commands:\n" ++
    "  allocate    Pick the preferred GPUs for a request\n" ++
    "  plan        Replay a sequence of reservations against the topology\n" ++
    "  numa-nodes  Resolve the memory NUMA nodes for a container\n" ++
    "  topology    Show the GPUs and links of the topology\n"

def run (fs : FileSystem) (args : List String) : Report :=
  match CommandLine.parse args with
  | .error .usage => ⟨2, "", usage⟩
  | .error .help => ⟨0, usage, ""⟩
  | .error .version => ⟨0, "topoalloc 0.1.0\n", ""⟩
  | .ok invocation => execute fs invocation

end Commands
end GpuPlacement
