import GpuPlacement.Commands

/-!
# Readings of the disk

The commands are functions of the files they read. To run one on a real disk its files are read
first: `wanted` tells which, as far as what has been read already tells, so that a few rounds of
reading gather them all.
-/

set_option autoImplicit false

namespace GpuPlacement

/-- A file to read or a directory to list. -/
inductive Wanted where
  | text (path : String)
  | listing (path : String)
  deriving DecidableEq, Repr

/-- What has been read so far. -/
structure Readings where
  texts : List (String × Except FileError String)
  listings : List (String × Except FileError (List String))

namespace Readings

def empty : Readings := ⟨[], []⟩

/-- The readings as a file system. What has not been read is not there. -/
def fileSystem (r : Readings) : FileSystem where
  readText path := (r.texts.lookup path).getD (.error .notFound)
  list path := (r.listings.lookup path).getD (.error .notFound)

def has (r : Readings) : Wanted → Bool
  | .text path => (r.texts.lookup path).isSome
  | .listing path => (r.listings.lookup path).isSome

def addText (r : Readings) (path : String) (result : Except FileError String) : Readings :=
  { r with texts := r.texts ++ [(path, result)] }

def addListing (r : Readings) (path : String) (result : Except FileError (List String)) :
    Readings :=
  { r with listings := r.listings ++ [(path, result)] }

end Readings

namespace Commands

open CommandLine (Command Invocation)

/-- The lists of processors of the node directories among names. -/
def wantedCpus (dir : String) (names : List String) : List Wanted :=
  names.filterMap fun name =>
    if (Numa.Sysfs.nodeId? name).isSome then
      some (.text (Path.join (Path.join dir name) "cpulist"))
    else none

/-- The sysfs files that tell the nodes of a topology. -/
def wantedSysfs (fs : FileSystem) (root : String) (t : Topology) : List Wanted :=
  let dir := Numa.Sysfs.nodeDir root
  let cpus := match fs.list dir with
    | .error _ => []
    | .ok names => wantedCpus dir names
  let devices := (Numa.inventory t).filterMap fun d =>
    match d.source with
    | .pci busId => some (.text (Numa.Sysfs.nodeFile root busId))
    | _ => none
  .listing dir :: cpus ++ devices

def wanted (fs : FileSystem) (i : Invocation) : List Wanted :=
  let config := (i.config.map Wanted.text).toList
  match configOf fs i with
  | .error _ => config
  | .ok c =>
    let sysfs := match i.command, Topology.ofFile fs c.topology.path with
      | .numaNodes _ _ _ sysfsRoot, .ok t =>
        wantedSysfs fs (sysfsRoot.getD c.numa.sysfsRoot) t
      | _, _ => []
    config ++ .text c.topology.path :: sysfs

/-- The number of rounds after which all wanted files have been read: configuration, topology,
directory and device files, lists of processors. -/
def rounds : Nat := 4

end Commands
end GpuPlacement
