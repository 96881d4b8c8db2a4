import GpuPlacement.Data.Decode
import GpuPlacement.Error
import GpuPlacement.Policy.Kind
import GpuPlacement.Toml.Document

/-!
# Configuration

Where the topology is, which policy to use, where sysfs is mounted, and how much to log. Every
section and every field may be left out and then has its default; unknown fields are ignored.
-/

set_option autoImplicit false

namespace GpuPlacement

open Data

/-- Where the topology comes from and how devices are picked. -/
structure TopologySettings where
  path : String := "/etc/topoalloc/topology.toml"
  policy : PolicyKind := .bestEffort
  deriving DecidableEq, Repr

structure NumaSettings where
  sysfsRoot : String := "/sys"
  /-- The variable that names the devices of a container. -/
  deviceVariable : String := "NVIDIA_VISIBLE_DEVICES"
  deriving DecidableEq, Repr

/-- How much is logged and in which form. -/
structure LogSettings where
  level : String := "info"
  format : String := "text"
  deriving DecidableEq, Repr

/-- A whole configuration. -/
structure Config where
  topology : TopologySettings := {}
  numa : NumaSettings := {}
  logging : LogSettings := {}
  deriving DecidableEq, Repr

/-! ## Reading -/

def TopologySettings.read (s : TopologySettings) (name : String) (value : Data) :
    Decoded TopologySettings :=
  match name with
  | "path" => (asString value).map fun path => { s with path := path }
  | "policy" =>
    (asVariant (PolicyKind.all.map fun kind => (kind.name, kind)) value).map fun policy =>
      { s with policy := policy }
  | _ => .ok s

def TopologySettings.ofData (d : Data) : Decoded TopologySettings := do
  (← fieldsOf ["path", "policy"] 0 d).foldlM (fun s (name, value) => s.read name value) {}

def NumaSettings.read (s : NumaSettings) (name : String) (value : Data) : Decoded NumaSettings :=
  match name with
  | "sysfs_root" => (asString value).map fun root => { s with sysfsRoot := root }
  | "visible_devices_env" => (asString value).map fun name => { s with deviceVariable := name }
  | _ => .ok s

def NumaSettings.ofData (d : Data) : Decoded NumaSettings := do
  (← fieldsOf ["sysfs_root", "visible_devices_env"] 0 d).foldlM
    (fun s (name, value) => s.read name value) {}

def LogSettings.read (s : LogSettings) (name : String) (value : Data) : Decoded LogSettings :=
  match name with
  | "level" => (asString value).map fun level => { s with level := level }
  | "format" => (asString value).map fun format => { s with format := format }
  | _ => .ok s

def LogSettings.ofData (d : Data) : Decoded LogSettings := do
  (← fieldsOf ["level", "format"] 0 d).foldlM (fun s (name, value) => s.read name value) {}

namespace Config

def read (c : Config) (name : String) (value : Data) : Decoded Config :=
  match name with
  | "topology" => (TopologySettings.ofData value).map fun s => { c with topology := s }
  | "numa" => (NumaSettings.ofData value).map fun s => { c with numa := s }
  | "logging" => (LogSettings.ofData value).map fun s => { c with logging := s }
  | _ => .ok c

def ofData (d : Data) : Decoded Config := do
  (← fieldsOf ["topology", "numa", "logging"] 0 d).foldlM
    (fun c (name, value) => c.read name value) {}

def ofToml (text : String) : Except Error Config :=
  ((Toml.read text).bind ofData).mapError fun e => .config (.malformed e)

def ofFile (fs : FileSystem) (path : String) : Except Error Config :=
  match fs.readText path with
  | .error e => .error (.config (.unreadable e))
  | .ok text => ofToml text

/-- The configuration as data, every field given. -/
def toData (c : Config) : Data :=
  .record [
    ("topology", .record [
      ("path", .string c.topology.path),
      ("policy", .string c.topology.policy.name)]),
    ("numa", .record [
      ("sysfs_root", .string c.numa.sysfsRoot),
      ("visible_devices_env", .string c.numa.deviceVariable)]),
    ("logging", .record [
      ("level", .string c.logging.level),
      ("format", .string c.logging.format)])]

end Config
end GpuPlacement
