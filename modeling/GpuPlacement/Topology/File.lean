import GpuPlacement.FileSystem
import GpuPlacement.Toml.Document
import GpuPlacement.Topology.Document

/-!
# Topology files

A topology from TOML text, and from the file that holds it.
-/

set_option autoImplicit false

namespace GpuPlacement.Topology

def ofToml (text : String) : Except Error Topology :=
  ((Toml.read text).bind ofData).mapError fun e => .config (.topologyMalformed e)

def ofFile (fs : FileSystem) (path : String) : Except Error Topology :=
  match fs.readText path with
  | .error e => .error (.config (.topologyUnreadable path e))
  | .ok text => ofToml text

end GpuPlacement.Topology
