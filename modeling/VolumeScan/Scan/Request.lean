/-
VolumeScan.Scan.Request — the operations on a registry, as data.

A registry is seeded with devices, scanned and looked at in any order. A request is one of these
operations, and `Request.serve` answers it; `Request.serveAll` answers a sequence of requests on one
registry and one environment.
-/
import VolumeScan.Scan.Discovery

namespace VolumeScan

/-- An operation on a registry. Each scan brings its own options. -/
inductive Request where
  /-- Register a device. -/
  | seed (volume : Volume)
  /-- Look for partition tables on all volumes. -/
  | discover (options : Options)
  /-- Read the partition table of a volume. -/
  | detect (options : Options) (mbr : Mbr) (parent : Nat)
  /-- Read the partition table of a volume, and log what goes wrong. -/
  | detectOrLog (options : Options) (mbr : Mbr) (parent : Nat)
  /-- Look a volume up that should be there. -/
  | find (index : Nat)
  /-- Look a volume up that may be missing. -/
  | peek (index : Nat)
deriving DecidableEq, Repr

/-- What a request is answered with. -/
inductive Response where
  /-- The index of a new volume, or of the first of several. -/
  | index (index : Nat)
  /-- Whether anything could be read. -/
  | readable (flag : Bool)
  /-- What was detected. -/
  | detection (detection : Detection)
  /-- A volume. -/
  | volume (volume : Volume)
  /-- A volume, or none. -/
  | lookup (volume : Option Volume)
  /-- The request failed. -/
  | failed (error : Error)
deriving DecidableEq, Repr

namespace Request

variable {σ : Type}

/-- Answer a request. -/
def serve (env : Environment σ) (registry : Registry) (state : σ) : Request → Pass σ Response
  | .seed volume =>
    match registry.seed volume with
    | .ok (index, registry) => ⟨.index index, registry, state, []⟩
    | .error error => ⟨.failed error, registry, state, []⟩
  | .discover options =>
    let pass := Scanner.discover ⟨env, options⟩ registry state
    ⟨.readable pass.result, pass.registry, pass.state, pass.events⟩
  | .detect options mbr parent =>
    let pass := (Scanner.detect ⟨env, options⟩ mbr parent).run registry state
    match pass.result with
    | .ok detection => ⟨.detection detection, pass.registry, pass.state, pass.events⟩
    | .error error => ⟨.failed error, pass.registry, pass.state, pass.events⟩
  | .detectOrLog options mbr parent =>
    let pass := Scanner.detectOrLog ⟨env, options⟩ mbr parent registry state
    ⟨.index pass.result, pass.registry, pass.state, pass.events⟩
  | .find index =>
    match registry.volume index with
    | .ok volume => ⟨.volume volume, registry, state, []⟩
    | .error error => ⟨.failed error, registry, state, []⟩
  | .peek index => ⟨.lookup (registry.get? index), registry, state, []⟩

/-- Answer requests in order. Each pass has the registry and the state after its request. -/
def serveAll (env : Environment σ) : Registry → σ → List Request → List (Pass σ Response)
  | _, _, [] => []
  | registry, state, request :: rest =>
    let pass := request.serve env registry state
    pass :: serveAll env pass.registry pass.state rest

end Request

end VolumeScan
