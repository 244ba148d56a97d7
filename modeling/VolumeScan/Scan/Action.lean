/-
VolumeScan.Scan.Action — steps of a scan, any of which may fail.

An action turns a registry and a state of the environment into a result or an error, the next
registry, the next state, and the events in between. Nothing is undone by itself: an action that
fails has changed the registry and made its events all the same. Buffers are only available inside
`Action.withBuffer`, which gives the block back when its body is over, however the body ends: so
blocks are released in the reverse of the order in which they were acquired, and each of them once.
-/
import VolumeScan.Registry
import VolumeScan.Scan.Environment
import VolumeScan.Scan.Event

namespace VolumeScan

/-- What an operation on a registry leaves behind. -/
structure Pass (σ α : Type) where
  result : α
  registry : Registry
  state : σ
  events : List Event

/-- A step on a registry, in an environment with states of type `σ`. -/
structure Action (σ α : Type) where
  /-- What the step does to a registry and a state of the environment. -/
  run : Registry → σ → Pass σ (Except Error α)

namespace Action

variable {σ α β : Type}

/-- Do nothing. -/
def pure (a : α) : Action σ α := ⟨fun registry state => ⟨.ok a, registry, state, []⟩⟩

/-- Do one step and then, unless it fails, the next. -/
def bind (action : Action σ α) (next : α → Action σ β) : Action σ β where
  run registry state :=
    match action.run registry state with
    | ⟨.ok a, registry, state, events⟩ =>
      let pass := (next a).run registry state
      { pass with events := events ++ pass.events }
    | ⟨.error error, registry, state, events⟩ => ⟨.error error, registry, state, events⟩

instance : Monad (Action σ) where
  pure := Action.pure
  bind := Action.bind

/-- A computation that neither the registry nor the environment sees. -/
def ofExcept (result : Except Error α) : Action σ α :=
  ⟨fun registry state => ⟨result, registry, state, []⟩⟩

instance : MonadLift (Except Error) (Action σ) := ⟨ofExcept⟩

/-- Write to the log. -/
def log (records : List Record) : Action σ Unit :=
  ⟨fun registry state => ⟨.ok (), registry, state, records.map Event.log⟩⟩

/-- The registry as it is now. -/
def current : Action σ Registry :=
  ⟨fun registry state => ⟨.ok registry, registry, state, []⟩⟩

/-- Append a volume to the registry. The result says whether there was room. -/
def append (volume : Volume) : Action σ Bool where
  run registry state :=
    match registry.append volume with
    | some grown => ⟨.ok true, grown, state, []⟩
    | none => ⟨.ok false, registry, state, []⟩

/-- Record in the registry what a whole device contains. -/
def classify (index : Nat) (kind : VolumeKind) : Action σ Unit where
  run registry state :=
    match registry.classify index kind with
    | .ok classified => ⟨.ok (), classified, state, []⟩
    | .error error => ⟨.error error, registry, state, []⟩

/-- Lend a buffer of at least `size` bytes to `body`, and give it back afterwards. -/
def withBuffer (env : Environment σ) (size : Nat) (body : Grant → Action σ α) : Action σ α where
  run registry state :=
    match env.scratch.acquire state size with
    | (.refused, state) =>
      ⟨.error (.outOfScratch size), registry, state, [.allocate size none]⟩
    | (.short grant, state) =>
      ⟨.error (.outOfScratch size), registry, state,
        [.allocate size (some grant), .release grant]⟩
    | (.whole grant, state) =>
      let pass := (body grant).run registry state
      let (accepted, state) := env.scratch.release pass.state grant
      let complaint := if accepted then [] else [Event.log (.releaseRefused grant.size)]
      ⟨pass.result, pass.registry, state,
        .allocate size (some grant) :: pass.events ++ (.release grant :: complaint)⟩

/-- Read the first `len` bytes of a buffer from a volume. The result is the whole buffer, which
holds zeros behind what was read. -/
def fill (env : Environment σ) (buffer : Grant) (volume : Volume) (pos len : Nat) :
    Action σ Bytes where
  run registry state :=
    if buffer.size < len then ⟨.error .fault, registry, state, []⟩
    else
      match env.read state volume pos len with
      | (.ok block, state) =>
        ⟨.ok (block.val ++ List.replicate (buffer.size - len) 0), registry,
          env.scratch.store state buffer 0 block.val, [.read volume pos len (some block.val)]⟩
      | (.error error, state) => ⟨.error error, registry, state, [.read volume pos len none]⟩

end Action

end VolumeScan
