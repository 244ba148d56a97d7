/-
VolumeScan.Proofs.Scan.Run — how a registry comes about.

Only two steps ever change a registry: a device is seeded, or a detection succeeds. What both of
them keep is an invariant (`Registry.Invariant`), which is said of a registry together with the
origin of every volume: none for a seeded device, and the index of its device for a partition. The
origins of a run are computed beside the run (`Request.allOrigins`). Whatever the environment does,
a run of requests keeps every invariant (`Registry.Invariant.run`). In particular it builds its
registry from the empty one by the two steps (`Registry.Built`, `Request.built_run`).
-/
import VolumeScan.Proofs.Scan.Discovery
import VolumeScan.Scan.Request

namespace VolumeScan

namespace Registry

/-- The origins of the volumes that a step appended, if all of them have the same. -/
def origins (before after : Registry) (origin : Option Nat) : List (Option Nat) :=
  List.replicate (after.size - before.size) origin

@[simp] theorem origins_self (registry : Registry) (origin : Option Nat) :
    registry.origins registry origin = [] := by
  rw [origins, Nat.sub_self]
  rfl

/-- A registry that was built by seeding devices of which `device` holds and by detections, with the
origins of its volumes. -/
inductive Built (capacity : Nat) (device : Volume → Prop) :
    Registry → List (Option Nat) → Prop where
  | empty : Built capacity device (Registry.empty capacity) []
  | seed {before after : Registry} {origins : List (Option Nat)} {volume : Volume} {index : Nat}
      (built : Built capacity device before origins)
      (seeded : before.seed volume = .ok (index, after)) (known : device volume) :
      Built capacity device after (origins ++ before.origins after none)
  | detect {before after : Registry} {origins : List (Option Nat)} {options : Options} {mbr : Mbr}
      {index : Nat} {detection : Detection} (built : Built capacity device before origins)
      (detects : options.Detects mbr index before detection after) :
      Built capacity device after (origins ++ before.origins after (some index))

/-- A step that changes nothing appends nothing. -/
theorem append_origins_self (registry : Registry) (origins : List (Option Nat))
    (origin : Option Nat) : origins ++ registry.origins registry origin = origins := by
  rw [origins_self, List.append_nil]

/-- Every volume has an origin behind a step, if every volume had one in front of it. -/
theorem length_append_origins {before after : Registry} {origins : List (Option Nat)}
    (hlength : origins.length = before.size) (hle : before.size ≤ after.size)
    (origin : Option Nat) : (origins ++ before.origins after origin).length = after.size := by
  rw [List.length_append, Registry.origins, List.length_replicate]
  omega

/-- `P` is kept by seeding a device of which `device` holds, and by a detection. -/
structure Invariant (device : Volume → Prop) (P : Registry → List (Option Nat) → Prop) : Prop where
  seed : ∀ {before after : Registry} {origins : List (Option Nat)} {volume : Volume} {index : Nat},
    P before origins → before.seed volume = .ok (index, after) → device volume →
      P after (origins ++ before.origins after none)
  detect : ∀ {before after : Registry} {origins : List (Option Nat)} {options : Options} {mbr : Mbr}
    {index : Nat} {detection : Detection},
    P before origins → options.Detects mbr index before detection after →
      P after (origins ++ before.origins after (some index))

/-- To be built is an invariant. -/
theorem Built.invariant (capacity : Nat) (device : Volume → Prop) :
    Invariant device (Built capacity device) := ⟨.seed, .detect⟩

end Registry

/-! ## One request -/

namespace Scanner

variable {σ : Type} (scanner : Scanner σ)

/-- The origins of the volumes that the visits of a pass append. -/
def visitOrigins : List Nat → Registry → σ → List (Option Nat)
  | [], _, _ => []
  | index :: rest, registry, state =>
    let here := scanner.visit registry index state
    registry.origins here.registry (some index) ++ visitOrigins rest here.registry here.state

variable {scanner}

theorem registry_discover (registry : Registry) (state : σ) :
    (scanner.discover registry state).registry
      = (scanner.visitAll (List.range registry.size) registry state).registry :=
  (scanner.discover_eq_visitAll registry state).2.1

end Scanner

/-! ## Runs -/

namespace Request

variable {σ : Type} (env : Environment σ)

/-- The origins of the volumes that a request appends. -/
def origins (registry : Registry) (state : σ) (request : Request) : List (Option Nat) :=
  let after := (request.serve env registry state).registry
  match request with
  | .discover options =>
    Scanner.visitOrigins ⟨env, options⟩ (List.range registry.size) registry state
  | .detect _ _ parent | .detectOrLog _ _ parent => registry.origins after (some parent)
  | .seed _ | .find _ | .peek _ => registry.origins after none

/-- The origins of the volumes that a run appends. -/
def allOrigins : Registry → σ → List Request → List (Option Nat)
  | _, _, [] => []
  | registry, state, request :: rest =>
    let pass := request.serve env registry state
    request.origins env registry state ++ allOrigins pass.registry pass.state rest

/-- The registry that a run ends with. -/
def registryAfter (registry : Registry) (state : σ) (requests : List Request) : Registry :=
  ((serveAll env registry state requests).getLast?.map (·.registry)).getD registry

theorem registryAfter_cons (registry : Registry) (state : σ) (request : Request)
    (rest : List Request) :
    registryAfter env registry state (request :: rest) =
      let pass := request.serve env registry state
      registryAfter env pass.registry pass.state rest := by
  simp only [registryAfter, serveAll, List.getLast?_cons, Option.map_some, Option.getD_some]
  cases (serveAll env (request.serve env registry state).registry
    (request.serve env registry state).state rest).getLast? <;> rfl

variable {env}

/-- Looking volumes up changes nothing, and the other requests change the registry by the operation
they name. -/
theorem registry_serve (registry : Registry) (state : σ) (request : Request) :
    (request.serve env registry state).registry =
      match request with
      | .seed volume =>
        match registry.seed volume with
        | .ok (_, grown) => grown
        | .error _ => registry
      | .discover options =>
        (Scanner.visitAll ⟨env, options⟩ (List.range registry.size) registry state).registry
      | .detect options mbr parent | .detectOrLog options mbr parent =>
        ((Scanner.detect ⟨env, options⟩ mbr parent).run registry state).registry
      | .find _ | .peek _ => registry := by
  cases request with
  | seed volume =>
    dsimp only [serve]
    cases registry.seed volume <;> rfl
  | discover options => exact Scanner.registry_discover registry state
  | detect options mbr parent =>
    dsimp only [serve]
    cases ((Scanner.detect ⟨env, options⟩ mbr parent).run registry state).result <;> rfl
  | detectOrLog options mbr parent =>
    dsimp only [serve]
    rw [Scanner.detectOrLog_eq]
  | find index =>
    dsimp only [serve]
    cases registry.volume index <;> rfl
  | peek index => rfl

end Request

/-! ## What every run keeps -/

namespace Registry

namespace Invariant

variable {σ : Type} {scanner : Scanner σ} {env : Environment σ} {device : Volume → Prop}
  {P : Registry → List (Option Nat) → Prop} {registry : Registry} {origins : List (Option Nat)}

theorem detection (hP : Invariant device P) (h : P registry origins) (mbr : Mbr) (index : Nat)
    (state : σ) :
    P ((scanner.detect mbr index).run registry state).registry
      (origins ++ registry.origins ((scanner.detect mbr index).run registry state).registry
        (some index)) := by
  rcases Scanner.detect_transacts scanner mbr index registry state with
    ⟨_, -, hkept⟩ | ⟨_, -, hdetects⟩
  · rwa [hkept, append_origins_self]
  · exact hP.detect h hdetects

theorem visit (hP : Invariant device P) (h : P registry origins) (index : Nat) (state : σ) :
    P (scanner.visit registry index state).registry
      (origins ++ registry.origins (scanner.visit registry index state).registry (some index)) := by
  cases hat : registry.volumes[index]? with
  | none => rwa [Scanner.visit_of_none hat, append_origins_self]
  | some volume =>
    cases hboot : ((scanner.readBootSector volume).run registry state).result with
    | error error => rwa [Scanner.visit_of_unreadable hat hboot, append_origins_self]
    | ok mbr =>
      cases hvalid : mbr.validate volume with
      | error error => rwa [Scanner.visit_of_noTable hat hboot hvalid, append_origins_self]
      | ok _ =>
        rw [Scanner.visit_of_table hat hboot hvalid]
        dsimp only
        rw [Scanner.detectOrLog_eq]
        exact hP.detection h mbr index _

/-- A pass is the sequence of its visits. -/
theorem visitAll (hP : Invariant device P) {indices : List Nat} (h : P registry origins)
    (state : σ) :
    P (scanner.visitAll indices registry state).registry
      (origins ++ scanner.visitOrigins indices registry state) := by
  induction indices generalizing registry origins state with
  | nil =>
    rw [Scanner.visitOrigins, List.append_nil]
    exact h
  | cons index rest ih =>
    rw [Scanner.visitOrigins, ← List.append_assoc]
    exact ih (hP.visit h index state) _

/-- Every request is answered by steps that keep the invariant. -/
theorem serve (hP : Invariant device P) (h : P registry origins) (state : σ) (request : Request)
    (hdevice : ∀ volume, request = .seed volume → volume.partition = none → device volume) :
    P (request.serve env registry state).registry
      (origins ++ request.origins env registry state) := by
  unfold Request.origins
  dsimp only
  rw [Request.registry_serve]
  cases request with
  | seed volume =>
    dsimp only
    cases hseed : registry.seed volume with
    | error error => rwa [append_origins_self]
    | ok result =>
      obtain ⟨index, grown⟩ := result
      exact hP.seed h hseed (hdevice volume rfl (seed_eq_ok_iff.mp hseed).1)
  | discover options => exact hP.visitAll h state
  | detect options mbr parent => exact hP.detection h mbr parent state
  | detectOrLog options mbr parent => exact hP.detection h mbr parent state
  | find index => rwa [append_origins_self]
  | peek index => rwa [append_origins_self]

/-- **Every run keeps every invariant.** -/
theorem run (hP : Invariant device P) (h : P registry origins) (state : σ)
    (requests : List Request)
    (hdevice : ∀ volume, .seed volume ∈ requests → volume.partition = none → device volume) :
    P (Request.registryAfter env registry state requests)
      (origins ++ Request.allOrigins env registry state requests) := by
  induction requests generalizing registry origins state with
  | nil =>
    rw [Request.allOrigins, List.append_nil]
    exact h
  | cons request rest ih =>
    rw [Request.registryAfter_cons, Request.allOrigins, ← List.append_assoc]
    refine ih (hP.serve h state request ?_) _ ?_
    · intro volume hvolume
      subst hvolume
      exact hdevice volume List.mem_cons_self
    · intro volume hmem
      exact hdevice volume (List.mem_cons_of_mem _ hmem)

end Invariant

end Registry

/-- **Every run builds its registry** by seeding devices and by detections. -/
theorem Request.built_run {σ : Type} {env : Environment σ} {capacity : Nat}
    {device : Volume → Prop} {registry : Registry} {origins : List (Option Nat)}
    (h : registry.Built capacity device origins) (state : σ) (requests : List Request)
    (hdevice : ∀ volume, .seed volume ∈ requests → volume.partition = none → device volume) :
    (Request.registryAfter env registry state requests).Built capacity device
      (origins ++ Request.allOrigins env registry state requests) :=
  (Registry.Built.invariant capacity device).run h state requests hdevice

end VolumeScan
