/-
VolumeScan.Proofs.Scan.Footprint — a scan leaves an arena as it found it.

Let some blocks of an arena be out, in whatever order they and others were asked for and given back.
They end at or below the top, so a scan is given blocks above them (`Pool.InUse.granted`), and it
writes to no other blocks. It gives its own blocks back newest first, and releasing the newest block
undoes its allocation; the holes below the top make no difference to that. So every step leaves the
arena, and the bytes below the top, as they were (`Action.Leaves`), however it ends: a read that
fails and a block that is refused end an action early, but not without the releases of the blocks
that were granted to it.

What the detections and the boot sectors of a scanner keep of the state of the environment, every
request keeps (`Scanner.Keeps`, `Request.serve_keeps`).
-/
import VolumeScan.Proofs.Scan.Discovery
import VolumeScan.Proofs.Scan.Rules
import VolumeScan.Proofs.Scratch.Ledger
import VolumeScan.Proofs.Scratch.Pool
import VolumeScan.Scan.Request

namespace VolumeScan

/-! ## What every request keeps -/

/-- A property of states that a scanner keeps when it reads a boot sector or a partition table. -/
structure Scanner.Keeps {σ : Type} (scanner : Scanner σ) (P : σ → Prop) : Prop where
  readBootSector : ∀ volume registry state, P state →
    P ((scanner.readBootSector volume).run registry state).state
  detect : ∀ mbr index registry state, P state →
    P ((scanner.detect mbr index).run registry state).state

namespace Scanner.Keeps

variable {σ : Type} {scanner : Scanner σ} {P : σ → Prop} {state : σ}

theorem detectOrLog (h : scanner.Keeps P) (mbr : Mbr) (index : Nat) (registry : Registry)
    (hstate : P state) : P (scanner.detectOrLog mbr index registry state).state := by
  rw [detectOrLog_eq]
  exact h.detect mbr index registry state hstate

theorem visit (h : scanner.Keeps P) (registry : Registry) (index : Nat) (hstate : P state) :
    P (scanner.visit registry index state).state := by
  cases hat : registry.volumes[index]? with
  | none => rwa [visit_of_none hat]
  | some volume =>
    have hread := h.readBootSector volume registry state hstate
    cases hboot : ((scanner.readBootSector volume).run registry state).result with
    | error error => rwa [visit_of_unreadable hat hboot]
    | ok mbr =>
      cases hvalid : mbr.validate volume with
      | error error => rwa [visit_of_noTable hat hboot hvalid]
      | ok _ =>
        rw [visit_of_table hat hboot hvalid]
        exact h.detectOrLog mbr index registry hread

theorem visitAll (h : scanner.Keeps P) (indices : List Nat) (registry : Registry)
    (hstate : P state) : P (scanner.visitAll indices registry state).state := by
  induction indices generalizing registry state with
  | nil => exact hstate
  | cons index rest ih => exact ih _ (h.visit registry index hstate)

theorem discover (h : scanner.Keeps P) (registry : Registry) (hstate : P state) :
    P (scanner.discover registry state).state := by
  rw [(scanner.discover_eq_visitAll registry state).2.2.1]
  exact h.visitAll _ registry hstate

end Scanner.Keeps

/-- What scanners keep with all options, requests keep. -/
theorem Request.serve_keeps {σ : Type} {env : Environment σ} {P : σ → Prop}
    (h : ∀ options, Scanner.Keeps ⟨env, options⟩ P) (registry : Registry) {state : σ}
    (hstate : P state) (request : Request) : P (request.serve env registry state).state := by
  cases request with
  | seed volume =>
    dsimp only [serve]
    cases registry.seed volume <;> exact hstate
  | discover options => exact (h options).discover registry hstate
  | detect options mbr parent =>
    have hdetect := (h options).detect mbr parent registry state hstate
    dsimp only [serve]
    cases ((Scanner.detect ⟨env, options⟩ mbr parent).run registry state).result <;> exact hdetect
  | detectOrLog options mbr parent => exact (h options).detectOrLog mbr parent registry hstate
  | find index =>
    dsimp only [serve]
    cases registry.volume index <;> exact hstate
  | peek index => exact hstate

/-! ## A reader beside an allocator -/

namespace Environment

variable {ρ σ : Type}

/-- A reader with states of its own, and an allocator with states of its own. -/
def beside (reader : ρ → Volume → Nat → (len : Nat) → Except Error (Block len) × ρ)
    (scratch : Allocator σ) : Environment (ρ × σ) where
  read := fun (seen, state) volume pos len =>
    let (answer, seen) := reader seen volume pos len
    (answer, (seen, state))
  scratch :=
    { allocate := fun (seen, state) size =>
        let (grant, state) := scratch.allocate state size
        (grant, (seen, state))
      release := fun (seen, state) grant =>
        let (accepted, state) := scratch.release state grant
        (accepted, (seen, state))
      clear := fun (seen, state) grant => (seen, scratch.clear state grant)
      store := fun (seen, state) grant start bytes =>
        (seen, scratch.store state grant start bytes) }

/-- A buffer is asked for as if there were no reader. -/
theorem acquire_beside {reader : ρ → Volume → Nat → (len : Nat) → Except Error (Block len) × ρ}
    {scratch : Allocator σ} {state state' : σ} {size : Nat} {acquisition : Acquisition}
    (h : scratch.acquire state size = (acquisition, state')) (seen : ρ) :
    (beside reader scratch).scratch.acquire (seen, state) size = (acquisition, (seen, state')) := by
  rcases hallocate : scratch.allocate state size with ⟨grant, allocated⟩
  simp only [Allocator.acquire, beside, hallocate] at h ⊢
  cases grant with
  | none =>
    cases h
    rfl
  | some grant =>
    dsimp only at h ⊢
    split at h
    case isTrue hshort =>
      cases h
      rw [if_pos hshort]
    case isFalse hlarge =>
      cases h
      rw [if_neg hlarge]

end Environment

/-! ## Pools of which the lower part is in use -/

namespace Pool

/-- The bytes below `base` are in use. -/
structure InUse (base : Nat) (pool : Pool) : Prop where
  settled : pool.arena.Settled
  le_top : base ≤ pool.arena.top
  le_length : base ≤ pool.memory.length

/-- What a pool has become: the arena and the bytes below `base` are the same. -/
structure Kept (base : Nat) (before after : Pool) : Prop where
  arena_eq : after.arena = before.arena
  take_eq : after.memory.take base = before.memory.take base

variable {base : Nat} {pool before between after : Pool} {grant : Grant}

theorem Kept.refl (base : Nat) (pool : Pool) : Kept base pool pool := ⟨rfl, rfl⟩

theorem Kept.trans (h : Kept base before between) (hnext : Kept base between after) :
    Kept base before after :=
  ⟨hnext.arena_eq.trans h.arena_eq, hnext.take_eq.trans h.take_eq⟩

theorem InUse.of_take_eq (h : before.InUse base) (hsettled : after.arena.Settled)
    (htop : before.arena.top ≤ after.arena.top)
    (htake : after.memory.take base = before.memory.take base) : after.InUse base where
  settled := hsettled
  le_top := Nat.le_trans h.le_top htop
  le_length := by
    have hlength := congrArg List.length htake
    rw [List.length_take_of_le h.le_length, List.length_take] at hlength
    omega

theorem InUse.of_kept (h : before.InUse base) (hkept : Kept base before after) :
    after.InUse base :=
  h.of_take_eq (hkept.arena_eq ▸ h.settled) (Nat.le_of_eq (congrArg (·.top) hkept.arena_eq.symm))
    hkept.take_eq

/-- A new block lies above what is in use, and clearing it changes nothing below. -/
theorem InUse.granted (h : pool.InUse base) {size : Nat} {arena : Arena}
    (hgranted : pool.arena.allocate size = (some grant, arena)) :
    let acquired := allocator.clear { pool with arena := arena } grant
    base ≤ grant.start ∧ acquired.InUse base
      ∧ acquired.memory.take base = pool.memory.take base := by
  intro acquired
  have hsettled := h.settled.allocate size
  rw [hgranted] at hsettled
  obtain ⟨-, -, rfl, rfl⟩ := Arena.allocate_eq_some_iff.mp hgranted
  have htake : acquired.memory.take base = pool.memory.take base :=
    take_overwrite h.le_top h.le_length
  exact ⟨h.le_top, h.of_take_eq hsettled (Nat.le_add_right _ _) htake, htake⟩

end Pool

/-! ## What every step leaves -/

namespace Action

variable {ρ α β : Type} {base : Nat}
  {reader : ρ → Volume → Nat → (len : Nat) → Except Error (Block len) × ρ}

/-- If the bytes below `base` are in use, then the action leaves them, and the arena, as they
were. -/
def Leaves (base : Nat) (action : Action (ρ × Pool) α) : Prop :=
  ∀ registry seen pool, pool.InUse base →
    Pool.Kept base pool (action.run registry (seen, pool)).state.2

namespace Leaves

theorem lift (x : Except Error α) : Leaves base (liftM x : Action (ρ × Pool) α) :=
  fun _ _ pool _ => .refl base pool

theorem log (records : List Record) : Leaves base (Action.log records : Action (ρ × Pool) Unit) :=
  fun _ _ pool _ => .refl base pool

theorem current : Leaves base (Action.current : Action (ρ × Pool) Registry) :=
  fun _ _ pool _ => .refl base pool

theorem append (volume : Volume) :
    Leaves base (Action.append volume : Action (ρ × Pool) Bool) := by
  intro registry seen pool _
  cases happend : registry.append volume with
  | none =>
    rw [run_append_of_none happend]
    exact .refl base pool
  | some grown =>
    rw [run_append_of_some happend]
    exact .refl base pool

theorem classify (index : Nat) (kind : VolumeKind) :
    Leaves base (Action.classify index kind : Action (ρ × Pool) Unit) := by
  intro registry seen pool _
  cases hclassify : registry.classify index kind with
  | ok classified =>
    rw [run_classify_of_ok hclassify]
    exact .refl base pool
  | error error =>
    rw [run_classify_of_error hclassify]
    exact .refl base pool

/-- What is read goes into the buffer, and that lies above `base`. -/
theorem fill {buffer : Grant} (hlent : base ≤ buffer.start) (volume : Volume) (pos len : Nat) :
    Leaves base (Action.fill (.beside reader Pool.allocator) buffer volume pos len) := by
  intro registry seen pool hinuse
  rcases Nat.lt_or_ge buffer.size len with hshort | hlen
  · rw [run_fill_of_short hshort]
    exact .refl base pool
  · rcases hread : (Environment.beside reader Pool.allocator).read (seen, pool) volume pos len with
      ⟨answer, answered⟩
    obtain ⟨-, rfl⟩ := Prod.mk.inj hread
    cases answer with
    | ok block =>
      rw [run_fill_of_ok hlen hread]
      exact ⟨rfl, Pool.take_overwrite (Nat.le_trans hlent (Nat.le_add_right _ _)) hinuse.le_length⟩
    | error error =>
      rw [run_fill_of_error hlen hread]
      exact .refl base pool

theorem bind {action : Action (ρ × Pool) α} {next : α → Action (ρ × Pool) β}
    (h : Leaves base action) (hnext : ∀ a, Leaves base (next a)) :
    Leaves base (action >>= next) := by
  intro registry seen pool hinuse
  have hfirst := h registry seen pool hinuse
  cases hresult : (action.run registry (seen, pool)).result with
  | ok a =>
    rw [run_bind_of_ok hresult]
    exact hfirst.trans (hnext a _ _ _ (hinuse.of_kept hfirst))
  | error error =>
    rw [run_bind_of_error hresult]
    exact hfirst

/-- The release of the block undoes its allocation, since the body leaves the arena as it finds
it. -/
theorem withBuffer {size : Nat} {body : Grant → Action (ρ × Pool) α}
    (hbody : ∀ grant, base ≤ grant.start → Leaves base (body grant)) :
    Leaves base (Action.withBuffer (.beside reader Pool.allocator) size body) := by
  intro registry seen pool hinuse
  rcases pool.acquire_cases size with ⟨grant, arena, hgranted, hacquire⟩ | ⟨-, hacquire⟩
  · obtain ⟨hlent, hacquired, hcleared⟩ := hinuse.granted hgranted
    have hpass := hbody grant hlent registry seen _ hacquired
    have hreleased := congrArg Prod.snd (Arena.release_of_allocate hinuse.settled hgranted)
    rw [run_withBuffer_of_whole (Environment.acquire_beside hacquire seen)]
    refine ⟨?_, hpass.take_eq.trans hcleared⟩
    calc (((body grant).run registry (seen, _)).state.2.arena.release grant).2
      _ = (arena.release grant).2 := by rw [hpass.arena_eq]; rfl
      _ = pool.arena := hreleased
  · rw [run_withBuffer_of_refused (Environment.acquire_beside hacquire seen)]
    exact .refl base pool

variable (base reader)

/-- So every operation leaves them that is made of these steps. -/
theorem rules :
    Rules (.beside reader Pool.allocator) (.beside reader Pool.allocator)
      (fun grant => base ≤ grant.start) fun _ action _ => Leaves base action where
  lift := Leaves.lift
  log := Leaves.log
  current := Leaves.current
  append := Leaves.append
  classify := Leaves.classify
  fill := Leaves.fill
  bind := Leaves.bind
  withBuffer := Leaves.withBuffer

end Leaves

end Action

/-! ## Requests -/

/-- A scanner keeps what it finds below `base`. -/
theorem Scanner.keeps_pool {ρ : Type} {base : Nat} {pool : Pool} (hinuse : pool.InUse base)
    (reader : ρ → Volume → Nat → (len : Nat) → Except Error (Block len) × ρ) (options : Options) :
    Scanner.Keeps ⟨.beside reader Pool.allocator, options⟩
      fun state => Pool.Kept base pool state.2 where
  readBootSector := fun volume registry (seen, _) hkept =>
    hkept.trans ((Action.Leaves.rules base reader).readBootSector options volume registry seen _
      (hinuse.of_kept hkept))
  detect := fun mbr index registry (seen, _) hkept =>
    hkept.trans ((Action.Leaves.rules base reader).detect options mbr index registry seen _
      (hinuse.of_kept hkept))

/-- **A scan leaves an arena as it found it**, whatever has been asked of the arena and given back
to it, in whatever order, whatever its memory holds, and whatever the reader answers. Behind every
request the arena has as many bytes in use, as many remaining, and as many blocks out as before, and
the blocks that were out hold the same bytes. -/
theorem Request.arena_as_found {ρ : Type}
    (reader : ρ → Volume → Nat → (len : Nat) → Except Error (Block len) × ρ)
    (misalignment len : Nat) (calls : List Arena.Call)
    (memory : Block (Arena.ofRegion misalignment len).size) (seen : ρ) (registry : Registry)
    (request : Request) :
    let ledger := (Arena.Ledger.ofRegion misalignment len).run calls
    let before : Pool := ⟨ledger.arena, memory.val⟩
    let after := (request.serve (.beside reader Pool.allocator) registry (seen, before)).state.2
    after.arena.used = before.arena.used
      ∧ after.arena.remaining = before.arena.remaining
      ∧ after.arena.live = before.arena.live
      ∧ ∀ grant ∈ ledger.out, after.load grant = before.load grant := by
  intro ledger before after
  have hbacks : ledger.arena.Backs ledger.out := Arena.Ledger.backs_run misalignment len calls
  have hsize : ledger.arena.size = (Arena.ofRegion misalignment len).size :=
    (Arena.Ledger.ofRegion misalignment len).size_run calls
  have hinuse : before.InUse ledger.arena.top := by
    refine ⟨hbacks.settled, Nat.le_refl _, ?_⟩
    dsimp only [before]
    rw [memory.property, ← hsize]
    exact hbacks.top_le
  have hkept : Pool.Kept ledger.arena.top before after :=
    serve_keeps (Scanner.keeps_pool hinuse reader) registry (.refl _ _) request
  rw [hkept.arena_eq]
  refine ⟨rfl, rfl, rfl, fun grant hmem => ?_⟩
  exact Pool.load_eq_of_take_eq hkept.take_eq (hbacks.end_le_top grant hmem)

end VolumeScan
