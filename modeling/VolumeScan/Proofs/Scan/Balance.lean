/-
VolumeScan.Proofs.Scan.Balance — scratch memory is given back in order.

`Event.follow` watches a trace with the blocks that are out, the newest first. A block that is
granted is put on top, up to a limit; a block that is released must be the one on top, with the size
it was granted with. `Event.Balanced` is the contract of a trace that needs so many blocks at a time
and ends with the blocks it started with. Buffers nest, so the contract is kept by sequences
(`Balanced.append`) and by a block around a trace (`Balanced.block`), and a block that was too small
is a block around nothing. A detection nests three of them.
-/
import VolumeScan.Proofs.Scan.Detection
import VolumeScan.Proofs.Scan.Discovery
import VolumeScan.Proofs.Scan.Rules
import VolumeScan.Scan.Request

namespace VolumeScan

namespace Event

/-- Follow one event with the blocks that are out, the newest first. There is no result if more than
`limit` blocks would be out, or if another block than the newest one is released. -/
def follow (limit : Nat) (held : List Grant) : Event → Option (List Grant)
  | .allocate _ (some grant) => if held.length < limit then some (grant :: held) else none
  | .release grant => if held.head? = some grant then some held.tail else none
  | _ => some held

theorem follow_allocate_eq_some_iff {limit size : Nat} {held held' : List Grant} {grant : Grant} :
    follow limit held (.allocate size (some grant)) = some held' ↔
      held.length < limit ∧ held' = grant :: held := by
  by_cases hroom : held.length < limit <;> simp [follow, hroom, eq_comm]

theorem follow_release_eq_some_iff {limit : Nat} {held held' : List Grant} {grant : Grant} :
    follow limit held (.release grant) = some held' ↔ held = grant :: held' := by
  cases held with
  | nil => simp [follow]
  | cons newest rest => by_cases hnewest : newest = grant <;> simp [follow, hnewest]

/-- A trace that may have `depth` blocks out at a time, besides those that were out before, and ends
with those. -/
def Balanced (depth : Nat) (events : List Event) : Prop :=
  ∀ limit held, held.length + depth ≤ limit → events.foldlM (follow limit) held = some held

namespace Balanced

variable {depth : Nat} {events more : List Event}

theorem nil (depth : Nat) : Balanced depth [] := fun _ _ _ => rfl

theorem mono {deeper : Nat} (h : Balanced depth events) (hle : depth ≤ deeper) :
    Balanced deeper events := fun limit held hlimit => h limit held (by omega)

/-- One balanced trace may follow the other. -/
theorem append (h : Balanced depth events) (hmore : Balanced depth more) :
    Balanced depth (events ++ more) := by
  intro limit held hlimit
  rw [List.foldlM_append, h limit held hlimit]
  exact hmore limit held hlimit

/-- An event that has nothing to do with blocks. -/
theorem cons {event : Event} (hevent : ∀ limit held, follow limit held event = some held)
    (h : Balanced depth events) : Balanced depth (event :: events) := by
  intro limit held hlimit
  rw [List.foldlM_cons, hevent limit held]
  exact h limit held hlimit

/-- A balanced trace between the grant of a block and its release. -/
theorem block (h : Balanced depth events) (size : Nat) (grant : Grant)
    (hmore : Balanced (depth + 1) more) :
    Balanced (depth + 1) (.allocate size (some grant) :: events ++ (.release grant :: more)) := by
  intro limit held hlimit
  have hgranted : follow limit held (.allocate size (some grant)) = some (grant :: held) :=
    follow_allocate_eq_some_iff.mpr ⟨by omega, rfl⟩
  have hreleased : follow limit (grant :: held) (.release grant) = some held :=
    follow_release_eq_some_iff.mpr rfl
  rw [List.cons_append, List.foldlM_cons, hgranted, Option.bind_eq_bind, Option.bind_some,
    List.foldlM_append, h limit (grant :: held) (by rw [List.length_cons]; omega),
    Option.bind_eq_bind, Option.bind_some, List.foldlM_cons, hreleased]
  exact hmore limit held hlimit

theorem logs (depth : Nat) (records : List Record) : Balanced depth (records.map Event.log) := by
  induction records with
  | nil => exact nil depth
  | cons record records ih => exact cons (fun _ _ => rfl) ih

end Balanced

end Event

namespace Action

/-- Whatever the environment does, the events of the action are balanced. -/
def Balanced {σ α : Type} (depth : Nat) (action : Action σ α) : Prop :=
  ∀ registry state, Event.Balanced depth (action.run registry state).events

namespace Balanced

variable {σ α β : Type} {depth : Nat}

theorem lift (x : Except Error α) : Balanced depth (liftM x : Action σ α) :=
  fun _ _ => .nil depth

theorem log (records : List Record) : Balanced depth (Action.log records : Action σ Unit) :=
  fun _ _ => .logs depth records

theorem current : Balanced depth (Action.current : Action σ Registry) := fun _ _ => .nil depth

theorem append (volume : Volume) : Balanced depth (Action.append volume : Action σ Bool) := by
  intro registry state
  cases happend : registry.append volume with
  | some grown =>
    rw [run_append_of_some happend]
    exact .nil depth
  | none =>
    rw [run_append_of_none happend]
    exact .nil depth

theorem classify (index : Nat) (kind : VolumeKind) :
    Balanced depth (Action.classify index kind : Action σ Unit) := by
  intro registry state
  cases hclassify : registry.classify index kind with
  | ok classified =>
    rw [run_classify_of_ok hclassify]
    exact .nil depth
  | error error =>
    rw [run_classify_of_error hclassify]
    exact .nil depth

theorem fill (env : Environment σ) (buffer : Grant) (volume : Volume) (pos len : Nat) :
    Balanced depth (Action.fill env buffer volume pos len) := by
  intro registry state
  rcases Nat.lt_or_ge buffer.size len with hshort | hlen
  · rw [run_fill_of_short hshort]
    exact .nil depth
  · rcases hread : env.read state volume pos len with ⟨result, answered⟩
    cases result with
    | ok block =>
      rw [run_fill_of_ok hlen hread]
      exact .cons (fun _ _ => rfl) (.nil depth)
    | error error =>
      rw [run_fill_of_error hlen hread]
      exact .cons (fun _ _ => rfl) (.nil depth)

theorem bind {action : Action σ α} {next : α → Action σ β} (h : Balanced depth action)
    (hnext : ∀ a, Balanced depth (next a)) : Balanced depth (action >>= next) := by
  intro registry state
  cases hresult : (action.run registry state).result with
  | ok a =>
    rw [run_bind_of_ok hresult]
    exact (h registry state).append (hnext a _ _)
  | error error =>
    rw [run_bind_of_error hresult]
    exact h registry state

/-- A block is one more than its body needs, whether it is granted, too small or refused. -/
theorem withBuffer {env : Environment σ} {size : Nat} {body : Grant → Action σ α}
    (h : ∀ grant, Balanced depth (body grant)) :
    Balanced (depth + 1) (Action.withBuffer env size body) := by
  intro registry state
  rcases hacquire : env.scratch.acquire state size with ⟨acquisition, acquired⟩
  cases acquisition with
  | refused =>
    rw [run_withBuffer_of_refused hacquire]
    exact .cons (fun _ _ => rfl) (.nil _)
  | short grant =>
    rw [run_withBuffer_of_short hacquire]
    exact (Event.Balanced.nil depth).block size grant (.nil _)
  | whole grant =>
    rw [run_withBuffer_of_whole hacquire]
    refine (h grant registry acquired).block size grant ?_
    unfold complaint
    split
    · exact .nil _
    · exact .cons (fun _ _ => rfl) (.nil _)

/-- So every operation is balanced that is made of these steps. -/
theorem rules (env : Environment σ) :
    Rules env env (fun _ => True) fun depth action _ => Balanced depth action where
  lift := Balanced.lift
  log := Balanced.log
  current := Balanced.current
  append := Balanced.append
  classify := Balanced.classify
  fill := fun {_ buffer} _ => Balanced.fill env buffer
  bind := Balanced.bind
  withBuffer := fun hbody => Balanced.withBuffer fun grant => hbody grant trivial

end Balanced

end Action

/-! ## The operations of a scanner -/

namespace Scanner

open VolumeScan.Action

variable {σ : Type}

/-- A detection needs three blocks at a time. -/
theorem balanced_detect (scanner : Scanner σ) (mbr : Mbr) (index : Nat) :
    Balanced 3 (scanner.detect mbr index) :=
  (Balanced.rules scanner.env).detect scanner.options mbr index

theorem balanced_readBootSector (scanner : Scanner σ) (volume : Volume) :
    Balanced 1 (scanner.readBootSector volume) :=
  (Balanced.rules scanner.env).readBootSector scanner.options volume

theorem balanced_detectOrLog (scanner : Scanner σ) (mbr : Mbr) (index : Nat) (registry : Registry)
    (state : σ) : Event.Balanced 3 (scanner.detectOrLog mbr index registry state).events := by
  rw [detectOrLog_eq]
  exact (balanced_detect scanner mbr index registry state).append (.logs 3 _)

theorem balanced_visit (scanner : Scanner σ) (registry : Registry) (index : Nat) (state : σ) :
    Event.Balanced 3 (scanner.visit registry index state).events := by
  cases hat : registry.volumes[index]? with
  | none =>
    rw [visit_of_none hat]
    exact .nil 3
  | some volume =>
    have hread := (balanced_readBootSector scanner volume registry state).mono (Nat.le_add_left 1 2)
    cases hboot : ((scanner.readBootSector volume).run registry state).result with
    | error error =>
      rw [visit_of_unreadable hat hboot]
      exact hread.append (.logs 3 [_])
    | ok mbr =>
      cases hvalid : mbr.validate volume with
      | error error =>
        rw [visit_of_noTable hat hboot hvalid]
        exact hread.append (.logs 3 [_])
      | ok _ =>
        rw [visit_of_table hat hboot hvalid]
        exact (hread.append (balanced_detectOrLog scanner mbr index _ _)).append (.logs 3 _)

theorem balanced_visitAll (scanner : Scanner σ) (indices : List Nat) (registry : Registry)
    (state : σ) : Event.Balanced 3 (scanner.visitAll indices registry state).events := by
  induction indices generalizing registry state with
  | nil => exact .nil 3
  | cons index rest ih => exact (balanced_visit scanner registry index state).append (ih _ _)

theorem balanced_discover (scanner : Scanner σ) (registry : Registry) (state : σ) :
    Event.Balanced 3 (scanner.discover registry state).events := by
  unfold discover
  split
  · exact .logs 3 [_]
  · exact (balanced_visitAll scanner _ registry state).append (.logs 3 [_])

end Scanner

/-- Every request keeps the order of its blocks, and has at most three of them out at a time. -/
theorem Request.balanced_serve {σ : Type} (env : Environment σ) (registry : Registry) (state : σ)
    (request : Request) : Event.Balanced 3 (request.serve env registry state).events := by
  cases request with
  | seed volume =>
    dsimp only [serve]
    cases registry.seed volume <;> exact .nil 3
  | discover options => exact Scanner.balanced_discover _ registry state
  | detect options mbr parent =>
    have hdetect := Scanner.balanced_detect ⟨env, options⟩ mbr parent registry state
    dsimp only [serve]
    cases ((Scanner.detect ⟨env, options⟩ mbr parent).run registry state).result <;> exact hdetect
  | detectOrLog options mbr parent => exact Scanner.balanced_detectOrLog _ mbr parent registry state
  | find index =>
    dsimp only [serve]
    cases registry.volume index <;> exact .nil 3
  | peek index => exact .nil 3

end VolumeScan
