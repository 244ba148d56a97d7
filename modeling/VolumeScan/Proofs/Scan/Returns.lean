/-
VolumeScan.Proofs.Scan.Returns — when an action gives a result, and which.

`Action.Returns` is the graph of an action: its result, and the registry and the state behind it.
`Action.Yields` leaves the state out, for an action behind which the environment is not asked for
anything. There is one equivalence for each kind of step that a sequence can start with, so that
what a sequence yields is computed by rewriting. What is said about the environment is said with two
relations: it grants a block (`Environment.Grants`), and it reads bytes into a block
(`Environment.Reads`).
-/
import VolumeScan.Proofs.Scan.Transaction

namespace VolumeScan

namespace Environment

variable {σ : Type}

/-- A request for `size` bytes is granted in full, and the block is filled with zeros. -/
def Grants (env : Environment σ) (state : σ) (size : Nat) (grant : Grant) (state' : σ) : Prop :=
  ∃ granted, env.scratch.allocate state size = (some grant, granted) ∧ size ≤ grant.size
    ∧ env.scratch.clear granted grant = state'

/-- A read of `len` bytes at `pos` of `volume` succeeds with `bytes`, which go into `buffer`. -/
def Reads (env : Environment σ) (state : σ) (volume : Volume) (pos len : Nat) (buffer : Grant)
    (bytes : Bytes) (state' : σ) : Prop :=
  ∃ (block : Block len) (answered : σ), env.read state volume pos len = (.ok block, answered)
    ∧ block.val = bytes ∧ env.scratch.store answered buffer 0 bytes = state'

theorem Grants.size_le {env : Environment σ} {state state' : σ} {size : Nat} {grant : Grant}
    (h : env.Grants state size grant state') : size ≤ grant.size := by
  obtain ⟨_, -, hsize, -⟩ := h
  exact hsize

theorem Reads.length_eq {env : Environment σ} {state state' : σ} {volume : Volume} {pos len : Nat}
    {buffer : Grant} {bytes : Bytes} (h : env.Reads state volume pos len buffer bytes state') :
    bytes.length = len := by
  obtain ⟨block, _, -, rfl, -⟩ := h
  exact block.property

/-- A block that is granted in full is what a request for a buffer ends with. -/
theorem grants_iff {env : Environment σ} {state state' : σ} {size : Nat} {grant : Grant} :
    env.Grants state size grant state' ↔
      env.scratch.acquire state size = (.whole grant, state') := by
  unfold Grants Allocator.acquire
  rcases env.scratch.allocate state size with ⟨answer, granted⟩
  cases answer with
  | none => simp
  | some block =>
    by_cases hshort : block.size < size
    · simp only [hshort, if_true, Prod.mk.injEq, reduceCtorEq, false_and, iff_false]
      intro h
      obtain ⟨_, ⟨hblock, -⟩, hsize, -⟩ := h
      cases hblock
      omega
    · simp only [hshort, if_false, Prod.mk.injEq, Option.some.injEq, Acquisition.whole.injEq]
      constructor
      · intro h
        obtain ⟨_, ⟨rfl, rfl⟩, -, rfl⟩ := h
        exact ⟨rfl, rfl⟩
      · intro h
        obtain ⟨rfl, rfl⟩ := h
        exact ⟨granted, ⟨rfl, rfl⟩, by omega, rfl⟩

/-- A request is granted in one way. -/
theorem Grants.unique {env : Environment σ} {state first second : σ} {size : Nat}
    {grant grant' : Grant} (h : env.Grants state size grant first)
    (h' : env.Grants state size grant' second) : grant = grant' ∧ first = second := by
  rw [grants_iff] at h h'
  rw [h] at h'
  cases h'
  exact ⟨rfl, rfl⟩

/-- A read succeeds in one way. -/
theorem Reads.unique {env : Environment σ} {state first second : σ} {volume : Volume}
    {pos len : Nat} {buffer : Grant} {bytes bytes' : Bytes}
    (h : env.Reads state volume pos len buffer bytes first)
    (h' : env.Reads state volume pos len buffer bytes' second) :
    bytes = bytes' ∧ first = second := by
  obtain ⟨block, answered, hread, rfl, rfl⟩ := h
  obtain ⟨block', answered', hread', rfl, rfl⟩ := h'
  rw [hread] at hread'
  cases hread'
  exact ⟨rfl, rfl⟩

end Environment

namespace Action

variable {σ α β : Type}

/-- The action succeeds with `a` and leaves this registry and this state behind. -/
def Returns (action : Action σ α) (registry : Registry) (state : σ) (a : α) (after : Registry)
    (state' : σ) : Prop :=
  (action.run registry state).result = .ok a ∧ (action.run registry state).registry = after
    ∧ (action.run registry state).state = state'

/-- The action succeeds with `a` and leaves this registry behind. -/
def Yields (action : Action σ α) (registry : Registry) (state : σ) (a : α) (after : Registry) :
    Prop :=
  (action.run registry state).result = .ok a ∧ (action.run registry state).registry = after

variable {registry after : Registry} {state state' : σ}

@[simp] theorem yields_pure_iff {a b : α} :
    (Pure.pure a : Action σ α).Yields registry state b after ↔ a = b ∧ registry = after := by
  simp [Yields]

/-! ## The first step of a sequence -/

variable {action : Action σ α} {next : α → Action σ β} {b : β}

theorem yields_bind_of_ok {a : α} (h : (action.run registry state).result = .ok a) :
    (action >>= next).Yields registry state b after ↔
      (next a).Yields (action.run registry state).registry (action.run registry state).state b
        after := by
  simp only [Yields, run_bind_of_ok h]

theorem not_yields_bind_of_error {error : Error}
    (h : (action.run registry state).result = .error error) :
    ¬(action >>= next).Yields registry state b after := by
  simp [Yields, run_bind_of_error h]

/-- A sequence yields what its last step yields, where the others led to. -/
theorem yields_bind_iff :
    (action >>= next).Yields registry state b after ↔
      ∃ a middle state', action.Returns registry state a middle state'
        ∧ (next a).Yields middle state' b after := by
  constructor
  · intro h
    cases hresult : (action.run registry state).result with
    | ok a => exact ⟨a, _, _, ⟨hresult, rfl, rfl⟩, (yields_bind_of_ok hresult).mp h⟩
    | error error => exact absurd h (not_yields_bind_of_error hresult)
  · intro h
    obtain ⟨a, _, _, ⟨hresult, rfl, rfl⟩, hnext⟩ := h
    exact (yields_bind_of_ok hresult).mpr hnext

/-- A computation that fails ends the sequence; one that succeeds hands its value on. -/
@[simp] theorem yields_lift_bind_iff {x : Except Error α} :
    (liftM x >>= next).Yields registry state b after ↔
      ∃ a, x = .ok a ∧ (next a).Yields registry state b after := by
  cases x with
  | ok a =>
    have hresult : ((liftM (.ok a : Except Error α) : Action σ α).run registry state).result
        = .ok a := rfl
    rw [yields_bind_of_ok hresult]
    simp
  | error error =>
    have hresult : ((liftM (.error error : Except Error α) : Action σ α).run registry state).result
        = .error error := rfl
    simp [not_yields_bind_of_error hresult]

@[simp] theorem yields_log_bind_iff {records : List Record} {next : Unit → Action σ β} :
    (Action.log records >>= next).Yields registry state b after ↔
      (next ()).Yields registry state b after := yields_bind_of_ok rfl

@[simp] theorem yields_current_bind_iff {next : Registry → Action σ β} :
    (Action.current >>= next).Yields registry state b after ↔
      (next registry).Yields registry state b after := yields_bind_of_ok rfl

@[simp] theorem yields_classify_bind_iff {index : Nat} {kind : VolumeKind}
    {next : Unit → Action σ β} :
    (Action.classify index kind >>= next).Yields registry state b after ↔
      ∃ classified, registry.classify index kind = .ok classified
        ∧ (next ()).Yields classified state b after := by
  cases hclassify : registry.classify index kind with
  | ok classified =>
    have hrun : (Action.classify index kind).run registry state = _ :=
      run_classify_of_ok hclassify
    rw [yields_bind_of_ok (congrArg Pass.result hrun), hrun]
    simp
  | error error =>
    have hrun : (Action.classify index kind).run registry state = _ :=
      run_classify_of_error hclassify
    simp [not_yields_bind_of_error (congrArg Pass.result hrun)]

/-- The whole buffer is handed on, with zeros behind what was read. -/
@[simp] theorem yields_fill_bind_iff {env : Environment σ} {buffer : Grant} {volume : Volume}
    {pos len : Nat} {next : Bytes → Action σ β} :
    (Action.fill env buffer volume pos len >>= next).Yields registry state b after ↔
      len ≤ buffer.size ∧ ∃ bytes state', env.Reads state volume pos len buffer bytes state'
        ∧ (next (bytes ++ List.replicate (buffer.size - len) 0)).Yields registry state' b
          after := by
  rcases Nat.lt_or_ge buffer.size len with hshort | hlen
  · simp [not_yields_bind_of_error (congrArg Pass.result (run_fill_of_short hshort)),
      Nat.not_le.mpr hshort]
  rcases hread : env.read state volume pos len with ⟨answer, answered⟩
  cases answer with
  | error error =>
    simp [not_yields_bind_of_error (congrArg Pass.result (run_fill_of_error hlen hread)),
      Environment.Reads, hread]
  | ok block =>
    have hrun : (Action.fill env buffer volume pos len).run registry state = _ :=
      run_fill_of_ok hlen hread
    rw [yields_bind_of_ok (congrArg Pass.result hrun), hrun]
    constructor
    · intro h
      exact ⟨hlen, block.val, _, ⟨block, answered, hread, rfl, rfl⟩, h⟩
    · intro h
      obtain ⟨-, _, _, ⟨_, _, hread', rfl, rfl⟩, h⟩ := h
      rw [hread] at hread'
      cases hread'
      exact h

/-! ## Buffers -/

/-- A body yields what it yields with a block that was granted in full. -/
@[simp] theorem yields_withBuffer_iff {env : Environment σ} {size : Nat} {body : Grant → Action σ α}
    {a : α} :
    (Action.withBuffer env size body).Yields registry state a after ↔
      ∃ grant state', env.Grants state size grant state'
        ∧ (body grant).Yields registry state' a after := by
  unfold Yields
  simp only [Environment.grants_iff]
  rcases hacquire : env.scratch.acquire state size with ⟨acquisition, acquired⟩
  cases acquisition with
  | refused => simp [run_withBuffer_of_refused hacquire]
  | short grant => simp [run_withBuffer_of_short hacquire]
  | whole grant => simp [run_withBuffer_of_whole hacquire, and_assoc]

end Action

namespace Scanner

/-- The loop that registers partitions hands on what it comes to, if none of its items can fail. -/
theorem yields_enlistAll_bind_iff {σ α β : Type} {scheme : Scheme}
    {describe : α → Except Error Partition} {items : List α} {partitions : List Partition}
    (h : items.map describe = partitions.map .ok) {registry after : Registry} {state : σ}
    {next : Bool → Action σ β} {b : β} :
    (enlistAll scheme describe items >>= next).Yields registry state b after ↔
      (next (decide (registry.room < partitions.length))).Yields
        (registry.extend (partitions.map (·.volume))) state b after := by
  have hrun : (enlistAll scheme describe items : Action σ Bool).run registry state = _ :=
    enlistAll_apply h registry state
  rw [Action.yields_bind_of_ok (congrArg Pass.result hrun), hrun]

end Scanner

end VolumeScan
