/-
VolumeScan.Proofs.Scan.Action — the equations of actions.

One equation for each way in which a sequence, a request for a buffer or a read can go. Everything
else about actions is derived from these, so no other module unfolds them.
-/
import VolumeScan.Scan.Action

namespace VolumeScan

namespace Event

@[simp] theorem records_append (events more : List Event) :
    records (events ++ more) = records events ++ records more := List.filterMap_append ..

/-- Logging some records logs these records. -/
@[simp] theorem records_map_log (entries : List Record) :
    records (entries.map .log) = entries := by
  induction entries with
  | nil => rfl
  | cons entry rest ih => exact congrArg (entry :: ·) ih

end Event

/-- A block that is given back at once was smaller than the request. -/
theorem Allocator.size_lt_of_short {σ : Type} {allocator : Allocator σ} {state state' : σ}
    {size : Nat} {grant : Grant} (h : allocator.acquire state size = (.short grant, state')) :
    grant.size < size := by
  unfold acquire at h
  rcases hanswer : allocator.allocate state size with ⟨answer, granted⟩
  rw [hanswer] at h
  cases answer with
  | none => cases h
  | some block =>
    by_cases hshort : block.size < size
    · simp only [hshort, if_true] at h
      cases h
      exact hshort
    · simp only [hshort, if_false] at h
      cases h

namespace Action

variable {σ α β : Type}

@[simp] theorem run_pure (a : α) (registry : Registry) (state : σ) :
    (Pure.pure a : Action σ α).run registry state = ⟨.ok a, registry, state, []⟩ := rfl

@[simp] theorem run_lift (x : Except Error α) (registry : Registry) (state : σ) :
    (liftM x : Action σ α).run registry state = ⟨x, registry, state, []⟩ := rfl

@[simp] theorem run_log (records : List Record) (registry : Registry) (state : σ) :
    (Action.log records).run registry state
      = ⟨.ok (), registry, state, records.map Event.log⟩ := rfl

/-! ## Sequences -/

theorem run_bind (action : Action σ α) (next : α → Action σ β) (registry : Registry) (state : σ) :
    (action >>= next).run registry state =
      match action.run registry state with
      | ⟨.ok a, after, state', events⟩ =>
        let pass := (next a).run after state'
        { pass with events := events ++ pass.events }
      | ⟨.error error, after, state', events⟩ => ⟨.error error, after, state', events⟩ := rfl

variable {action : Action σ α} {registry : Registry} {state : σ}

/-- A sequence goes on where its first step succeeded. -/
theorem run_bind_of_ok {a : α} (h : (action.run registry state).result = .ok a)
    (next : α → Action σ β) :
    (action >>= next).run registry state =
      { (next a).run (action.run registry state).registry (action.run registry state).state with
        events := (action.run registry state).events
          ++ ((next a).run (action.run registry state).registry
            (action.run registry state).state).events } := by
  rcases hrun : action.run registry state with ⟨result, after, state', events⟩
  rw [hrun] at h
  cases h
  rw [run_bind, hrun]

/-- A sequence ends where its first step failed. -/
theorem run_bind_of_error {error : Error} (h : (action.run registry state).result = .error error)
    (next : α → Action σ β) :
    (action >>= next).run registry state =
      ⟨.error error, (action.run registry state).registry, (action.run registry state).state,
        (action.run registry state).events⟩ := by
  rcases hrun : action.run registry state with ⟨result, after, state', events⟩
  rw [hrun] at h
  cases h
  rw [run_bind, hrun]

/-- A check that passes may be left out. -/
theorem lift_ok_bind (a : α) (next : α → Action σ β) :
    (liftM (.ok a : Except Error α) : Action σ α) >>= next = next a := rfl

/-- A check that fails is all that is done. -/
theorem lift_error_bind (error : Error) (next : α → Action σ β) :
    (liftM (.error error : Except Error α) : Action σ α) >>= next
      = liftM (.error error : Except Error β) := rfl

/-! ## The registry -/

theorem run_current_bind (next : Registry → Action σ β) (registry : Registry) (state : σ) :
    (Action.current >>= next).run registry state = (next registry).run registry state := rfl

theorem run_append_of_some {volume : Volume} {grown : Registry}
    (h : registry.append volume = some grown) :
    (Action.append volume).run registry state = ⟨.ok true, grown, state, []⟩ := by
  simp only [Action.append, h]

theorem run_append_of_none {volume : Volume} (h : registry.append volume = none) :
    (Action.append volume).run registry state = ⟨.ok false, registry, state, []⟩ := by
  simp only [Action.append, h]

theorem run_classify_of_ok {index : Nat} {kind : VolumeKind} {classified : Registry}
    (h : registry.classify index kind = .ok classified) :
    (Action.classify index kind).run registry state = ⟨.ok (), classified, state, []⟩ := by
  simp only [Action.classify, h]

theorem run_classify_of_error {index : Nat} {kind : VolumeKind} {error : Error}
    (h : registry.classify index kind = .error error) :
    (Action.classify index kind).run registry state = ⟨.error error, registry, state, []⟩ := by
  simp only [Action.classify, h]

/-! ## Buffers and reads -/

section

variable {env : Environment σ} {size : Nat} {state' : σ} {grant : Grant}

theorem run_withBuffer_of_refused (h : env.scratch.acquire state size = (.refused, state'))
    (body : Grant → Action σ α) :
    (withBuffer env size body).run registry state
      = ⟨.error (.outOfScratch size), registry, state', [.allocate size none]⟩ := by
  simp only [withBuffer, h]

theorem run_withBuffer_of_short (h : env.scratch.acquire state size = (.short grant, state'))
    (body : Grant → Action σ α) :
    (withBuffer env size body).run registry state
      = ⟨.error (.outOfScratch size), registry, state',
          [.allocate size (some grant), .release grant]⟩ := by
  simp only [withBuffer, h]

/-- What is logged if a block is not accepted back. -/
def complaint (grant : Grant) (accepted : Bool) : List Event :=
  if accepted then [] else [.log (.releaseRefused grant.size)]

/-- A body runs between the grant of its block and the release of that block. -/
theorem run_withBuffer_of_whole (h : env.scratch.acquire state size = (.whole grant, state'))
    (body : Grant → Action σ α) :
    (withBuffer env size body).run registry state =
      let pass := (body grant).run registry state'
      ⟨pass.result, pass.registry, (env.scratch.release pass.state grant).2,
        .allocate size (some grant) :: pass.events
          ++ (.release grant :: complaint grant (env.scratch.release pass.state grant).1)⟩ := by
  simp only [withBuffer, h]
  rfl

variable {volume : Volume} {pos len : Nat}

theorem run_fill_of_short (h : grant.size < len) :
    (fill env grant volume pos len).run registry state = ⟨.error .fault, registry, state, []⟩ :=
  if_pos h

theorem run_fill_of_error (hlen : len ≤ grant.size) {error : Error}
    (h : env.read state volume pos len = (.error error, state')) :
    (fill env grant volume pos len).run registry state
      = ⟨.error error, registry, state', [.read volume pos len none]⟩ := by
  refine (if_neg (Nat.not_lt.mpr hlen)).trans ?_
  rw [h]

theorem run_fill_of_ok (hlen : len ≤ grant.size) {block : Block len}
    (h : env.read state volume pos len = (.ok block, state')) :
    (fill env grant volume pos len).run registry state
      = ⟨.ok (block.val ++ List.replicate (grant.size - len) 0), registry,
          env.scratch.store state' grant 0 block.val, [.read volume pos len (some block.val)]⟩ := by
  refine (if_neg (Nat.not_lt.mpr hlen)).trans ?_
  rw [h]

end

end Action

end VolumeScan
