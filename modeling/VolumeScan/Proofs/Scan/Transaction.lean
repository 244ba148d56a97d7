/-
VolumeScan.Proofs.Scan.Transaction — actions that change the registry as a whole or not at all.

`Action.Transacts` is the contract of an action that may fail: whatever the environment does, it
either ends as its postcondition says or leaves the registry as it was. `Action.Succeeds` is the
contract of an action that cannot fail. A step that only reads may be followed by a transaction
(`Transacts.bind`); behind a step that has changed the registry only steps that succeed may follow
(`Transacts.bind_succeeds`), because nothing takes the change back.

So the loop that registers partitions keeps the contract only if none of its items can fail, and
`Scanner.enlistAll_apply` says what it does then.
-/
import VolumeScan.Proofs.Registry
import VolumeScan.Proofs.Scan.Action
import VolumeScan.Scan.Detection

namespace VolumeScan

namespace Action

variable {σ α β : Type}

/-! ## The two contracts -/

/-- From `registry`, whatever the environment does, the action ends with a result and a registry as
`post` says, or it fails and leaves the registry as it was. -/
def Transacts (action : Action σ α) (registry : Registry) (post : α → Registry → Prop) : Prop :=
  ∀ state,
    (∃ error, (action.run registry state).result = .error error
        ∧ (action.run registry state).registry = registry)
      ∨ ∃ a, (action.run registry state).result = .ok a
        ∧ post a (action.run registry state).registry

/-- From `registry`, whatever the environment does, the action ends with a result and a registry as
`post` says. -/
def Succeeds (action : Action σ α) (registry : Registry) (post : α → Registry → Prop) : Prop :=
  ∀ state, ∃ a, (action.run registry state).result = .ok a
    ∧ post a (action.run registry state).registry

variable {registry : Registry} {post : α → Registry → Prop}

namespace Succeeds

theorem pure {a : α} (h : post a registry) :
    (Pure.pure a : Action σ α).Succeeds registry post := fun _ => ⟨a, rfl, h⟩

theorem lift {x : Except Error α} {a : α} (hx : x = .ok a) (h : post a registry) :
    (liftM x : Action σ α).Succeeds registry post := fun _ => ⟨a, hx, h⟩

theorem log {records : List Record} {post : Unit → Registry → Prop} (h : post () registry) :
    (Action.log records : Action σ Unit).Succeeds registry post := fun _ => ⟨(), rfl, h⟩

theorem current {post : Registry → Registry → Prop} (h : post registry registry) :
    (Action.current : Action σ Registry).Succeeds registry post := fun _ => ⟨registry, rfl, h⟩

/-- Classifying succeeds where the registry allows it. -/
theorem classify {index : Nat} {kind : VolumeKind} {classified : Registry}
    {post : Unit → Registry → Prop} (hclassify : registry.classify index kind = .ok classified)
    (h : post () classified) :
    (Action.classify index kind : Action σ Unit).Succeeds registry post := by
  intro state
  rw [run_classify_of_ok hclassify]
  exact ⟨(), rfl, h⟩

theorem bind {action : Action σ β} {next : β → Action σ α}
    (h : action.Succeeds registry fun b after => (next b).Succeeds after post) :
    (action >>= next).Succeeds registry post := by
  intro state
  obtain ⟨b, hb, hnext⟩ := h state
  rw [run_bind_of_ok hb]
  exact hnext _

/-- An action that cannot fail is a transaction. -/
theorem transacts {action : Action σ α} (h : action.Succeeds registry post) :
    action.Transacts registry post := fun state => .inr (h state)

end Succeeds

namespace Transacts

/-- A check does not touch the registry. -/
theorem lift {x : Except Error α} (h : ∀ a, x = .ok a → post a registry) :
    (liftM x : Action σ α).Transacts registry post := by
  intro state
  cases hx : x with
  | ok a => exact .inr ⟨a, rfl, h a hx⟩
  | error error => exact .inl ⟨error, rfl, rfl⟩

/-- A read does not touch the registry, and gives a buffer that starts with the bytes read. -/
theorem fill {env : Environment σ} {buffer : Grant} {volume : Volume} {pos len : Nat}
    {post : Bytes → Registry → Prop}
    (h : ∀ block : Block len, post (block.val ++ List.replicate (buffer.size - len) 0) registry) :
    (Action.fill env buffer volume pos len).Transacts registry post := by
  intro state
  rcases Nat.lt_or_ge buffer.size len with hshort | hlen
  · rw [run_fill_of_short hshort]
    exact .inl ⟨_, rfl, rfl⟩
  · rcases hread : env.read state volume pos len with ⟨result, state'⟩
    cases result with
    | ok block =>
      rw [run_fill_of_ok hlen hread]
      exact .inr ⟨_, rfl, h block⟩
    | error error =>
      rw [run_fill_of_error hlen hread]
      exact .inl ⟨error, rfl, rfl⟩

/-- A buffer makes no difference to the registry, whether it is granted or not. -/
theorem withBuffer {env : Environment σ} {size : Nat} {body : Grant → Action σ α}
    (h : ∀ grant, (body grant).Transacts registry post) :
    (Action.withBuffer env size body).Transacts registry post := by
  intro state
  rcases hacquire : env.scratch.acquire state size with ⟨acquisition, state'⟩
  cases acquisition with
  | refused =>
    rw [run_withBuffer_of_refused hacquire]
    exact .inl ⟨_, rfl, rfl⟩
  | short grant =>
    rw [run_withBuffer_of_short hacquire]
    exact .inl ⟨_, rfl, rfl⟩
  | whole grant =>
    rw [run_withBuffer_of_whole hacquire]
    exact h grant state'

/-- A step that leaves the registry alone may come before a transaction. -/
theorem bind {action : Action σ β} {next : β → Action σ α}
    (h : action.Transacts registry fun b after =>
      after = registry ∧ (next b).Transacts registry post) :
    (action >>= next).Transacts registry post := by
  intro state
  rcases h state with ⟨error, herror, hkept⟩ | ⟨b, hb, hkept, hnext⟩
  · rw [run_bind_of_error herror]
    exact .inl ⟨error, rfl, hkept⟩
  · rw [run_bind_of_ok hb, hkept]
    exact hnext _

/-- What comes behind a change to the registry must not fail. -/
theorem bind_succeeds {action : Action σ β} {next : β → Action σ α}
    {middle : β → Registry → Prop} (h : action.Transacts registry middle)
    (hnext : ∀ b after, middle b after → (next b).Succeeds after post) :
    (action >>= next).Transacts registry post := by
  intro state
  rcases h state with ⟨error, herror, hkept⟩ | ⟨b, hb, hmiddle⟩
  · rw [run_bind_of_error herror]
    exact .inl ⟨error, rfl, hkept⟩
  · rw [run_bind_of_ok hb]
    exact .inr (hnext b _ hmiddle _)

/-- A step that leaves the registry alone when it succeeds leaves it alone. -/
theorem registry_eq {action : Action σ α}
    (h : action.Transacts registry fun _ after => after = registry) (state : σ) :
    (action.run registry state).registry = registry := by
  rcases h state with ⟨_, -, hkept⟩ | ⟨_, -, hkept⟩ <;> exact hkept

end Transacts

end Action

namespace Scanner

variable {σ α : Type}

/-- The records about partitions that were registered in a registry with so much room. -/
def enlistRecords (registry : Registry) (scheme : Scheme) (partitions : List Partition) :
    List Record :=
  (partitions.take registry.room).map (·.record)
    ++ if registry.room < partitions.length then [.registryFull registry.capacity scheme] else []

section

variable {scheme : Scheme} {describe : α → Except Error Partition} {registry : Registry}

theorem enlistRecords_of_full (h : registry.room = 0) (partition : Partition)
    (rest : List Partition) :
    enlistRecords registry scheme (partition :: rest)
      = [.registryFull registry.capacity scheme] := by
  simp [enlistRecords, h]

theorem enlistRecords_of_append {partition : Partition} {grown : Registry}
    (h : registry.append partition.volume = some grown) (rest : List Partition) :
    enlistRecords registry scheme (partition :: rest)
      = partition.record :: enlistRecords grown scheme rest := by
  have hroom := Registry.room_of_append h
  obtain ⟨-, rfl⟩ := Registry.append_eq_some_iff.mp h
  simp [enlistRecords, hroom]

/-- The loop goes on where there was room. -/
theorem enlistAll_cons_of_some {item : α} {partition : Partition} {grown : Registry}
    (hitem : describe item = .ok partition) (h : registry.append partition.volume = some grown)
    (rest : List α) (state : σ) :
    (enlistAll scheme describe (item :: rest)).run registry state =
      let pass := (enlistAll scheme describe rest).run grown state
      { pass with events := .log partition.record :: pass.events } := by
  have hlift : ((liftM (describe item) : Action σ Partition).run registry state).result
      = .ok partition := hitem
  rw [enlistAll, Action.run_bind_of_ok hlift, Action.run_lift, Action.run_bind,
    Action.run_append_of_some h]
  rfl

/-- The loop ends where there is no room. -/
theorem enlistAll_cons_of_none {item : α} {partition : Partition}
    (hitem : describe item = .ok partition) (h : registry.append partition.volume = none)
    (rest : List α) (state : σ) :
    (enlistAll scheme describe (item :: rest)).run registry state
      = ⟨.ok true, registry, state, [.log (.registryFull registry.capacity scheme)]⟩ := by
  have hlift : ((liftM (describe item) : Action σ Partition).run registry state).result
      = .ok partition := hitem
  rw [enlistAll, Action.run_bind_of_ok hlift, Action.run_lift, Action.run_bind,
    Action.run_append_of_none h]
  rfl

/-- **What the loop does** if none of its items can fail: it registers as many partitions as there
is room for, in order, and says whether some were left out. -/
theorem enlistAll_apply {items : List α} {partitions : List Partition}
    (h : items.map describe = partitions.map .ok) (registry : Registry) (state : σ) :
    (enlistAll scheme describe items).run registry state
      = ⟨.ok (decide (registry.room < partitions.length)),
          registry.extend (partitions.map (·.volume)), state,
          (enlistRecords registry scheme partitions).map .log⟩ := by
  induction items generalizing partitions registry with
  | nil =>
    have hnil : partitions = [] := List.map_eq_nil_iff.mp h.symm
    subst hnil
    simp [enlistAll, enlistRecords]
  | cons item items ih =>
    cases partitions with
    | nil => simp at h
    | cons partition partitions =>
      simp only [List.map_cons, List.cons.injEq] at h
      obtain ⟨hitem, hitems⟩ := h
      cases happend : registry.append partition.volume with
      | none =>
        have hfull := Registry.append_eq_none_iff.mp happend
        rw [enlistAll_cons_of_none hitem happend, Registry.extend_of_full hfull,
          enlistRecords_of_full hfull, hfull]
        rfl
      | some grown =>
        have hroom := Registry.room_of_append happend
        rw [enlistAll_cons_of_some hitem happend, ih hitems, List.map_cons,
          Registry.extend_of_append happend, enlistRecords_of_append happend, hroom,
          List.length_cons]
        simp only [List.map_cons, Nat.add_lt_add_iff_right]

/-- So the loop succeeds if none of its items can fail. -/
theorem enlistAll_succeeds {items : List α} {partitions : List Partition}
    (h : items.map describe = partitions.map .ok) {post : Bool → Registry → Prop}
    (hpost : post (decide (registry.room < partitions.length))
      (registry.extend (partitions.map (·.volume)))) :
    (enlistAll scheme describe items : Action σ Bool).Succeeds registry post := by
  intro state
  rw [enlistAll_apply h]
  exact ⟨_, rfl, hpost⟩

end

end Scanner

end VolumeScan
