/-
VolumeScan.Proofs.Registry — what appending and classifying come to.

Appending volumes one after another until there is no room adds as many of them as there is room
for: `Registry.extend` says this of the whole list, and `Registry.extend_of_append` and
`Registry.extend_of_full` are the two steps. Classifying sets one field of one volume that is there
already (`Registry.classify_eq_ok_iff`), so it commutes with what is appended behind it.
-/
import VolumeScan.Registry

namespace VolumeScan

namespace Registry

/-! ## Appending -/

/-- The registry with as many of the volumes behind its own as there is room for. -/
def extend (registry : Registry) (volumes : List Volume) : Registry :=
  { registry with volumes := registry.volumes ++ volumes.take registry.room }

@[simp] theorem volumes_extend (registry : Registry) (volumes : List Volume) :
    (registry.extend volumes).volumes = registry.volumes ++ volumes.take registry.room := rfl

@[simp] theorem extend_nil (registry : Registry) : registry.extend [] = registry := by
  simp [extend]

/-- There is room for a volume exactly if it can be appended. -/
theorem append_eq_none_iff {registry : Registry} {volume : Volume} :
    registry.append volume = none ↔ registry.room = 0 := by
  unfold append isFull
  by_cases hroom : registry.room = 0 <;> simp [hroom]

/-- Appending takes one place. -/
theorem append_eq_some_iff {registry grown : Registry} {volume : Volume} :
    registry.append volume = some grown ↔
      registry.room ≠ 0 ∧ grown = { registry with volumes := registry.volumes ++ [volume] } := by
  unfold append isFull
  by_cases hroom : registry.room = 0
  · simp [hroom]
  · simp [hroom, eq_comm]

/-- The room that is left by an appended volume. -/
theorem room_of_append {registry grown : Registry} {volume : Volume}
    (h : registry.append volume = some grown) : registry.room = grown.room + 1 := by
  obtain ⟨hroom, rfl⟩ := append_eq_some_iff.mp h
  simp only [room, size, List.length_append, List.length_singleton] at hroom ⊢
  omega

/-- Appending a volume and then further ones is appending them all. -/
theorem extend_of_append {registry grown : Registry} {volume : Volume}
    (h : registry.append volume = some grown) (rest : List Volume) :
    registry.extend (volume :: rest) = grown.extend rest := by
  have hroom := room_of_append h
  obtain ⟨-, rfl⟩ := append_eq_some_iff.mp h
  simp only [extend, hroom, List.take_succ_cons, List.append_assoc, List.singleton_append]

/-- Nothing is added to a registry without room. -/
theorem extend_of_full {registry : Registry} (h : registry.room = 0) (volumes : List Volume) :
    registry.extend volumes = registry := by
  simp [extend, h]

/-- The old volumes keep their places. -/
theorem getElem?_extend {registry : Registry} {volumes : List Volume} {index : Nat}
    (h : index < registry.size) :
    (registry.extend volumes).volumes[index]? = registry.volumes[index]? :=
  List.getElem?_append_left h

/-- What can be seeded: a whole device with sectors of some bytes, as long as there is room. -/
theorem seed_eq_ok_iff {registry grown : Registry} {volume : Volume} {index : Nat} :
    registry.seed volume = .ok (index, grown) ↔
      volume.partition = none ∧ volume.sectorSize ≠ 0 ∧ index = registry.size
        ∧ registry.append volume = some grown := by
  unfold seed
  simp only [bind_eq_ok_iff, require_eq_ok_iff, exists_const]
  cases registry.append volume with
  | none => simp
  | some _ => simp [eq_comm]

/-! ## Looking up and classifying -/

theorem volume_eq_ok_iff {registry : Registry} {index : Nat} {volume : Volume} :
    registry.volume index = .ok volume ↔ registry.volumes[index]? = some volume := by
  unfold Registry.volume get?
  cases registry.volumes[index]? <;> simp

/-- A volume is classified exactly if it is a whole device that has not been classified before. -/
theorem classify_eq_ok_iff {registry classified : Registry} {index : Nat} {kind : VolumeKind} :
    registry.classify index kind = .ok classified ↔
      ∃ volume, registry.volumes[index]? = some volume
        ∧ volume.partition = none ∧ volume.kind = .unknown
        ∧ classified = { registry with
            volumes := registry.volumes.set index { volume with kind := kind } } := by
  unfold classify
  simp only [bind_eq_ok_iff, volume_eq_ok_iff, require_eq_ok_iff, exists_const, pure_eq_ok_iff,
    and_assoc]
  constructor
  · intro h
    obtain ⟨volume, hat, hwhole, hunknown, rfl⟩ := h
    exact ⟨volume, hat, hwhole, hunknown, rfl⟩
  · intro h
    obtain ⟨volume, hat, hwhole, hunknown, rfl⟩ := h
    exact ⟨volume, hat, hwhole, hunknown, rfl⟩

/-- Volumes that were appended do not keep a device from being classified. -/
theorem classify_extend {registry : Registry} {index : Nat} {volume : Volume}
    (hat : registry.volumes[index]? = some volume) (hwhole : volume.partition = none)
    (hunknown : volume.kind = .unknown) (kind : VolumeKind) (volumes : List Volume) :
    (registry.extend volumes).classify index kind = .ok { registry with
      volumes := registry.volumes.set index { volume with kind := kind }
        ++ volumes.take registry.room } := by
  have hindex : index < registry.volumes.length := (List.getElem?_eq_some_iff.mp hat).1
  rw [classify_eq_ok_iff]
  refine ⟨volume, ?_, hwhole, hunknown, ?_⟩
  · rw [getElem?_extend hindex]
    exact hat
  · rw [volumes_extend, List.set_append_left _ _ hindex]
    rfl

/-! ## What is kept -/

/-- Every volume is still in its place, and nothing but its kind may have changed. -/
def Keeps (before after : Registry) : Prop :=
  ∀ (index : Nat) (volume : Volume), before.volumes[index]? = some volume →
    ∃ kind, after.volumes[index]? = some { volume with kind := kind }

theorem Keeps.size_le {before after : Registry} (h : before.Keeps after) :
    before.size ≤ after.size := by
  rcases Nat.eq_zero_or_pos before.size with hempty | hpos
  · omega
  · have hlast : before.size - 1 < before.volumes.length := by
      unfold size at hpos ⊢
      omega
    obtain ⟨kind, hat⟩ := h _ _ (List.getElem?_eq_getElem hlast)
    obtain ⟨hlt, -⟩ := List.getElem?_eq_some_iff.mp hat
    unfold size at hpos hlt ⊢
    omega

/-- Appending volumes keeps the old ones as they are. -/
theorem keeps_append (registry : Registry) (added : List Volume) :
    registry.Keeps { registry with volumes := registry.volumes ++ added } := by
  intro index volume hat
  refine ⟨volume.kind, ?_⟩
  rw [List.getElem?_append_left (List.getElem?_eq_some_iff.mp hat).1]
  exact hat

/-- Classifying a volume and appending others keeps all volumes. -/
theorem keeps_set_append {registry : Registry} {index : Nat} {volume : Volume}
    (h : registry.volumes[index]? = some volume) (kind : VolumeKind) (added : List Volume) :
    registry.Keeps { registry with
      volumes := registry.volumes.set index { volume with kind := kind } ++ added } := by
  intro i old hat
  have hi : i < (registry.volumes.set index { volume with kind := kind }).length := by
    rw [List.length_set]
    exact (List.getElem?_eq_some_iff.mp hat).1
  dsimp only
  rw [List.getElem?_append_left hi]
  by_cases heq : index = i
  · subst heq
    rw [h] at hat
    cases hat
    exact ⟨kind, List.getElem?_set_self (by rwa [List.length_set] at hi)⟩
  · rw [List.getElem?_set_ne heq]
    exact ⟨old.kind, hat⟩

end Registry

end VolumeScan
