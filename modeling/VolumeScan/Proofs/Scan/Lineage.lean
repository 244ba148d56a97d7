/-
VolumeScan.Proofs.Scan.Lineage — where the volumes of a registry come from and what they become.

`Registry.Lineage` is an invariant of a registry and the origins of its volumes: there is room for
them, their sectors have bytes, each partition comes from a classified device in front of it, and
the partitions of a device stand together in the order of their numbers. The last part needs more
than itself: a detection only appends a new block, because a device that has partitions is
classified, and a classified device is not scanned again.

`Registry.Later` is about two registries of a run: every volume is still there and the same
(`Volume.Becomes`), unless it is a device that has been classified in between, and a device that was
classified before has got no further partition. Both hold over every run
(`Request.lineage_of_runs`).
-/
import VolumeScan.Proofs.Scan.Run

namespace VolumeScan

/-! ## The partitions of a table -/

namespace Volume

/-- What a partition has from its device, and what may be known about its contents. -/
structure PartOf (partition container : Volume) : Prop where
  isPartition : partition.isPartition = true
  method_eq : partition.method = container.method
  deviceId_eq : partition.deviceId = container.deviceId
  alignment_eq : partition.alignment = container.alignment
  sectorSize_eq : partition.sectorSize = container.sectorSize
  mediaId_eq : partition.mediaId = container.mediaId
  kind_mem : partition.kind ∈ [.fat, .basicData, .unclassified]

/-- Both are partitions, and the first one has the smaller number. -/
def NumberedBefore (volume later : Volume) : Prop :=
  ∃ number number', volume.partition = some number ∧ later.partition = some number'
    ∧ number < number'

theorem part_partOf (parent : Volume) (index first count : Nat) {kind : VolumeKind}
    (hkind : kind ∈ [.fat, .basicData, .unclassified]) :
    (parent.part index first count kind).PartOf parent := ⟨rfl, rfl, rfl, rfl, rfl, rfl, hkind⟩

/-- Places in a table become numbers of partitions, as long as they fit a word. -/
theorem part_numberedBefore (parent : Volume) {index later : Nat} (hlt : index < later)
    (hlater : later < 2 ^ 32) (first count first' count' : Nat) (kind kind' : VolumeKind) :
    (parent.part index first count kind).NumberedBefore
      (parent.part later first' count' kind') := by
  refine ⟨_, _, rfl, rfl, UInt32.lt_iff_toNat_lt.mpr ?_⟩
  rwa [UInt32.toNat_ofNat', UInt32.toNat_ofNat', Nat.mod_eq_of_lt (Nat.lt_trans hlt hlater),
    Nat.mod_eq_of_lt hlater]

end Volume

theorem VolumeKind.ofTypeGuid_mem (guid : Guid) :
    VolumeKind.ofTypeGuid guid ∈ [VolumeKind.fat, .basicData, .unclassified] := by
  unfold ofTypeGuid
  split
  · simp
  · split <;> simp

/-- A type code in use that does not protect a GPT declares the kind of a partition. -/
theorem VolumeKind.ofTypeCode_mem {code : UInt8} (hused : code ≠ TypeCode.empty)
    (hplain : code ≠ TypeCode.protective) :
    VolumeKind.ofTypeCode code ∈ [VolumeKind.fat, .basicData, .unclassified] := by
  unfold ofTypeCode
  split
  · simp
  · simp [hused, hplain]

/-- Used entries are listed by their places. -/
theorem Gpt.Header.pairwise_usedEntries (header : Gpt.Header) (array : Bytes) :
    (header.usedEntries array).Pairwise fun item later => item.1 < later.1 := by
  unfold usedEntries
  rw [List.pairwise_filterMap]
  refine List.pairwise_lt_range.imp ?_
  intro index later hlt item hitem item' hitem'
  obtain ⟨_, -, rfl⟩ := Option.map_eq_some_iff.mp hitem
  obtain ⟨_, -, rfl⟩ := Option.map_eq_some_iff.mp hitem'
  exact hlt

/-- So are the entries of a legacy table. -/
theorem Mbr.pairwise_partitionEntries (mbr : Mbr) :
    mbr.partitionEntries.Pairwise fun item later => item.1 < later.1 := by
  unfold partitionEntries
  refine List.Pairwise.filter _ ?_
  rw [List.pairwise_map]
  have hplaces : (mbr.entries.toList.zipIdx.map Prod.snd).Pairwise (· < ·) := by
    rw [List.zipIdx_map_snd]
    exact List.pairwise_lt_range'
  exact List.pairwise_map.mp hplaces

namespace Options

variable {options : Options} {mbr : Mbr} {parent : Volume} {scheme : Scheme}
  {slot : Option Gpt.HeaderCopy} {partitions : List Partition}

/-- The partitions of an accepted table are parts of their device. -/
theorem Accepts.partOf (h : options.Accepts mbr parent scheme slot partitions) :
    ∀ partition ∈ partitions, partition.volume.PartOf parent := by
  intro partition hmem
  cases h with
  | gpt =>
    obtain ⟨⟨index, entry⟩, -, rfl⟩ := List.mem_map.mp hmem
    exact Volume.part_partOf _ _ _ _ (VolumeKind.ofTypeGuid_mem _)
  | mbr =>
    obtain ⟨⟨index, entry⟩, hentry, rfl⟩ := List.mem_map.mp hmem
    obtain ⟨-, hused, hplain⟩ := Mbr.mem_partitionEntries_iff.mp hentry
    refine Volume.part_partOf _ _ _ _ (VolumeKind.ofTypeCode_mem ?_ ?_)
    · exact of_decide_eq_false hused
    · exact of_decide_eq_false hplain

/-- The partitions of an accepted table are listed by their numbers. -/
theorem Accepts.pairwise (h : options.Accepts mbr parent scheme slot partitions) :
    (partitions.map (·.volume)).Pairwise Volume.NumberedBefore := by
  rw [List.pairwise_map]
  cases h with
  | @gpt _ _ array header =>
    refine List.pairwise_map.mpr ((header.pairwise_usedEntries array).imp_of_mem ?_)
    intro item later _ hlater hlt
    obtain ⟨hindex, -, -⟩ := Gpt.Header.mem_usedEntries_iff.mp hlater
    exact Volume.part_numberedBefore _ hlt (Nat.lt_trans hindex header.entryCount.toNat_lt) _ _ _ _
      _ _
  | mbr =>
    refine List.pairwise_map.mpr (mbr.pairwise_partitionEntries.imp_of_mem ?_)
    intro item later _ hlater hlt
    have hindex : later.1 < 2 ^ 32 :=
      Nat.lt_trans (Mbr.index_lt_of_mem_partitionEntries hlater) (by decide)
    exact Volume.part_numberedBefore _ hlt hindex _ _ _ _ _ _

end Options

/-! ## What becomes of a volume -/

namespace Volume

/-- A volume at a later time. Nothing changes but the kind of a whole device, and that once. -/
inductive Becomes (volume : Volume) : Volume → Prop where
  | same : volume.Becomes volume
  | classified {kind : VolumeKind} (whole : volume.partition = none)
      (unknown : volume.kind = .unknown) (container : kind = .mbrContainer ∨ kind = .gptContainer) :
      volume.Becomes { volume with kind := kind }

variable {volume later last : Volume}

/-- A volume whose kind is known stays as it is. -/
theorem Becomes.eq_of_known (h : volume.Becomes later) (hknown : volume.kind ≠ .unknown) :
    later = volume := by
  cases h with
  | same => rfl
  | classified _ unknown _ => exact absurd unknown hknown

theorem Becomes.trans (h : volume.Becomes later) (hlater : later.Becomes last) :
    volume.Becomes last := by
  cases h with
  | same => exact hlater
  | classified whole unknown container =>
    have hknown : ∀ {kind : VolumeKind}, kind = .mbrContainer ∨ kind = .gptContainer →
        kind ≠ .unknown := by
      rintro _ (rfl | rfl) <;> decide
    rw [hlater.eq_of_known (hknown container)]
    exact .classified whole unknown container

theorem Becomes.sectorSize_eq (h : volume.Becomes later) :
    later.sectorSize = volume.sectorSize := by
  cases h <;> rfl

/-- A partition stays as it is. -/
theorem Becomes.eq_of_isPartition (h : volume.Becomes later)
    (hpartition : volume.isPartition = true) : later = volume := by
  cases h with
  | same => rfl
  | classified whole _ _ =>
    rw [isPartition, whole] at hpartition
    cases hpartition

end Volume

namespace Registry

/-- Every volume is still in its place, and is what it has become. -/
def Evolves (before after : Registry) : Prop :=
  ∀ (index : Nat) (volume : Volume), before.volumes[index]? = some volume →
    ∃ later, after.volumes[index]? = some later ∧ volume.Becomes later

variable {before after registry : Registry} {origins : List (Option Nat)} {origin : Option Nat}
  {capacity : Nat}

theorem Evolves.refl (registry : Registry) : registry.Evolves registry :=
  fun _ volume hat => ⟨volume, hat, .same⟩

theorem Evolves.trans {last : Registry} (h : before.Evolves after) (hlast : after.Evolves last) :
    before.Evolves last := by
  intro index volume hat
  obtain ⟨later, hlater, hbecomes⟩ := h index volume hat
  obtain ⟨final, hfinal, hbecomes'⟩ := hlast index later hlater
  exact ⟨final, hfinal, hbecomes.trans hbecomes'⟩

/-- Appending a volume leaves the others as they are. -/
theorem evolves_append {volume : Volume} (h : before.append volume = some after) :
    before.Evolves after := by
  obtain ⟨-, rfl⟩ := append_eq_some_iff.mp h
  intro index old hat
  refine ⟨old, ?_, .same⟩
  rw [List.getElem?_append_left (List.getElem?_eq_some_iff.mp hat).1]
  exact hat

/-- A detection classifies a device, and leaves the other volumes as they are. -/
theorem evolves_detects {options : Options} {mbr : Mbr} {index : Nat} {detection : Detection}
    (h : options.Detects mbr index before detection after) : before.Evolves after := by
  obtain ⟨device, scheme, _, hdevice, hwhole, hunknown, -, rfl, -⟩ := h
  intro i old hat
  have hi : i < before.volumes.length := (List.getElem?_eq_some_iff.mp hat).1
  dsimp only
  rw [List.getElem?_append_left (by rwa [List.length_set])]
  by_cases heq : index = i
  · subst heq
    rw [hdevice] at hat
    cases hat
    refine ⟨_, List.getElem?_set_self hi, .classified hwhole hunknown ?_⟩
    cases scheme
    · exact .inl rfl
    · exact .inr rfl
  · rw [List.getElem?_set_ne heq]
    exact ⟨old, hat, .same⟩

theorem Evolves.size_le (h : before.Evolves after) : before.size ≤ after.size := by
  refine Keeps.size_le fun index volume hat => ?_
  obtain ⟨later, hlater, hbecomes⟩ := h index volume hat
  cases hbecomes with
  | same => exact ⟨_, hlater⟩
  | classified => exact ⟨_, hlater⟩

/-! ## Where volumes come from -/

/-- What a volume at this place is if this is its origin: a whole device, or a part of a classified
device in front of it. -/
def Descends (registry : Registry) (index : Nat) (volume : Volume) : Option Nat → Prop
  | none => volume.partition = none
  | some parent => parent < index ∧ ∃ container, registry.volumes[parent]? = some container
      ∧ container.partition = none
      ∧ (container.kind = .mbrContainer ∨ container.kind = .gptContainer)
      ∧ volume.PartOf container

/-- What holds of a registry for `capacity` volumes and the origins of its volumes. -/
structure Lineage (registry : Registry) (capacity : Nat) (origins : List (Option Nat)) : Prop where
  capacity_eq : registry.capacity = capacity
  size_le : registry.size ≤ capacity
  sectorSize_ne_zero : ∀ volume ∈ registry.volumes, volume.sectorSize ≠ 0
  length_eq : origins.length = registry.size
  /-- Every partition comes from a device. -/
  descends : ∀ {index : Nat} {volume : Volume}, registry.volumes[index]? = some volume →
    ∃ origin, origins[index]? = some origin ∧ registry.Descends index volume origin
  /-- The partitions of a device stand together. -/
  contiguous : ∀ {first middle last parent : Nat}, origins[first]? = some (some parent) →
    origins[last]? = some (some parent) → first ≤ middle → middle ≤ last →
    origins[middle]? = some (some parent)
  /-- The partitions of a device stand in the order of their numbers. -/
  numbered : ∀ {index later parent : Nat} {volume volume' : Volume},
    origins[index]? = some (some parent) → origins[later]? = some (some parent) →
    registry.volumes[index]? = some volume → registry.volumes[later]? = some volume' →
    index < later → volume.NumberedBefore volume'

/-- Behind the origins of the volumes that were there stand those of the appended ones. -/
theorem getElem?_append_origins (hlength : origins.length = before.size) {index : Nat}
    {found : Option Nat} :
    (origins ++ before.origins after origin)[index]? = some found ↔
      index < before.size ∧ origins[index]? = some found
        ∨ before.size ≤ index ∧ index < after.size ∧ found = origin := by
  rcases Nat.lt_or_ge index before.size with hold | hnew
  · rw [List.getElem?_append_left (by omega)]
    constructor
    · exact fun h => .inl ⟨hold, h⟩
    · rintro (⟨-, h⟩ | ⟨hle, -⟩)
      · exact h
      · omega
  · rw [List.getElem?_append_right (by omega), Registry.origins, List.getElem?_replicate,
      Option.ite_none_right_eq_some, Option.some.injEq]
    constructor
    · rintro ⟨hlt, rfl⟩
      exact .inr ⟨hnew, by omega, rfl⟩
    · rintro (⟨hlt, -⟩ | ⟨-, hlt, rfl⟩)
      · omega
      · exact ⟨by omega, rfl⟩

/-- A volume in an old place is what the old volume has become. -/
theorem Evolves.exists_becomes (h : before.Evolves after) {index : Nat} {later : Volume}
    (hindex : index < before.size) (hlater : after.volumes[index]? = some later) :
    ∃ volume, before.volumes[index]? = some volume ∧ volume.Becomes later := by
  have hbefore := List.getElem?_eq_getElem hindex
  obtain ⟨found, hfound, hbecomes⟩ := h index _ hbefore
  rw [hlater] at hfound
  cases hfound
  exact ⟨_, hbefore, hbecomes⟩

/-- Parts of a device that has been classified stay its parts. -/
theorem Descends.evolve {index : Nat} {volume later : Volume} (hevolves : before.Evolves after)
    (hbecomes : volume.Becomes later) (h : before.Descends index volume origin) :
    after.Descends index later origin := by
  cases origin with
  | none => cases hbecomes <;> exact h
  | some parent =>
    obtain ⟨hlt, container, hat, hwhole, hkind, hpart⟩ := h
    have hknown : container.kind ≠ .unknown := by
      rcases hkind with hkind | hkind <;> rw [hkind] <;> decide
    obtain ⟨container', hat', hsame⟩ := hevolves parent container hat
    rw [hsame.eq_of_known hknown] at hat'
    rw [hbecomes.eq_of_isPartition hpart.isPartition]
    exact ⟨hlt, container, hat', hwhole, hkind, hpart⟩

namespace Lineage

variable (h : before.Lineage capacity origins)

include h

/-- A device that has not been classified has no partitions. -/
theorem notMem_of_unknown {parent : Nat} {device : Volume}
    (hat : before.volumes[parent]? = some device) (hunknown : device.kind = .unknown) :
    some parent ∉ origins := by
  intro hmem
  obtain ⟨index, horigin⟩ := List.mem_iff_getElem?.mp hmem
  have hindex : index < before.size := by
    rw [← h.length_eq]
    exact (List.getElem?_eq_some_iff.mp horigin).1
  obtain ⟨found, hfound, hdescends⟩ := h.descends (List.getElem?_eq_getElem hindex)
  rw [horigin] at hfound
  cases hfound
  obtain ⟨-, container, hcontainer, -, hkind, -⟩ := hdescends
  rw [hat] at hcontainer
  cases hcontainer
  rw [hunknown] at hkind
  rcases hkind with hkind | hkind <;> cases hkind

/-- The partitions that were there are as they were. -/
theorem partition_same (hevolves : before.Evolves after) {index parent : Nat} {volume : Volume}
    (hindex : index < before.size) (horigin : origins[index]? = some (some parent))
    (hat : after.volumes[index]? = some volume) : before.volumes[index]? = some volume := by
  obtain ⟨old, hold, hbecomes⟩ := hevolves.exists_becomes hindex hat
  obtain ⟨found, hfound, hdescends⟩ := h.descends hold
  rw [horigin] at hfound
  cases hfound
  obtain ⟨-, _, -, -, -, hpart⟩ := hdescends
  rwa [hbecomes.eq_of_isPartition hpart.isPartition]

/-- A block for a device that had none leaves every block in one piece. -/
theorem contiguous_grow (hfresh : ∀ parent, origin = some parent → some parent ∉ origins)
    {first middle last parent : Nat}
    (hfirst : (origins ++ before.origins after origin)[first]? = some (some parent))
    (hlast : (origins ++ before.origins after origin)[last]? = some (some parent))
    (hle : first ≤ middle) (hle' : middle ≤ last) :
    (origins ++ before.origins after origin)[middle]? = some (some parent) := by
  rw [getElem?_append_origins h.length_eq] at hfirst hlast ⊢
  rcases hfirst with ⟨-, hfirst⟩ | ⟨hnew, -, hfound⟩
  · rcases hlast with ⟨hlt, hlast⟩ | ⟨-, -, hfound⟩
    · exact .inl ⟨by omega, h.contiguous hfirst hlast hle hle'⟩
    · exact absurd (List.mem_of_getElem? hfirst) (hfresh parent hfound.symm)
  · rcases hlast with ⟨hlt, -⟩ | ⟨-, hlt, -⟩
    · omega
    · exact .inr ⟨by omega, by omega, hfound⟩

/-- A block in the order of the numbers leaves every block in that order. -/
theorem numbered_grow (hevolves : before.Evolves after)
    (hfresh : ∀ parent, origin = some parent → some parent ∉ origins)
    (hnumbered : ∀ index later volume volume', origin ≠ none → before.size ≤ index →
      index < later → after.volumes[index]? = some volume → after.volumes[later]? = some volume' →
      volume.NumberedBefore volume')
    {index later parent : Nat} {volume volume' : Volume}
    (hindex : (origins ++ before.origins after origin)[index]? = some (some parent))
    (hlater : (origins ++ before.origins after origin)[later]? = some (some parent))
    (hat : after.volumes[index]? = some volume) (hat' : after.volumes[later]? = some volume')
    (hlt : index < later) : volume.NumberedBefore volume' := by
  rw [getElem?_append_origins h.length_eq] at hindex hlater
  rcases hindex with ⟨hold, hindex⟩ | ⟨hnew, -, hfound⟩
  · rcases hlater with ⟨hold', hlater⟩ | ⟨-, -, hfound⟩
    · exact h.numbered hindex hlater (h.partition_same hevolves hold hindex hat)
        (h.partition_same hevolves hold' hlater hat') hlt
    · exact absurd (List.mem_of_getElem? hindex) (hfresh parent hfound.symm)
  · exact hnumbered index later volume volume' (by rw [← hfound]; nofun) hnew hlt hat hat'

/-- A step keeps the invariant if it leaves the old volumes in their places, and if what it appends
is a block of its own: of devices, or of partitions of a device that had none. -/
theorem grow (hevolves : before.Evolves after) (hcapacity : after.capacity = before.capacity)
    (hsize : after.size ≤ capacity)
    (hfresh : ∀ parent, origin = some parent → some parent ∉ origins)
    (hadded : ∀ index volume, before.size ≤ index → after.volumes[index]? = some volume →
      volume.sectorSize ≠ 0 ∧ after.Descends index volume origin)
    (hnumbered : ∀ index later volume volume', origin ≠ none → before.size ≤ index →
      index < later → after.volumes[index]? = some volume → after.volumes[later]? = some volume' →
      volume.NumberedBefore volume') :
    after.Lineage capacity (origins ++ before.origins after origin) where
  capacity_eq := hcapacity.trans h.capacity_eq
  size_le := hsize
  sectorSize_ne_zero := by
    intro volume hmem
    obtain ⟨index, hat⟩ := List.mem_iff_getElem?.mp hmem
    rcases Nat.lt_or_ge index before.size with hold | hnew
    · obtain ⟨old, hbefore, hbecomes⟩ := hevolves.exists_becomes hold hat
      rw [hbecomes.sectorSize_eq]
      exact h.sectorSize_ne_zero old (List.mem_of_getElem? hbefore)
    · exact (hadded index volume hnew hat).1
  length_eq := length_append_origins h.length_eq hevolves.size_le origin
  descends := by
    intro index volume hat
    have hindex : index < after.size := (List.getElem?_eq_some_iff.mp hat).1
    simp only [getElem?_append_origins h.length_eq]
    rcases Nat.lt_or_ge index before.size with hold | hnew
    · obtain ⟨old, hbefore, hbecomes⟩ := hevolves.exists_becomes hold hat
      obtain ⟨found, hfound, hdescends⟩ := h.descends hbefore
      exact ⟨found, .inl ⟨hold, hfound⟩, hdescends.evolve hevolves hbecomes⟩
    · exact ⟨origin, .inr ⟨hnew, hindex, rfl⟩, (hadded index volume hnew hat).2⟩
  contiguous := h.contiguous_grow hfresh
  numbered := h.numbered_grow hevolves hfresh hnumbered

end Lineage

theorem lineage_empty (capacity : Nat) : (Registry.empty capacity).Lineage capacity [] where
  capacity_eq := rfl
  size_le := Nat.zero_le capacity
  sectorSize_ne_zero := fun _ hmem => nomatch hmem
  length_eq := rfl
  descends := fun h => nomatch h
  contiguous := fun h => nomatch h
  numbered := fun h => nomatch h

/-- Seeding keeps the invariant. -/
theorem Lineage.seed (h : before.Lineage capacity origins) {volume : Volume} {index : Nat}
    (hseed : before.seed volume = .ok (index, after)) :
    after.Lineage capacity (origins ++ before.origins after none) := by
  obtain ⟨hwhole, hsize, -, happend⟩ := seed_eq_ok_iff.mp hseed
  have hcapacity := h.capacity_eq
  have hevolves := evolves_append happend
  obtain ⟨hroom, rfl⟩ := append_eq_some_iff.mp happend
  refine h.grow hevolves rfl ?_ (fun _ heq => nomatch heq) ?_ (fun _ _ _ _ hne => absurd rfl hne)
  · change (before.volumes ++ [volume]).length ≤ capacity
    rw [List.length_append, List.length_singleton]
    unfold room size at hroom
    omega
  · intro i added hnew hat
    dsimp only at hat
    rw [List.getElem?_append_right hnew] at hat
    rw [List.mem_singleton.mp (List.mem_of_getElem? hat)]
    exact ⟨hsize, hwhole⟩

/-- A detection keeps the invariant. -/
theorem Lineage.detect (h : before.Lineage capacity origins) {options : Options} {mbr : Mbr}
    {index : Nat} {detection : Detection}
    (hdetects : options.Detects mbr index before detection after) :
    after.Lineage capacity (origins ++ before.origins after (some index)) := by
  have hevolves := evolves_detects hdetects
  obtain ⟨device, scheme, partitions, hat, hwhole, hunknown, haccepts, rfl, -⟩ := hdetects
  have hindex : index < before.size := (List.getElem?_eq_some_iff.mp hat).1
  have hle := h.size_le
  have hcapacity := h.capacity_eq
  let added := (partitions.map (·.volume)).take before.room
  let classified := before.volumes.set index { device with kind := scheme.container }
  have hlength : classified.length = before.size := List.length_set
  have hdevice : (classified ++ added)[index]? = some { device with kind := scheme.container } := by
    rw [List.getElem?_append_left (by omega)]
    exact List.getElem?_set_self hindex
  have hadded : ∀ {i : Nat} {volume : Volume}, before.size ≤ i →
      (classified ++ added)[i]? = some volume → added[i - before.size]? = some volume := by
    intro i volume hnew hi
    rwa [List.getElem?_append_right (by omega), hlength] at hi
  refine h.grow hevolves rfl ?_ ?_ ?_ ?_
  · change (classified ++ added).length ≤ capacity
    rw [List.length_append, hlength]
    have hroom : added.length ≤ before.room := List.length_take_le _ _
    unfold room at hroom
    omega
  · rintro _ ⟨⟩
    exact h.notMem_of_unknown hat hunknown
  · intro i volume hnew hi
    have hmem : volume ∈ partitions.map (·.volume) :=
      List.mem_of_mem_take (List.mem_of_getElem? (hadded hnew hi))
    obtain ⟨partition, hpartition, rfl⟩ := List.mem_map.mp hmem
    have hpart := haccepts.partOf partition hpartition
    refine ⟨?_, by omega, _, hdevice, hwhole, ?_, ?_⟩
    · rw [hpart.sectorSize_eq]
      exact h.sectorSize_ne_zero device (List.mem_of_getElem? hat)
    · cases scheme
      · exact .inl rfl
      · exact .inr rfl
    · exact { hpart with }
  · intro i later volume volume' _ hnew hlt hi hlater
    have hpairwise : added.Pairwise Volume.NumberedBefore :=
      haccepts.pairwise.sublist (List.take_sublist _ _)
    obtain ⟨hi', rfl⟩ := List.getElem?_eq_some_iff.mp (hadded hnew hi)
    obtain ⟨hlater', rfl⟩ := List.getElem?_eq_some_iff.mp (hadded (by omega) hlater)
    exact List.pairwise_iff_getElem.mp hpairwise _ _ hi' hlater' (by omega)

/-! ## Later in a run -/

/-- What holds of a registry and a later one of the same run, where `added` are the origins of the
volumes in between. -/
structure Later (before after : Registry) (added : List (Option Nat)) : Prop where
  /-- Nothing changes but the kinds of devices, each of them once. -/
  evolves : before.Evolves after
  /-- A device that has been classified gets no further partitions. -/
  settled : ∀ {index : Nat} {volume : Volume}, before.volumes[index]? = some volume →
    volume.kind ≠ .unknown → some index ∉ added

theorem Later.self (registry : Registry) : registry.Later registry [] :=
  ⟨Evolves.refl registry, fun _ _ => List.not_mem_nil⟩

/-- Both steps go on from every earlier registry. -/
theorem later_invariant (start : Registry) :
    Invariant (fun _ => True) fun registry added => start.Later registry added where
  seed := by
    intro before after added volume index h hseed _
    obtain ⟨-, -, -, happend⟩ := seed_eq_ok_iff.mp hseed
    refine ⟨h.evolves.trans (evolves_append happend), ?_⟩
    intro i old hat hknown hmem
    rcases List.mem_append.mp hmem with hmem | hmem
    · exact h.settled hat hknown hmem
    · cases List.eq_of_mem_replicate hmem
  detect := by
    intro before after added options mbr index detection h hdetects
    refine ⟨h.evolves.trans (evolves_detects hdetects), ?_⟩
    intro i old hat hknown hmem
    rcases List.mem_append.mp hmem with hmem | hmem
    · exact h.settled hat hknown hmem
    · -- The device of a detection was unclassified, so it has never been classified before.
      obtain rfl : i = index := Option.some.inj (List.eq_of_mem_replicate hmem)
      obtain ⟨device, _, _, hdevice, -, hunknown, -⟩ := hdetects
      obtain ⟨later, hlater, hbecomes⟩ := h.evolves i old hat
      rw [hbecomes.eq_of_known hknown, hdevice] at hlater
      cases hlater
      exact hknown hunknown

/-- The invariant is one. -/
theorem lineage_invariant (capacity : Nat) :
    Invariant (fun _ => True) fun registry origins => registry.Lineage capacity origins where
  seed := fun h hseed _ => h.seed hseed
  detect := fun h hdetects => h.detect hdetects

end Registry

namespace Request

variable {σ τ : Type}

/-- **What holds of registries over every run.** Take any run from an empty registry, and any run
that goes on from there, whatever the environments do. In the end there are no more volumes than the
registry is for, and all their sectors have bytes. Each partition comes from a device in front of it
that has been classified, and has everything from it that belongs to the device. The partitions of a
device stand together, in the order of their numbers. In between, no volume has changed or moved,
but that unclassified devices may have been classified; and devices that had been classified before
have got no further partitions. -/
theorem lineage_of_runs (env : Environment σ) (env' : Environment τ) (capacity : Nat) (state : σ)
    (state' : τ) (requests more : List Request) :
    let before := registryAfter env (Registry.empty capacity) state requests
    let origins := allOrigins env (Registry.empty capacity) state requests
    let after := registryAfter env' before state' more
    let added := allOrigins env' before state' more
    after.Lineage capacity (origins ++ added) ∧ before.Later after added := by
  intro before origins after added
  have hbefore : before.Lineage capacity origins :=
    (Registry.lineage_invariant capacity).run (Registry.lineage_empty capacity) state requests
      fun _ _ _ => trivial
  have hlater : before.Later after ([] ++ added) :=
    (Registry.later_invariant before).run (Registry.Later.self before) state' more
      fun _ _ _ => trivial
  exact ⟨(Registry.lineage_invariant capacity).run hbefore state' more fun _ _ _ => trivial, hlater⟩

end Request

end VolumeScan
