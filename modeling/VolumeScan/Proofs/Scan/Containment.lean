/-
VolumeScan.Proofs.Scan.Containment — every partition lies inside its device.

`Registry.Contained` is the invariant: a device ends at a 64-bit address, and a partition lies
inside the device at its origin, in exact arithmetic. Both steps that build a registry preserve it
(`Contained.seed`, `Contained.detect`), because an accepted table has no partition that sticks out
(`Options.Accepts.within`). So it holds after every run.

The bound of the device is its 64-bit length. Where sector count times sector size is larger than
that, the length is cut off, but the partitions of a GPT end before the last sector, and that sector
has a 64-bit address, since the second header is read from it.
-/
import VolumeScan.Proofs.Scan.Run
import VolumeScan.Scratch.Arena

namespace VolumeScan

namespace Registry

/-- Where a volume with this origin stands. -/
def Placed (registry : Registry) (volume : Volume) : Option Nat → Prop
  | none => volume.partition = none ∧ volume.firstByte.toNat + volume.byteLen < wordLimit
  | some parent => ∃ container, registry.volumes[parent]? = some container
      ∧ container.partition = none ∧ volume.Within container

/-- Every volume stands where its origin says. -/
structure Contained (registry : Registry) (origins : List (Option Nat)) : Prop where
  length_eq : origins.length = registry.size
  placed : ∀ {index : Nat} {volume : Volume}, registry.volumes[index]? = some volume →
    ∃ origin, origins[index]? = some origin ∧ registry.Placed volume origin

variable {before after registry : Registry} {origins : List (Option Nat)} {origin : Option Nat}

/-- A step that keeps all volumes keeps their places. -/
theorem Placed.keeps {volume : Volume} (hkeeps : before.Keeps after)
    (h : before.Placed volume origin) (kind : VolumeKind) :
    after.Placed { volume with kind := kind } origin := by
  cases origin with
  | none => exact h
  | some parent =>
    obtain ⟨container, hat, hwhole, hwithin⟩ := h
    obtain ⟨kind', hat'⟩ := hkeeps parent container hat
    exact ⟨_, hat', hwhole, hwithin.with_kind kind kind'⟩

/-- A step that keeps all volumes and appends others in their places keeps the invariant. -/
theorem Contained.grow (h : before.Contained origins) (hkeeps : before.Keeps after)
    (hadded : ∀ index volume, before.size ≤ index → after.volumes[index]? = some volume →
      after.Placed volume origin) :
    after.Contained (origins ++ before.origins after origin) := by
  have hlength := h.length_eq
  constructor
  · exact length_append_origins hlength hkeeps.size_le origin
  · intro index volume hat
    have hindex : index < after.size := (List.getElem?_eq_some_iff.mp hat).1
    rcases Nat.lt_or_ge index before.size with hold | hnew
    · obtain ⟨old, hbefore⟩ : ∃ old, before.volumes[index]? = some old :=
        ⟨_, List.getElem?_eq_getElem hold⟩
      obtain ⟨kind, hafter⟩ := hkeeps index old hbefore
      rw [hafter] at hat
      cases hat
      obtain ⟨origin', horigin, hplaced⟩ := h.placed hbefore
      exact ⟨origin', by rwa [List.getElem?_append_left (by omega)], hplaced.keeps hkeeps kind⟩
    · refine ⟨origin, ?_, hadded index volume hnew hat⟩
      rw [List.getElem?_append_right (by omega), Registry.origins, List.getElem?_replicate,
        if_pos (by omega)]

theorem contained_empty (capacity : Nat) : (Registry.empty capacity).Contained [] :=
  ⟨rfl, fun h => nomatch h⟩

/-- Seeding a device that ends at a 64-bit address keeps the invariant. -/
theorem Contained.seed (h : before.Contained origins) {volume : Volume} {index : Nat}
    (hseed : before.seed volume = .ok (index, after))
    (hend : volume.firstByte.toNat + volume.byteLen < wordLimit) :
    after.Contained (origins ++ before.origins after none) := by
  obtain ⟨hwhole, -, -, happend⟩ := seed_eq_ok_iff.mp hseed
  obtain ⟨-, rfl⟩ := append_eq_some_iff.mp happend
  refine h.grow (keeps_append before [volume]) fun i added hnew hat => ?_
  have hmem : added ∈ [volume] := by
    dsimp only at hat
    rw [List.getElem?_append_right hnew] at hat
    exact List.mem_of_getElem? hat
  rw [List.mem_singleton.mp hmem]
  exact ⟨hwhole, hend⟩

/-- Every device ends at a 64-bit address. -/
theorem Contained.end_lt_of_whole (h : registry.Contained origins) {index : Nat} {device : Volume}
    (hat : registry.volumes[index]? = some device) (hwhole : device.partition = none) :
    device.firstByte.toNat + device.byteLen < wordLimit := by
  obtain ⟨origin, -, hplaced⟩ := h.placed hat
  cases origin with
  | none => exact hplaced.2
  | some parent =>
    obtain ⟨_, -, -, hwithin⟩ := hplaced
    have hpartition := hwithin.isPartition
    rw [Volume.isPartition, hwhole] at hpartition
    cases hpartition

/-- So every volume does. -/
theorem Contained.end_lt (h : registry.Contained origins) {index : Nat} {volume : Volume}
    (hat : registry.volumes[index]? = some volume) :
    volume.firstByte.toNat + volume.byteLen < wordLimit := by
  obtain ⟨origin, -, hplaced⟩ := h.placed hat
  cases origin with
  | none => exact hplaced.2
  | some parent =>
    obtain ⟨device, hdevice, hwhole, hwithin⟩ := hplaced
    have hend := h.end_lt_of_whole hdevice hwhole
    have hinside := hwithin.end_le
    have hstart := hwithin.firstByte_le
    rw [hwithin.byteLen_eq, Volume.exactLen]
    omega

/-- A detection keeps the invariant. -/
theorem Contained.detect (h : before.Contained origins) {options : Options} {mbr : Mbr}
    {index : Nat} {detection : Detection}
    (hdetects : options.Detects mbr index before detection after) :
    after.Contained (origins ++ before.origins after (some index)) := by
  obtain ⟨container, scheme, partitions, hat, hwhole, -, haccepts, hclassified, hadded⟩ :=
    hdetects.exists_accepts
  have hend := h.end_lt_of_whole hat hwhole
  refine h.grow hdetects.keeps fun i added hnew hi => ?_
  obtain ⟨partition, hpartition, rfl⟩ := List.mem_map.mp (hadded i added hnew hi)
  exact ⟨_, hclassified, hwhole,
    (haccepts.within hend partition hpartition).with_kind _ scheme.container⟩

/-- **The invariant holds of every registry that was built** from devices that end at a 64-bit
address. -/
theorem Built.contained {capacity : Nat} {device : Volume → Prop}
    (hdevice : ∀ volume, device volume → volume.firstByte.toNat + volume.byteLen < wordLimit)
    (h : registry.Built capacity device origins) : registry.Contained origins := by
  induction h with
  | empty => exact contained_empty capacity
  | seed _ hseed hknown ih => exact ih.seed hseed (hdevice _ hknown)
  | detect _ hdetects ih => exact ih.detect hdetects

end Registry

namespace Request

variable {σ : Type}

/-- **Containment over every run.** Take any sequence of requests to an empty registry, in any
environment, such that every device that is seeded ends at a 64-bit address. Every partition in the
registry then comes from a device in the registry and lies inside it, in exact arithmetic: it has
sectors, starts a whole number of sectors behind the start of the device, and ends at or before its
end. In particular its length is never cut off. -/
theorem partitions_within_devices (env : Environment σ) (capacity : Nat) (state : σ)
    (requests : List Request)
    (hdevices : ∀ volume : Volume, .seed volume ∈ requests → volume.partition = none →
      volume.firstByte.toNat + volume.byteLen ≤ 2 ^ 64 - 1) :
    let registry := registryAfter env (Registry.empty capacity) state requests
    let origins := allOrigins env (Registry.empty capacity) state requests
    origins.length = registry.size
      ∧ ∀ (index : Nat) (volume : Volume),
        registry.volumes[index]? = some volume → volume.isPartition = true →
        ∃ (parent : Nat) (container : Volume), origins[index]? = some (some parent)
          ∧ registry.volumes[parent]? = some container ∧ container.isPartition = false
          ∧ 1 ≤ volume.sectorCount.toNat
          ∧ container.firstByte.toNat ≤ volume.firstByte.toNat
          ∧ container.sectorSize.toNat ∣ volume.firstByte.toNat - container.firstByte.toNat
          ∧ volume.firstByte.toNat - container.firstByte.toNat
              + volume.sectorCount.toNat * volume.sectorSize.toNat ≤ container.byteLen
          ∧ volume.byteLen = volume.sectorCount.toNat * volume.sectorSize.toNat := by
  intro registry origins
  have hbuilt : registry.Built capacity
      (fun volume => volume.firstByte.toNat + volume.byteLen ≤ 2 ^ 64 - 1) origins :=
    built_run .empty state requests hdevices
  have hcontained := hbuilt.contained fun volume hend => by
    unfold wordLimit
    omega
  refine ⟨hcontained.length_eq, fun index volume hat hpartition => ?_⟩
  obtain ⟨origin, horigin, hplaced⟩ := hcontained.placed hat
  cases origin with
  | none =>
    rw [Volume.isPartition, hplaced.1] at hpartition
    cases hpartition
  | some parent =>
    obtain ⟨container, hcontainer, hwhole, hwithin⟩ := hplaced
    refine ⟨parent, container, horigin, hcontainer, ?_, hwithin.sectorCount_pos,
      hwithin.firstByte_le, hwithin.offset_dvd, hwithin.end_le, hwithin.byteLen_eq⟩
    rw [Volume.isPartition, hwhole]
    rfl

/-- A disk of 2048 sectors. -/
def smallDisk : Volume where
  method := .memory
  deviceId := 0
  partition := none
  alignment := 1
  sectorSize := 512
  mediaId := 0
  sectorCount := 2048
  firstByte := 0
  kind := .unknown

/-- A table with one partition, which reaches from sector 64 to the end of `smallDisk`. -/
def smallTable : Mbr :=
  let unused : Mbr.Entry := ⟨0x00, ⟨0, 0, 0⟩, 0x00, ⟨0, 0, 0⟩, 0, 0⟩
  ⟨#v[⟨0x80, ⟨0, 0, 0⟩, 0x0C, ⟨0, 0, 0⟩, 64, 1984⟩, unused, unused, unused], Mbr.bootSignature⟩

/-- A device much shorter than `smallDisk` was declared. The table is in its first sector, and two
bytes that are not zero are in the partition. -/
def smallDisks : Disks :=
  ⟨.hosted, [.ofChunks 32800 [⟨446, smallTable.encode.toArray, 1⟩, ⟨32776, #[8, 9], 1⟩]]⟩

/-- The device, and an arena. -/
def smallEnvironment : Environment Pool := .ofDisks smallDisks [] Pool.allocator

/-- The arena as it is at first. It has room for one sector, and holds no zeros. -/
def smallPool : Pool := Pool.ofRegion 0 512 0xFF

/-- What a pass over the device finds. -/
theorem run_smallDisk :
    let requests := [.seed smallDisk, .discover {}]
    (registryAfter smallEnvironment (Registry.empty 4) smallPool requests).volumes
        = [{ smallDisk with kind := .mbrContainer }, smallDisk.partitionAt 0 32768 1984 .fat]
      ∧ allOrigins smallEnvironment (Registry.empty 4) smallPool requests = [none, some 0] := by
  decide +kernel

/-- In a run that seeds one device, that one has to end at a 64-bit address. -/
theorem devices_of_seed {device : Volume} {request : Request}
    (hend : device.firstByte.toNat + device.byteLen ≤ 2 ^ 64 - 1)
    (hother : ∀ volume, request ≠ .seed volume) :
    ∀ volume : Volume, .seed volume ∈ [.seed device, request] → volume.partition = none →
      volume.firstByte.toNat + volume.byteLen ≤ 2 ^ 64 - 1 := by
  intro volume hmem _
  rcases List.mem_cons.mp hmem with heq | hrest
  · cases heq
    exact hend
  · exact absurd (List.mem_singleton.mp hrest).symm (hother volume)

/-- The partition at the end of the disk touches the bound and does not go over it. -/
theorem smallDisk_partition_within :
    let requests := [.seed smallDisk, .discover {}]
    let registry := registryAfter smallEnvironment (Registry.empty 4) smallPool requests
    (∀ volume : Volume, .seed volume ∈ requests → volume.partition = none →
        volume.firstByte.toNat + volume.byteLen ≤ 2 ^ 64 - 1)
      ∧ ∃ volume container, registry.volumes[1]? = some volume
        ∧ registry.volumes[0]? = some container
        ∧ volume.firstByte.toNat - container.firstByte.toNat
            + volume.sectorCount.toNat * volume.sectorSize.toNat ≤ container.byteLen
        ∧ volume.byteLen = 1984 * 512 := by
  intro requests registry
  have hdevices : ∀ volume : Volume, .seed volume ∈ requests → volume.partition = none →
      volume.firstByte.toNat + volume.byteLen ≤ 2 ^ 64 - 1 := devices_of_seed (by decide) nofun
  obtain ⟨hvolumes, horigins⟩ := run_smallDisk
  have hat : registry.volumes[1]? = some (smallDisk.partitionAt 0 32768 1984 .fat) := by
    rw [hvolumes]
    rfl
  obtain ⟨-, hall⟩ := partitions_within_devices smallEnvironment 4 smallPool requests hdevices
  obtain ⟨parent, container, horigin, hcontainer, -, -, -, -, hend, -⟩ := hall 1 _ hat rfl
  rw [horigins] at horigin
  obtain rfl : 0 = parent := Option.some.inj (Option.some.inj horigin)
  exact ⟨hdevices, _, container, hat, hcontainer, hend, by decide⟩

end Request

end VolumeScan
