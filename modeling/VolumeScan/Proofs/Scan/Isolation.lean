/-
VolumeScan.Proofs.Scan.Isolation — what is read through a volume lies inside the volume.

A volume that ends at a 64-bit address is a window on its device: a read through it succeeds exactly
if it stays in the window and on the device, and gives the bytes that are there
(`Disks.read_eq_ok_iff_bytes`). A partition is a window inside the window of its device, so it does
not matter through which of the two a stretch of the partition is read (`Disks.read_within_iff`).

Both need what is known of the volumes of a registry: that they end at a 64-bit address and lie
inside their devices (`Registry.Contained`), and that they have their device's number
(`Registry.Lineage`).
-/
import VolumeScan.Proofs.Disks
import VolumeScan.Proofs.Scan.Containment
import VolumeScan.Proofs.Scan.Lineage

namespace VolumeScan

/-! ## Windows on devices -/

/-- A block is what is read of a device if it holds the bytes that are there. -/
theorem Device.read_eq_iff {device : Device} {pos len : Nat} {block : Block len} :
    device.read pos len = block ↔
      ∀ i < len, block.val[i]? = some (device.byteAt (pos + i)) := by
  have hread : ∀ i < len, (device.read pos len).val[i]? = some (device.byteAt (pos + i)) := by
    intro i hi
    simp [Device.read, hi]
  constructor
  · rintro rfl
    exact hread
  · intro h
    refine Subtype.ext (List.ext_getElem? fun i => ?_)
    rcases Nat.lt_or_ge i len with hi | hi
    · rw [hread i hi, h i hi]
    · rw [List.getElem?_eq_none (by rwa [(device.read pos len).property]),
        List.getElem?_eq_none (by rwa [block.property])]

namespace Disks

variable {disks : Disks} {volume container : Volume} {pos len : Nat} {block : Block len}

/-- Through a volume that ends at a 64-bit address, exactly the reads inside it and on its device
succeed, and give the bytes from its first byte on. -/
theorem read_eq_ok_iff_bytes (hend : volume.firstByte.toNat + volume.byteLen < wordLimit)
    (hlen : 0 < len) :
    disks.read volume pos len = .ok block ↔
      pos + len ≤ volume.byteLen
        ∧ ∃ device, disks.devices[volume.deviceId.toNat]? = some device
          ∧ volume.firstByte.toNat + pos + len ≤ device.size
          ∧ ∀ i < len,
            block.val[i]? = some (device.byteAt (volume.firstByte.toNat + pos + i)) := by
  rw [read_eq_ok_iff hlen]
  constructor
  · rintro ⟨device, hdevice, ⟨hinside, -⟩, hsize, hread⟩
    exact ⟨hinside, device, hdevice, hsize, Device.read_eq_iff.mp hread⟩
  · rintro ⟨hinside, device, hdevice, hsize, hbytes⟩
    have hword : volume.firstByte.toNat + pos < wordLimit := by omega
    exact ⟨device, hdevice, ⟨hinside, hword⟩, hsize, Device.read_eq_iff.mpr hbytes⟩

/-- It does not matter whether a stretch of a partition is read through the partition, or through
the device that the partition is in. Nothing is asked of the devices here, nor of the length: the
two reads come to the same read of the same device. -/
theorem read_within_iff (hwithin : volume.Within container)
    (hdevice : volume.deviceId = container.deviceId) (hinside : pos + len ≤ volume.byteLen) :
    disks.read volume pos len = .ok block ↔
      disks.read container (volume.firstByte.toNat - container.firstByte.toNat + pos) len
        = .ok block := by
  have hend := hwithin.end_le
  have hle := hwithin.firstByte_le
  have hexact := hwithin.byteLen_eq
  unfold Volume.exactLen at hexact
  have hinside' : volume.firstByte.toNat - container.firstByte.toNat + pos + len
      ≤ container.byteLen := by omega
  have hsame : container.firstByte.toNat
      + (volume.firstByte.toNat - container.firstByte.toNat + pos)
      = volume.firstByte.toNat + pos := by omega
  unfold read
  rw [hsame, ← hdevice]
  cases disks.devices[volume.deviceId.toNat]? with
  | none => simp
  | some device =>
    by_cases hword : volume.firstByte.toNat + pos < wordLimit
    · simp only [hinside, hinside', hword, and_self, if_true, mapError_eq_ok_iff]
    · simp only [hword, and_false, if_false, reduceCtorEq]

end Disks

/-! ## The volumes of a registry -/

/-- A partition lies inside the device at its origin, and belongs to it. -/
theorem Registry.Contained.exists_container {registry : Registry} {capacity : Nat}
    {origins : List (Option Nat)} (hcontained : registry.Contained origins)
    (hlineage : registry.Lineage capacity origins) {index : Nat} {volume : Volume}
    (hat : registry.volumes[index]? = some volume) (hpartition : volume.isPartition = true) :
    ∃ parent container, origins[index]? = some (some parent)
      ∧ registry.volumes[parent]? = some container ∧ container.isPartition = false
      ∧ volume.Within container ∧ volume.PartOf container := by
  obtain ⟨origin, horigin, hplaced⟩ := hcontained.placed hat
  obtain ⟨origin', horigin', hdescends⟩ := hlineage.descends hat
  obtain rfl : origin = origin' := Option.some.inj (horigin.symm.trans horigin')
  cases origin with
  | none =>
    rw [Volume.isPartition, hplaced.1] at hpartition
    cases hpartition
  | some parent =>
    obtain ⟨container, hcontainer, hwhole, hwithin⟩ := hplaced
    obtain ⟨-, container', hcontainer', -, -, hpartOf⟩ := hdescends
    obtain rfl : container = container' := Option.some.inj (hcontainer.symm.trans hcontainer')
    exact ⟨parent, container, horigin, hcontainer, by rw [Volume.isPartition, hwhole]; rfl,
      hwithin, hpartOf⟩

namespace Request

variable {σ : Type}

/-- **Reads stay inside their volumes.** Take any sequence of requests to an empty registry, in any
environment, such that every device that is seeded ends at a 64-bit address, and then any devices,
with any access to them. A read of at least one byte through a volume of the registry succeeds
exactly if it stays inside the volume and on its device, and gives the bytes of this device from the
volume's first byte on. And whatever lies inside a partition can be read through the device that the
partition comes from just as well: with the same bytes, or not at all through either. -/
theorem reads_stay_inside_volumes (env : Environment σ) (capacity : Nat) (state : σ)
    (requests : List Request)
    (hdevices : ∀ volume : Volume, .seed volume ∈ requests → volume.partition = none →
      volume.firstByte.toNat + volume.byteLen ≤ 2 ^ 64 - 1)
    (disks : Disks) :
    let registry := registryAfter env (Registry.empty capacity) state requests
    let origins := allOrigins env (Registry.empty capacity) state requests
    ∀ (index : Nat) (volume : Volume), registry.volumes[index]? = some volume →
      (∀ (pos len : Nat) (block : Block len), 0 < len →
        (disks.read volume pos len = .ok block ↔
          pos + len ≤ volume.byteLen
            ∧ ∃ device, disks.devices[volume.deviceId.toNat]? = some device
              ∧ volume.firstByte.toNat + pos + len ≤ device.size
              ∧ ∀ i < len,
                block.val[i]? = some (device.byteAt (volume.firstByte.toNat + pos + i))))
      ∧ (volume.isPartition = true →
        ∃ (parent : Nat) (container : Volume), origins[index]? = some (some parent)
          ∧ registry.volumes[parent]? = some container ∧ container.isPartition = false
          ∧ container.firstByte.toNat ≤ volume.firstByte.toNat
          ∧ ∀ (pos len : Nat) (block : Block len), pos + len ≤ volume.byteLen →
            (disks.read volume pos len = .ok block ↔
              disks.read container (volume.firstByte.toNat - container.firstByte.toNat + pos) len
                = .ok block)) := by
  intro registry origins index volume hat
  have hbuilt : registry.Built capacity
      (fun volume => volume.firstByte.toNat + volume.byteLen ≤ 2 ^ 64 - 1) origins :=
    built_run .empty state requests hdevices
  have hcontained : registry.Contained origins := hbuilt.contained fun volume hend => by
    unfold wordLimit
    omega
  have hlineage : registry.Lineage capacity origins :=
    (Registry.lineage_invariant capacity).run (Registry.lineage_empty capacity) state requests
      fun _ _ _ => trivial
  refine ⟨fun pos len block hlen => Disks.read_eq_ok_iff_bytes (hcontained.end_lt hat) hlen,
    fun hpartition => ?_⟩
  obtain ⟨parent, container, horigin, hcontainer, hwhole, hwithin, hpartOf⟩ :=
    hcontained.exists_container hlineage hat hpartition
  exact ⟨parent, container, horigin, hcontainer, hwhole, hwithin.firstByte_le,
    fun pos len block hinside => Disks.read_within_iff hwithin hpartOf.deviceId_eq hinside⟩

/-- The partition of `smallDisk`, on its short device. What there is of it can be read through
either volume, and nothing behind it through the partition. -/
theorem smallDisk_reads_stay_inside :
    let requests := [.seed smallDisk, .discover {}]
    let registry := registryAfter smallEnvironment (Registry.empty 4) smallPool requests
    (∀ volume : Volume, .seed volume ∈ requests → volume.partition = none →
        volume.firstByte.toNat + volume.byteLen ≤ 2 ^ 64 - 1)
      ∧ ∃ volume container, registry.volumes[1]? = some volume
        ∧ registry.volumes[0]? = some container ∧ volume.isPartition = true
        ∧ smallDisks.read volume 8 2 = .ok ⟨[8, 9], rfl⟩
        ∧ smallDisks.read container (32768 + 8) 2 = .ok ⟨[8, 9], rfl⟩
        ∧ ∀ block : Block 512, smallDisks.read volume (1984 * 512 - 256) 512 ≠ .ok block := by
  intro requests registry
  have hdevices : ∀ volume : Volume, .seed volume ∈ requests → volume.partition = none →
      volume.firstByte.toNat + volume.byteLen ≤ 2 ^ 64 - 1 := devices_of_seed (by decide) nofun
  obtain ⟨hvolumes, horigins⟩ := run_smallDisk
  have hat : registry.volumes[1]? = some (smallDisk.partitionAt 0 32768 1984 .fat) := by
    rw [hvolumes]
    rfl
  obtain ⟨hreads, hthrough⟩ :=
    reads_stay_inside_volumes smallEnvironment 4 smallPool requests hdevices smallDisks 1 _ hat
  obtain ⟨parent, container, horigin, hcontainer, -, -, hsame⟩ := hthrough rfl
  rw [horigins] at horigin
  obtain rfl : 0 = parent := Option.some.inj (Option.some.inj horigin)
  obtain rfl : { smallDisk with kind := .mbrContainer } = container := by
    rw [hvolumes] at hcontainer
    exact Option.some.inj hcontainer
  have hread : smallDisks.read (smallDisk.partitionAt 0 32768 1984 .fat) 8 2
      = .ok ⟨[8, 9], rfl⟩ := by
    refine (hreads 8 2 _ (by decide)).mpr ⟨by decide, _, rfl, by decide, ?_⟩
    decide +kernel
  refine ⟨hdevices, _, _, hat, hcontainer, rfl, hread, (hsame 8 2 _ (by decide)).mp hread, ?_⟩
  intro block hblock
  obtain ⟨hinside, -⟩ := (hreads _ _ block (by decide)).mp hblock
  exact absurd hinside (by decide)

end Request

end VolumeScan
