/-
VolumeScan.Proofs.Scan.FirstSector — which partitions keep off the first sector of their device.

The first sector of a device holds the legacy table. `Volume.ListedOn` ties a partition to the
accepted table that its device was classified by. Both steps that build a registry keep this for all
partitions at once (`Registry.Listed`), because neither a partition nor a classified device changes
any more. What was checked about a table then says where its partitions start. A legacy table has no
partition in the first sector. A GPT has one exactly if an entry names that sector, and the only
thing in its way is where the usable area starts, which a header is free to say
(`Request.first_sector_kept`, `Request.lowDisk_partition_at_start`).
-/
import VolumeScan.Proofs.Scan.Containment
import VolumeScan.Proofs.Scan.GptDetection
import VolumeScan.Proofs.Scan.Lineage

namespace VolumeScan

/-! ## Where the partitions of a table start -/

/-- A partition of a legacy table starts behind the first sector. -/
theorem Mbr.Entry.Fits.le_firstByte_part {entry : Mbr.Entry} {parent : Volume}
    (hfits : entry.Fits parent) (hplain : entry.isProtective = false)
    (hparent : parent.firstByte.toNat + parent.byteLen < wordLimit) (index : Nat) :
    parent.firstByte.toNat + parent.sectorSize.toNat
      ≤ (entry.part parent index).volume.firstByte.toNat := by
  have hstart : 0 < entry.sectorExtent.start := Nat.pos_of_mul_pos_right hfits.start_pos
  have hbehind : parent.sectorSize.toNat ≤ entry.sectorExtent.start * parent.sectorSize.toNat :=
    Nat.le_mul_of_pos_left _ hstart
  have hexact := Volume.toNat_firstByte_part index (VolumeKind.ofTypeCode entry.typeCode) hparent
    (Mbr.Entry.part_end_le hfits hplain)
  exact Nat.le_trans (Nat.add_le_add_left hbehind _) (Nat.le_of_eq hexact.symm)

/-- A partition of a GPT starts behind the first sector exactly if its entry does not name that
sector. -/
theorem Gpt.Entry.Describes.le_firstByte_iff {entry : Gpt.Entry} {index : Nat}
    {parent partition : Volume} (h : entry.Describes index parent partition)
    (hsize : 0 < parent.sectorSize.toNat) :
    parent.firstByte.toNat + parent.sectorSize.toNat ≤ partition.firstByte.toNat ↔
      entry.firstLba ≠ 0 := by
  rw [h.firstByte_eq, Nat.add_le_add_iff_left]
  constructor
  · rintro hle hzero
    rw [hzero, UInt64.toNat_zero, Nat.zero_mul] at hle
    omega
  · intro hne
    have hpos : 0 < entry.firstLba.toNat :=
      Nat.pos_of_ne_zero fun hzero => hne (UInt64.toNat_inj.mp hzero)
    exact Nat.le_mul_of_pos_left _ hpos

/-! ## The table that a partition comes from -/

/-- The partition stands in a table that was accepted on the device, and the device is classified
by that table. -/
def Volume.ListedOn (partition device : Volume) : Prop :=
  ∃ (options : Options) (mbr : Mbr) (scheme : Scheme) (slot : Option Gpt.HeaderCopy)
    (partitions : List Partition),
    device.kind = scheme.container
      ∧ options.Accepts mbr { device with kind := .unknown } scheme slot partitions
      ∧ partition ∈ partitions.map (·.volume)

/-- What stands in a table is a partition of a device whose kind is known. -/
theorem Volume.ListedOn.known {partition device : Volume} (h : partition.ListedOn device) :
    partition.isPartition = true ∧ device.kind ≠ .unknown := by
  obtain ⟨_, _, scheme, _, _, hkind, haccepts, hmem⟩ := h
  obtain ⟨listed, hlisted, rfl⟩ := List.mem_map.mp hmem
  refine ⟨(haccepts.partOf listed hlisted).isPartition, ?_⟩
  rw [hkind]
  cases scheme <;> decide

namespace Registry

/-- Every partition stands in the table of its device. -/
structure Listed (registry : Registry) (origins : List (Option Nat)) : Prop where
  length_eq : origins.length = registry.size
  listed : ∀ {index parent : Nat} {volume : Volume}, origins[index]? = some (some parent) →
    registry.volumes[index]? = some volume →
    ∃ device, registry.volumes[parent]? = some device ∧ volume.ListedOn device

variable {before after registry : Registry} {origins : List (Option Nat)} {origin : Option Nat}

/-- A step keeps the invariant if the partitions that it appends stand in the table of their
device. -/
theorem Listed.grow (h : before.Listed origins) (hevolves : before.Evolves after)
    (hadded : ∀ parent index volume, origin = some parent → before.size ≤ index →
      after.volumes[index]? = some volume →
      ∃ device, after.volumes[parent]? = some device ∧ volume.ListedOn device) :
    after.Listed (origins ++ before.origins after origin) where
  length_eq := length_append_origins h.length_eq hevolves.size_le origin
  listed := by
    intro index parent volume horigin hat
    rcases (getElem?_append_origins h.length_eq).mp horigin with ⟨hold, hbefore⟩ | ⟨hnew, -, hfound⟩
    · obtain ⟨old, hwas, hbecomes⟩ := hevolves.exists_becomes hold hat
      obtain ⟨device, hdevice, hlisted⟩ := h.listed hbefore hwas
      obtain ⟨hpartition, hknown⟩ := hlisted.known
      obtain ⟨device', hdevice', hsame⟩ := hevolves parent device hdevice
      rw [hsame.eq_of_known hknown] at hdevice'
      rw [hbecomes.eq_of_isPartition hpartition]
      exact ⟨device, hdevice', hlisted⟩
    · exact hadded parent index volume hfound.symm hnew hat

/-- A detection keeps the invariant: what it appends comes from the table that it accepted. -/
theorem Listed.detect (h : before.Listed origins) {options : Options} {mbr : Mbr} {index : Nat}
    {detection : Detection} (hdetects : options.Detects mbr index before detection after) :
    after.Listed (origins ++ before.origins after (some index)) := by
  obtain ⟨device, scheme, partitions, -, -, hunknown, haccepts, hclassified, hadded⟩ :=
    hdetects.exists_accepts
  have hsame : { device with kind := .unknown } = device := by rw [← hunknown]
  refine h.grow (evolves_detects hdetects) fun parent i volume hparent hnew hi => ?_
  cases hparent
  exact ⟨_, hclassified, options, mbr, scheme, detection.header, partitions, rfl, by rwa [hsame],
    hadded i volume hnew hi⟩

/-- The invariant is one. -/
theorem listed_invariant :
    Invariant (fun _ => True) fun registry origins => registry.Listed origins where
  seed := by
    intro before after origins volume index h hseed _
    obtain ⟨-, -, -, happend⟩ := seed_eq_ok_iff.mp hseed
    exact h.grow (evolves_append happend) nofun
  detect := fun h hdetects => h.detect hdetects

theorem listed_empty (capacity : Nat) : (Registry.empty capacity).Listed [] :=
  ⟨rfl, nofun⟩

end Registry

namespace Request

variable {σ : Type}

/-- **Which partitions keep off the first sector.** Take any sequence of requests to an empty
registry, in any environment, such that every device that is seeded ends at a 64-bit address. Every
partition in the registry comes from a classified device in the registry. If that had a legacy
table, the partition starts behind the first sector of the device. If it had a GPT, the partition
was described by a used entry of an admitted array behind a valid header and starts in exactly the
sector that the entry names; so it starts behind the first sector of the device exactly if the entry
names another one, as it has to if the usable area of the header does not start there. -/
theorem first_sector_kept (env : Environment σ) (capacity : Nat) (state : σ)
    (requests : List Request)
    (hdevices : ∀ volume : Volume, .seed volume ∈ requests → volume.partition = none →
      volume.firstByte.toNat + volume.byteLen ≤ 2 ^ 64 - 1) :
    let registry := registryAfter env (Registry.empty capacity) state requests
    let origins := allOrigins env (Registry.empty capacity) state requests
    ∀ (index : Nat) (volume : Volume),
      registry.volumes[index]? = some volume → volume.isPartition = true →
      ∃ (parent : Nat) (device : Volume), origins[index]? = some (some parent)
        ∧ registry.volumes[parent]? = some device ∧ device.isPartition = false
        ∧ ((device.kind = .mbrContainer
            ∧ device.firstByte.toNat + device.sectorSize.toNat ≤ volume.firstByte.toNat)
          ∨ (device.kind = .gptContainer
            ∧ ∃ slot sector header array number entry,
              Gpt.Header.validate sector slot device.sectorSize.toNat device.sectorCount.toNat
                  = .ok header
                ∧ array.length = header.arrayLen ∧ header.admitArray array = .ok ()
                ∧ (number, entry) ∈ header.usedEntries array
                ∧ volume.partition.map UInt32.toNat = some number
                ∧ volume.firstByte.toNat
                    = device.firstByte.toNat + entry.firstLba.toNat * device.sectorSize.toNat
                ∧ header.firstUsableLba ≤ entry.firstLba
                ∧ (device.firstByte.toNat + device.sectorSize.toNat ≤ volume.firstByte.toNat ↔
                    entry.firstLba ≠ 0))) := by
  intro registry origins index volume hat hpartition
  have hbuilt : registry.Built capacity
      (fun volume => volume.firstByte.toNat + volume.byteLen ≤ 2 ^ 64 - 1) origins :=
    built_run .empty state requests hdevices
  have hcontained := hbuilt.contained fun volume hend => by
    unfold wordLimit
    omega
  have hlisted : registry.Listed origins :=
    Registry.listed_invariant.run (Registry.listed_empty capacity) state requests
      fun _ _ _ => trivial
  obtain ⟨origin, horigin, hplaced⟩ := hcontained.placed hat
  cases origin with
  | none =>
    rw [Volume.isPartition, hplaced.1] at hpartition
    cases hpartition
  | some parent =>
    obtain ⟨device, hdevice, hwhole, -⟩ := hplaced
    have hend : device.firstByte.toNat + device.byteLen < wordLimit := hcontained.end_lt hdevice
    obtain ⟨_, hsame, _, _, scheme, _, partitions, hkind, haccepts, hmem⟩ :=
      hlisted.listed horigin hat
    rw [hdevice] at hsame
    cases hsame
    refine ⟨parent, device, horigin, hdevice, ?_, ?_⟩
    · rw [Volume.isPartition, hwhole]
      rfl
    cases haccepts with
    | @gpt slot sector array header _ _ hlast hvalidated hlength hadmitted =>
      have hvalid := Gpt.Header.validate_valid hvalidated
      obtain ⟨-, hadmits⟩ :=
        (Gpt.Header.admitArray_eq_ok_iff hlength hvalid.entrySize_ge).mp hadmitted
      obtain ⟨_, hlisted', rfl⟩ := List.mem_map.mp hmem
      obtain ⟨⟨number, entry⟩, hentry, rfl⟩ := List.mem_map.mp hlisted'
      have hadmitted' := hadmits _ hentry
      have hdescribes := Gpt.Entry.describes_part hvalid hlast hend hentry hadmitted'
      exact .inr ⟨hkind, slot, sector, header, array, number, entry, hvalidated, hlength, hadmitted,
        hentry, hdescribes.number_eq, hdescribes.firstByte_eq, hadmitted'.1,
        hdescribes.le_firstByte_iff hvalid.sectorSize_pos⟩
    | mbr _ _ hvalid =>
      obtain ⟨_, hlisted', rfl⟩ := List.mem_map.mp hmem
      obtain ⟨⟨number, entry⟩, hentry, rfl⟩ := List.mem_map.mp hlisted'
      obtain ⟨-, -, hplain⟩ := Mbr.mem_partitionEntries_iff.mp hentry
      exact .inl ⟨hkind, (Mbr.fits_of_mem_partitionEntries hvalid hentry).le_firstByte_part hplain
        hend number⟩

/-- What a run comes to that seeds one device and detects its table. -/
theorem run_seed_detect {env : Environment σ} {capacity : Nat} {state : σ} {device : Volume}
    {options : Options} {mbr : Mbr} {detection : Detection} {after : Registry}
    (hseed : (Registry.empty capacity).seed device = .ok (0, ⟨capacity, [device]⟩))
    (hdetect : (Scanner.detect ⟨env, options⟩ mbr 0).Yields ⟨capacity, [device]⟩ state detection
      after) :
    let requests := [.seed device, .detect options mbr 0]
    registryAfter env (Registry.empty capacity) state requests = after
      ∧ allOrigins env (Registry.empty capacity) state requests
        = none :: Registry.origins ⟨capacity, [device]⟩ after (some 0) := by
  intro requests
  have hseeded : serve env (Registry.empty capacity) state (.seed device)
      = ⟨.index 0, ⟨capacity, [device]⟩, state, []⟩ := by
    simp only [serve, hseed]
  have hdetected : (serve env ⟨capacity, [device]⟩ state (.detect options mbr 0)).registry
      = after := by
    rw [registry_serve]
    exact hdetect.2
  constructor
  · dsimp only [requests]
    rw [registryAfter_cons, hseeded, registryAfter_cons]
    exact hdetected
  · dsimp only [requests, allOrigins, origins]
    rw [hseeded]
    dsimp only
    rw [hdetected, List.append_nil]
    rfl

/-- What it comes to on a disk like `Scanner.tinyDisk`, if the environment serves a GPT with one
entry. -/
theorem run_tinyDisk {env : Environment σ} {state : σ} {slot : Gpt.HeaderCopy}
    {header : Gpt.Header} {array : Bytes} {entry : Gpt.Entry}
    (hserves : env.ServesGpt Scanner.tinyDisk state slot header array)
    (hused : header.usedEntries array = [(0, entry)]) :
    let requests := [.seed Scanner.tinyDisk, .detect {} Scanner.tinyTable 0]
    registryAfter env (Registry.empty 4) state requests
        = ⟨4, [{ Scanner.tinyDisk with kind := .gptContainer },
          (entry.part Scanner.tinyDisk 0).volume]⟩
      ∧ allOrigins env (Registry.empty 4) state requests = [none, some 0] := by
  have hat : (⟨4, [Scanner.tinyDisk]⟩ : Registry).volumes[0]? = some Scanner.tinyDisk := rfl
  have hannounced : ({} : Options).gpt = .revisionOne ∧ Scanner.tinyTable.protectiveIndex?.isSome :=
    by decide
  have hyields : (Scanner.detect ⟨env, {}⟩ Scanner.tinyTable 0).Yields _ state _ _ :=
    (Scanner.yields_detect_gpt_iff hat rfl rfl hannounced).mpr ⟨_, _, _, hserves, rfl, rfl⟩
  rw [Gpt.Header.partitions, hused] at hyields
  exact run_seed_detect rfl hyields

/-- The partition of the GPT on `Scanner.tinyDisk` starts behind the first sector, and its entry
does not name that. -/
theorem tinyDisk_first_sector_kept :
    let requests := [.seed Scanner.tinyDisk, .detect {} Scanner.tinyTable 0]
    let registry :=
      registryAfter Scanner.tinyEnvironment (Registry.empty 4) Scanner.tinyPool requests
    (∀ volume : Volume, .seed volume ∈ requests → volume.partition = none →
        volume.firstByte.toNat + volume.byteLen ≤ 2 ^ 64 - 1)
      ∧ ∃ (volume device : Volume) (entry : Gpt.Entry),
        registry.volumes[1]? = some volume ∧ volume.isPartition = true
        ∧ registry.volumes[0]? = some device ∧ device.kind = .gptContainer
        ∧ device.firstByte.toNat + device.sectorSize.toNat ≤ volume.firstByte.toNat
        ∧ volume.firstByte.toNat
          = device.firstByte.toNat + entry.firstLba.toNat * device.sectorSize.toNat
        ∧ entry.firstLba ≠ 0 := by
  intro requests registry
  have hdevices : ∀ volume : Volume, .seed volume ∈ requests → volume.partition = none →
      volume.firstByte.toNat + volume.byteLen ≤ 2 ^ 64 - 1 := devices_of_seed (by decide) nofun
  obtain ⟨hregistry, horigins⟩ :=
    run_tinyDisk Scanner.servesGpt_tinyDisk Scanner.usedEntries_tinyHeader
  replace hregistry : registry = _ := hregistry
  have hvolume : registry.volumes[1]?
      = some (Scanner.tinyEntry.part Scanner.tinyDisk 0).volume := by
    rw [hregistry]
    rfl
  have hdevice : registry.volumes[0]? = some { Scanner.tinyDisk with kind := .gptContainer } := by
    rw [hregistry]
    rfl
  obtain ⟨parent, device, horigin, hat, -, hkept⟩ :=
    first_sector_kept Scanner.tinyEnvironment 4 Scanner.tinyPool requests hdevices 1 _ hvolume rfl
  rw [horigins] at horigin
  obtain rfl : 0 = parent := Option.some.inj (Option.some.inj horigin)
  obtain rfl := Option.some.inj (hdevice.symm.trans hat)
  rcases hkept with ⟨hkind, -⟩ | ⟨hkind, _, _, _, _, _, entry, -, -, -, -, -, hstart, -, hiff⟩
  · cases hkind
  · have hbehind : Scanner.tinyDisk.firstByte.toNat + Scanner.tinyDisk.sectorSize.toNat
        ≤ (Scanner.tinyEntry.part Scanner.tinyDisk 0).volume.firstByte.toNat := by decide
    exact ⟨hdevices, _, _, entry, hvolume, rfl, hdevice, hkind, hbehind, hstart,
      hiff.mp hbehind⟩

/-! ## A partition over the first sector -/

/-- A header like that of `Scanner.tinyDisk`, but the usable area starts in the first sector. -/
def lowHeader : Gpt.Header :=
  { Scanner.tinyHeader with
    headerCrc := 0x01CCE19A
    firstUsableLba := 0
    entriesCrc := 0xBD0A3E9A }

/-- An entry like that of `Scanner.tinyDisk`, of a partition that starts in the first sector. -/
def lowEntry : Gpt.Entry := { Scanner.tinyEntry with firstLba := 0 }

/-- A disk like `Scanner.tinyDisk` with these two, and an arena. -/
def lowEnvironment : Environment Pool :=
  .ofDisks (Scanner.tinyDisks (lowHeader.encode [] 128) lowEntry.encode) [] Pool.allocator

theorem crc32_lowEntry : crc32 lowEntry.encode = 0xBD0A3E9A := by
  have hfirst : Crc32.update Crc32.initial (lowEntry.encode.take 40) = 0xD2244083 := by
    decide +kernel
  have hsecond : Crc32.update 0xD2244083 ((lowEntry.encode.drop 40).take 44) = 0x9FDE62D8 := by
    decide +kernel
  rw [crc32, Crc32.update_take_drop 40, hfirst, Crc32.update_take_drop 44, hsecond]
  decide +kernel

theorem crc32Blanked_lowHeader :
    crc32Blanked ((lowHeader.encode [] 128).take 92) 0x10 0x14 = .ok 0x01CCE19A := by
  have hbefore : Crc32.update Crc32.initial (((lowHeader.encode [] 128).take 92).take 0x10)
      = 0x0096CA1E := by decide +kernel
  have hbehind : Crc32.update 0x0BE51EA6 ((((lowHeader.encode [] 128).take 92).drop 0x14).take 36)
      = 0x42CB867B := by decide +kernel
  exact crc32Blanked_of_registers 36 (by decide +kernel) hbefore (by decide +kernel) hbehind
    (by decide +kernel)

/-- The header is valid: nothing is asked of where the usable area starts. -/
theorem validate_lowHeader :
    Gpt.Header.validate (lowHeader.encode [] 128) .primary 128 5 = .ok lowHeader := by
  have hvalid : lowHeader.Valid .primary 128 5 := by constructor <;> decide
  exact Gpt.Header.validate_encode hvalid rfl crc32Blanked_lowHeader

theorem usedEntries_lowHeader : lowHeader.usedEntries lowEntry.encode = [(0, lowEntry)] := by
  decide +kernel

theorem servesGpt_lowEnvironment :
    lowEnvironment.ServesGpt Scanner.tinyDisk Scanner.tinyPool .primary lowHeader
      lowEntry.encode := by
  have hentry : lowEntry.encode.length = 128 := by decide +kernel
  have hchosen : (Gpt.chooseHeader (lowHeader.encode [] 128) (Scanner.tinyBackup.encode [] 128) 128
      5).1 = .ok (.primary, lowHeader) :=
    Gpt.chooseHeader_eq_ok_iff.mpr (.inl ⟨rfl, validate_lowHeader⟩)
  refine Scanner.servesGpt_tinyDisks (lowHeader.length_encode (by decide)) hentry Pool.allocator []
    Scanner.tinyPool hchosen rfl (by decide) (by decide) rfl rfl rfl crc32_lowEntry.symm ?_
  rw [usedEntries_lowHeader]
  decide

/-- The partition starts where the disk starts, and so takes in the sector of the legacy table. -/
theorem lowDisk_partition_at_start :
    let requests := [.seed Scanner.tinyDisk, .detect {} Scanner.tinyTable 0]
    let registry := registryAfter lowEnvironment (Registry.empty 4) Scanner.tinyPool requests
    Scanner.tinyDisk.firstByte.toNat + Scanner.tinyDisk.byteLen ≤ 2 ^ 64 - 1
      ∧ allOrigins lowEnvironment (Registry.empty 4) Scanner.tinyPool requests = [none, some 0]
      ∧ ∃ volume device, registry.volumes[1]? = some volume ∧ volume.isPartition = true
        ∧ registry.volumes[0]? = some device
        ∧ ¬ device.firstByte.toNat + device.sectorSize.toNat ≤ volume.firstByte.toNat := by
  intro requests registry
  obtain ⟨hregistry, horigins⟩ := run_tinyDisk servesGpt_lowEnvironment usedEntries_lowHeader
  replace hregistry : registry = _ := hregistry
  rw [hregistry]
  exact ⟨by decide, horigins, _, _, rfl, rfl, rfl, by decide +kernel⟩

end Request

end VolumeScan
