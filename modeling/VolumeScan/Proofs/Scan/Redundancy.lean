/-
VolumeScan.Proofs.Scan.Redundancy — the second copy of a GPT replaces the first.

Two headers have the same table if they agree on what is said about the array and the partitions in
it (`Gpt.Header.SameTable`); where they stand, and where their arrays stand, may differ. On a
mirrored volume (`Contents.Mirrored`) the first header is trusted. If its sector is damaged, and
whatever else is, apart from the second header and its array (`Contents.Damaged`), the second one is
trusted. Then the volume has the GPT with the one header exactly if it has had the GPT with the
other (`Contents.Mirrored.hasGpt_iff`), and both have the same partitions.
-/
import VolumeScan.Proofs.Scan.Unhindered
import VolumeScan.Scratch.Heap

namespace VolumeScan

namespace Gpt.Header

/-- Two headers say the same about the entry array and about the partitions in it. -/
structure SameTable (header twin : Header) : Prop where
  firstUsableLba_eq : twin.firstUsableLba = header.firstUsableLba
  lastUsableLba_eq : twin.lastUsableLba = header.lastUsableLba
  entryCount_eq : twin.entryCount = header.entryCount
  entrySize_eq : twin.entrySize = header.entrySize
  entriesCrc_eq : twin.entriesCrc = header.entriesCrc

variable {header twin : Header}

theorem SameTable.usedEntries_eq (h : header.SameTable twin) (array : Bytes) :
    twin.usedEntries array = header.usedEntries array := by
  simp [usedEntries, entryAt?, h.entryCount_eq, h.entrySize_eq]

theorem SameTable.admits_iff (h : header.SameTable twin) (entry : Entry) :
    twin.Admits entry ↔ header.Admits entry := by
  simp [Admits, h.firstUsableLba_eq, h.lastUsableLba_eq]

theorem SameTable.partitions_eq (h : header.SameTable twin) (array : Bytes) (parent : Volume) :
    twin.partitions array parent = header.partitions array parent := by
  simp [Header.partitions, h.usedEntries_eq]

end Gpt.Header

namespace Contents

/-- The volume has a valid header in both places, the two have the same table, and both arrays are
there and are the same. -/
structure Mirrored (contents : Contents) (volume : Volume) (header twin : Gpt.Header) : Prop where
  primary : contents.HoldsHeader volume .primary header
  backup : contents.HoldsHeader volume .backup twin
  sameTable : header.SameTable twin
  arrays : ∃ array, contents.HoldsArray volume header array ∧ contents.HoldsArray volume twin array

/-- The volume is as large as before, and holds the same in its last sector and in the sectors of
the array that the header in there announces. Its second sector holds no valid header. -/
structure Damaged (contents damaged : Contents) (volume : Volume) (twin : Gpt.Header) : Prop where
  isSome_eq : ∀ pos, (damaged pos).isSome = (contents pos).isSome
  last_eq : ∀ pos, (volume.sectorCount.toNat - 1) * volume.sectorSize.toNat ≤ pos →
    pos < (volume.sectorCount.toNat - 1) * volume.sectorSize.toNat + volume.sectorSize.toNat →
    damaged pos = contents pos
  array_eq : ∀ pos, twin.entriesLba.toNat * volume.sectorSize.toNat ≤ pos →
    pos < twin.entriesLba.toNat * volume.sectorSize.toNat
      + Gpt.sectorsLen twin.arrayLen volume.sectorSize.toNat →
    damaged pos = contents pos
  rejected : ∀ header, ¬damaged.HoldsHeader volume .primary header

variable {contents damaged : Contents} {volume : Volume} {header twin : Gpt.Header}

/-- What can be read from a volume can be read from another one of the same size. -/
theorem isSome_read?_of_isSome_eq (h : ∀ pos, (damaged pos).isSome = (contents pos).isSome)
    (pos len : Nat) : (damaged.read? pos len).isSome ↔ (contents.read? pos len).isSome := by
  simp [isSome_read?_iff, h]

namespace Damaged

variable (h : contents.Damaged damaged volume twin)

include h

/-- The second header is where it was. -/
theorem holdsHeader_iff {other : Gpt.Header} :
    damaged.HoldsHeader volume .backup other ↔ contents.HoldsHeader volume .backup other := by
  have hread := read?_congr fun i hi =>
    h.last_eq _ (Nat.le_add_right _ i) (Nat.add_lt_add_left hi _)
  simp only [HoldsHeader, Gpt.HeaderCopy.lbas, hread]

/-- Its array is where it was. -/
theorem holdsArray_iff {array : Bytes} :
    damaged.HoldsArray volume twin array ↔ contents.HoldsArray volume twin array := by
  have hread := read?_congr fun i hi =>
    h.array_eq _ (Nat.le_add_right _ i) (Nat.add_lt_add_left hi _)
  simp only [HoldsArray, hread]

end Damaged

/-- **The volume has the GPT with the second header exactly if it has had the GPT with the
first.** -/
theorem Mirrored.hasGpt_iff (h : contents.Mirrored volume header twin)
    (hdamaged : contents.Damaged damaged volume twin) {array : Bytes} :
    damaged.HasGpt volume .backup twin array ↔ contents.HasGpt volume .primary header array := by
  obtain ⟨common, hheader, htwin⟩ := h.arrays
  have hreadable : ∀ pos len, (damaged.read? pos len).isSome ↔ (contents.read? pos len).isSome :=
    isSome_read?_of_isSome_eq hdamaged.isSome_eq
  constructor
  · intro hgpt
    have hcommon : array = common :=
      htwin.unique (hdamaged.holdsArray_iff.mp hgpt.holdsArray)
    exact {
      addressable := hgpt.addressable
      readable := fun copy => (hreadable _ _).mp (hgpt.readable copy)
      trusted := h.primary
      holdsArray := hcommon ▸ hheader
      crc_eq := h.sameTable.entriesCrc_eq ▸ hgpt.crc_eq
      admits := fun item hmem => (h.sameTable.admits_iff item.2).mp
        (hgpt.admits item (by rwa [h.sameTable.usedEntries_eq])) }
  · intro hgpt
    have hcommon : array = common := hheader.unique hgpt.holdsArray
    exact {
      addressable := hgpt.addressable
      readable := fun copy => (hreadable _ _).mpr (hgpt.readable copy)
      trusted := ⟨hdamaged.rejected, hdamaged.holdsHeader_iff.mpr h.backup⟩
      holdsArray := hdamaged.holdsArray_iff.mpr (hcommon ▸ htwin)
      crc_eq := h.sameTable.entriesCrc_eq ▸ hgpt.crc_eq
      admits := fun item hmem => (h.sameTable.admits_iff item.2).mpr
        (hgpt.admits item (by rwa [← h.sameTable.usedEntries_eq])) }

/-- Before the damage the first header is the one of the GPT. -/
theorem Mirrored.eq_primary (h : contents.Mirrored volume header twin) {slot : Gpt.HeaderCopy}
    {other : Gpt.Header} {array : Bytes} (hgpt : contents.HasGpt volume slot other array) :
    slot = .primary ∧ other = header := by
  have htrusts : contents.Trusts volume .primary header := h.primary
  exact htrusts.unique hgpt.trusted

/-- Behind it, the second one is. -/
theorem Mirrored.eq_backup (h : contents.Mirrored volume header twin)
    (hdamaged : contents.Damaged damaged volume twin) {slot : Gpt.HeaderCopy}
    {other : Gpt.Header} {array : Bytes} (hgpt : damaged.HasGpt volume slot other array) :
    slot = .backup ∧ other = twin := by
  have htrusts : damaged.Trusts volume .backup twin :=
    ⟨hdamaged.rejected, hdamaged.holdsHeader_iff.mpr h.backup⟩
  exact htrusts.unique hgpt.trusted

end Contents

namespace Scanner

variable {σ τ : Type}

/-- **The second copy replaces the first.** Take a device that was not scanned before and holds a
mirrored GPT, and the same device when the first header is damaged, and anything else apart from the
second header and its array. If the table announces a GPT, and in neither of the two detections a
request for memory or a read of bytes that are there fails, they have the same outcome: the
registries are the same, and if they succeed, their results only differ in the copy of the header
that was used. -/
theorem detect_backup_replaces_primary (env : Environment σ) (env' : Environment τ)
    (options : Options) (mbr : Mbr) (index : Nat) (registry : Registry) (state : σ) (state' : τ)
    {volume : Volume} (hat : registry.volumes[index]? = some volume)
    (hwhole : volume.partition = none) (hunknown : volume.kind = .unknown)
    (hpolicy : options.gpt = .revisionOne)
    (hprotective : ∃ entry ∈ mbr.entries.toList, entry.typeCode = 0xEE)
    {contents damaged : Contents} {header twin : Gpt.Header}
    (hmirrored : contents.Mirrored volume header twin)
    (hdamaged : contents.Damaged damaged volume twin)
    (hshows : env.Shows volume contents) (hshows' : env'.Shows volume damaged) :
    let pass := (Scanner.detect ⟨env, options⟩ mbr index).run registry state
    let pass' := (Scanner.detect ⟨env', options⟩ mbr index).run registry state'
    Event.Unhindered volume contents pass.events → Event.Unhindered volume damaged pass'.events →
      pass'.registry = pass.registry
        ∧ ((∃ error error', pass.result = .error error ∧ pass'.result = .error error')
          ∨ ∃ detection, pass.result = .ok detection ∧ detection.header = some .primary
            ∧ pass'.result = .ok { detection with header := some .backup }) := by
  intro pass pass' hunhindered hunhindered'
  have hannounced : options.gpt = .revisionOne ∧ mbr.protectiveIndex?.isSome :=
    ⟨hpolicy, Mbr.isSome_protectiveIndex?_iff.mpr hprotective⟩
  have hyields : ∀ {detection after},
      (Scanner.detect ⟨env, options⟩ mbr index).Yields registry state detection after ↔ _ :=
    yields_detect_hasGpt_iff hshows hat hwhole hunknown hannounced
  have hyields' : ∀ {detection after},
      (Scanner.detect ⟨env', options⟩ mbr index).Yields registry state' detection after ↔ _ :=
    yields_detect_hasGpt_iff hshows' hat hwhole hunknown hannounced
  -- The arrays and what is in them need not be sound: then there is a GPT on neither of the disks.
  by_cases hgpt : ∃ array, contents.HasGpt volume .primary header array
  · obtain ⟨array, hgpt⟩ := hgpt
    have hgpt' := (hmirrored.hasGpt_iff hdamaged).mpr hgpt
    obtain ⟨hok, hafter⟩ := hyields.mpr ⟨hunhindered, _, _, _, hgpt, rfl, rfl⟩
    obtain ⟨hok', hafter'⟩ := hyields'.mpr ⟨hunhindered', _, _, _, hgpt', rfl, rfl⟩
    rw [hmirrored.sameTable.partitions_eq] at hok' hafter'
    exact ⟨hafter'.trans hafter.symm, .inr ⟨_, hok, rfl, hok'⟩⟩
  · have hnone : ∀ slot other array, ¬contents.HasGpt volume slot other array := by
      intro slot other array h
      obtain ⟨rfl, rfl⟩ := hmirrored.eq_primary h
      exact hgpt ⟨array, h⟩
    have hnone' : ∀ slot other array, ¬damaged.HasGpt volume slot other array := by
      intro slot other array h
      obtain ⟨rfl, rfl⟩ := hmirrored.eq_backup hdamaged h
      exact hgpt ⟨array, (hmirrored.hasGpt_iff hdamaged).mp h⟩
    obtain ⟨⟨error, herror⟩, hkept⟩ : (∃ error, pass.result = .error error) ∧ _ :=
      detect_of_not_hasGpt hshows hat hwhole hunknown hannounced hnone
    obtain ⟨⟨error', herror'⟩, hkept'⟩ : (∃ error, pass'.result = .error error) ∧ _ :=
      detect_of_not_hasGpt hshows' hat hwhole hunknown hannounced hnone'
    exact ⟨hkept'.trans hkept.symm, .inl ⟨error, error', herror, herror'⟩⟩

theorem crc32Blanked_tinyBackup :
    crc32Blanked ((tinyBackup.encode [] 128).take 92) 0x10 0x14 = .ok 0x58FCE8F0 := by
  have hbefore : Crc32.update Crc32.initial (((tinyBackup.encode [] 128).take 92).take 0x10)
      = 0x0096CA1E := by decide +kernel
  have hbehind : Crc32.update 0x0BE51EA6 ((((tinyBackup.encode [] 128).take 92).drop 0x14).take 36)
      = 0x0370D671 := by decide +kernel
  exact crc32Blanked_of_registers 36 (by decide +kernel) hbefore (by decide +kernel) hbehind
    (by decide +kernel)

theorem validate_tinyBackup :
    Gpt.Header.validate (tinyBackup.encode [] 128) .backup 128 5 = .ok tinyBackup := by
  have hvalid : tinyBackup.Valid .backup 128 5 := by constructor <;> decide
  exact Gpt.Header.validate_encode hvalid rfl crc32Blanked_tinyBackup

/-- The sectors of the disk that are not empty. -/
theorem sectors_tinyDisk :
    let contents := (tinyDisks (tinyHeader.encode [] 128) tinyEntry.encode).contents tinyDisk
    contents.read? 128 128 = some (tinyHeader.encode [] 128)
      ∧ contents.read? 256 128 = some tinyEntry.encode
      ∧ contents.read? 512 128 = some (tinyBackup.encode [] 128) :=
  ⟨read?_tinyDisks length_tinyHeader length_tinyEntry 1 (by decide) rfl,
    read?_tinyDisks length_tinyHeader length_tinyEntry 2 (by decide) rfl,
    read?_tinyDisks length_tinyHeader length_tinyEntry 4 (by decide) rfl⟩

/-- How far the disk reaches. -/
theorem isSome_tinyDisks {second third : Bytes} (hsecond : second.length = 128)
    (hthird : third.length = 128) (pos : Nat) :
    ((tinyDisks second third).contents tinyDisk pos).isSome = decide (pos < 640) := by
  have hsize : (Device.ofArray (tinySectors second third).flatten.toArray).size = 640 := by
    rw [Device.ofArray, List.size_toArray, List.length_flatten,
      length_tinySectors hsecond hthird]
    rfl
  have hlen : tinyDisk.byteLen = 640 := by decide
  have hstart : tinyDisk.firstByte.toNat = 0 := rfl
  rw [Disks.contents_of_device rfl, hsize, hlen, hstart]
  by_cases hpos : pos < 640 <;> simp [hpos]

/-- The disk has both headers, of one array. -/
theorem mirrored_tinyDisk :
    ((tinyDisks (tinyHeader.encode [] 128) tinyEntry.encode).contents tinyDisk).Mirrored tinyDisk
      tinyHeader tinyBackup := by
  obtain ⟨hprimary, harray, hbackup⟩ := sectors_tinyDisk
  exact {
    primary := ⟨_, hprimary, validate_tinyHeader⟩
    backup := ⟨_, hbackup, validate_tinyBackup⟩
    sameTable := ⟨rfl, rfl, rfl, rfl, rfl⟩
    arrays := ⟨_, ⟨_, harray, rfl⟩, ⟨_, harray, rfl⟩⟩ }

/-- The disk with zeros in the place of the first header, and a heap that lends larger blocks than
it is asked for. -/
def wipedEnvironment : Environment Nat :=
  .ofDisks (tinyDisks (List.replicate 128 0) tinyEntry.encode) []
    (Heap.allocator { granule := 512, limit := 4096, shortfall := 0 })

/-- Zeros are no header. -/
theorem rejected_zeros (header : Gpt.Header) :
    Gpt.Header.validate (List.replicate 128 0) .primary 128 5 ≠ .ok header := by
  have hrejected : (Gpt.Header.validate (List.replicate 128 0) .primary 128 5).toBool = false := by
    decide +kernel
  intro hvalid
  rw [hvalid] at hrejected
  cases hrejected

theorem damaged_tinyDisk :
    ((tinyDisks (tinyHeader.encode [] 128) tinyEntry.encode).contents tinyDisk).Damaged
      ((tinyDisks (List.replicate 128 0) tinyEntry.encode).contents tinyDisk) tinyDisk
      tinyBackup := by
  have hzeros : (List.replicate 128 (0 : UInt8)).length = 128 := List.length_replicate
  constructor
  case isSome_eq =>
    intro pos
    rw [isSome_tinyDisks length_tinyHeader length_tinyEntry,
      isSome_tinyDisks hzeros length_tinyEntry]
  case last_eq =>
    intro pos
    exact Contents.eq_of_read?_eq
      (read?_tinyDisks length_tinyHeader length_tinyEntry 4 (by decide) rfl)
      (read?_tinyDisks hzeros length_tinyEntry 4 (by decide) rfl)
  case array_eq =>
    intro pos
    exact Contents.eq_of_read?_eq
      (read?_tinyDisks length_tinyHeader length_tinyEntry 2 (by decide) rfl)
      (read?_tinyDisks hzeros length_tinyEntry 2 (by decide) rfl)
  case rejected =>
    intro header hheader
    have hread : ((tinyDisks (List.replicate 128 0) tinyEntry.encode).contents tinyDisk).read?
        ((Gpt.HeaderCopy.primary.lbas tinyDisk.sectorCount.toNat).1 * tinyDisk.sectorSize.toNat)
        tinyDisk.sectorSize.toNat = some (List.replicate 128 0) :=
      read?_tinyDisks hzeros length_tinyEntry 1 (by decide) rfl
    exact rejected_zeros header ((Contents.holdsHeader_iff hread).mp hheader)

/-- The environment serves the GPT with the second header. -/
theorem servesGpt_wiped :
    wipedEnvironment.ServesGpt tinyDisk 0 .backup tinyBackup tinyEntry.encode := by
  have hchosen : (Gpt.chooseHeader (List.replicate 128 0) (tinyBackup.encode [] 128) 128 5).1
      = .ok (.backup, tinyBackup) := by
    refine Gpt.chooseHeader_eq_ok_iff.mpr (.inr ⟨rfl, ?_, validate_tinyBackup⟩)
    cases hvalid : Gpt.Header.validate (List.replicate 128 0) .primary 128 5 with
    | ok header => exact absurd hvalid (rejected_zeros header)
    | error error => exact ⟨error, rfl⟩
  have hused : tinyBackup.usedEntries tinyEntry.encode = [(0, tinyEntry)] := usedEntries_tinyHeader
  refine servesGpt_tinyDisks List.length_replicate length_tinyEntry _ [] 0 hchosen rfl (by decide)
    (by decide) rfl rfl rfl crc32_tinyEntry.symm ?_
  rw [hused]
  decide

/-- With the first header gone, the detection on the disk succeeds with the second one. -/
theorem detect_tinyDisk_damaged :
    let contents := (tinyDisks (tinyHeader.encode [] 128) tinyEntry.encode).contents tinyDisk
    let damaged := (tinyDisks (List.replicate 128 0) tinyEntry.encode).contents tinyDisk
    let pass := (Scanner.detect ⟨tinyEnvironment, {}⟩ tinyTable 0).run ⟨2, [tinyDisk]⟩ tinyPool
    let pass' := (Scanner.detect ⟨wipedEnvironment, {}⟩ tinyTable 0).run ⟨2, [tinyDisk]⟩ 0
    contents.Mirrored tinyDisk tinyHeader tinyBackup
      ∧ contents.Damaged damaged tinyDisk tinyBackup
      ∧ Event.Unhindered tinyDisk contents pass.events
      ∧ Event.Unhindered tinyDisk damaged pass'.events
      ∧ pass.result = .ok ⟨1, 1, .gptContainer, some .primary, false⟩
      ∧ pass'.result = .ok ⟨1, 1, .gptContainer, some .backup, false⟩
      ∧ pass'.registry = pass.registry := by
  intro contents damaged pass pass'
  have hprotective : ∃ entry ∈ tinyTable.entries.toList, entry.typeCode = 0xEE := by decide
  have hok : pass.result = .ok ⟨1, 1, .gptContainer, some .primary, false⟩ :=
    result_tinyDisks servesGpt_tinyDisk usedEntries_tinyHeader
  have hok' : pass'.result = .ok ⟨1, 1, .gptContainer, some .backup, false⟩ :=
    result_tinyDisks servesGpt_wiped usedEntries_tinyHeader
  have hunhindered := unhindered_of_detect hok tinyDisk contents
  have hunhindered' := unhindered_of_detect hok' tinyDisk damaged
  obtain ⟨hregistry, -⟩ := detect_backup_replaces_primary tinyEnvironment wipedEnvironment {}
    tinyTable 0 ⟨2, [tinyDisk]⟩ tinyPool 0 rfl rfl rfl rfl hprotective mirrored_tinyDisk
    damaged_tinyDisk (Environment.ofDisks_shows _ _ _ _) (Environment.ofDisks_shows _ _ _ _)
    hunhindered hunhindered'
  exact ⟨mirrored_tinyDisk, damaged_tinyDisk, hunhindered, hunhindered', hok, hok', hregistry⟩

end Scanner

end VolumeScan
