/-
VolumeScan.Proofs.Scan.GptDetection — what the detection of a GPT comes to.

`Environment.ReadsHeaders` and `Environment.ReadsArray` say what the environment has to provide, in
this order: two blocks of a sector, the sectors of both headers, a block of whole sectors for the
entry array, and these sectors. A detection succeeds exactly if all of that is provided, the first
header that is valid names an array with the announced checksum, and every used entry of the array
lies in the usable area. Its result and the registry behind it are then given by the bytes that were
read.
-/
import Mathlib.Data.List.Forall2
import VolumeScan.Proofs.Crc32
import VolumeScan.Proofs.Scan.Contents
import VolumeScan.Proofs.Scan.Detection
import VolumeScan.Scratch.Arena

namespace VolumeScan

namespace Environment

variable {σ : Type}

/-- The environment grants two blocks of a sector and reads both headers of the GPT on `volume`,
which has `total` sectors of `size` bytes, into them. The first header is the chosen one if it is
valid, and otherwise the second one, which has to be. -/
inductive ReadsHeaders (env : Environment σ) (volume : Volume) (size total : Nat) (state : σ) :
    Gpt.HeaderCopy → Gpt.Header → σ → Prop where
  | intro {slot : Gpt.HeaderCopy} {header : Gpt.Header} {first second : Grant}
      {primary backup : Bytes} {state₁ state₂ state₃ state₄ : σ}
      (firstBlock : env.Grants state size first state₁)
      (secondBlock : env.Grants state₁ size second state₂)
      (firstRead : env.Reads state₂ volume size size first primary state₃)
      (secondRead : env.Reads state₃ volume ((total - 1) * size) size second backup state₄)
      (chosen : (slot = .primary
          ∧ Gpt.Header.validate primary .primary size total = .ok header)
        ∨ (slot = .backup
          ∧ (∃ error, Gpt.Header.validate primary .primary size total = .error error)
          ∧ Gpt.Header.validate backup .backup size total = .ok header)) :
      ReadsHeaders env volume size total state slot header state₄

/-- The environment grants a block for the entry array of `header`, rounded up to whole sectors, and
reads the array into it. -/
inductive ReadsArray (env : Environment σ) (volume : Volume) (size : Nat) (header : Gpt.Header)
    (state : σ) : Bytes → σ → Prop where
  | intro {len : Nat} {block : Grant} {sectors : Bytes} {state₁ state₂ : σ}
      (whole : size ∣ len) (enough : header.arrayLen ≤ len) (least : len < header.arrayLen + size)
      (granted : env.Grants state len block state₁)
      (read : env.Reads state₁ volume (header.entriesLba.toNat * size) len block sectors state₂) :
      ReadsArray env volume size header state (sectors.take header.arrayLen) state₂

end Environment

namespace Scanner

open VolumeScan.Action

variable {σ α : Type} {scanner : Scanner σ} {registry after : Registry} {state : σ}
  {parent : Volume} {a : α}

/-- The chosen header is handed on once both were read. -/
theorem yields_withHeader_iff {body : Gpt.HeaderCopy → Gpt.Header → Action σ α} :
    (scanner.withHeader parent body).Yields registry state a after ↔
      1 ≤ parent.sectorCount.toNat
        ∧ (parent.sectorCount.toNat - 1) * parent.sectorSize.toNat < wordLimit
        ∧ ∃ slot header state', scanner.env.ReadsHeaders parent parent.sectorSize.toNat
            parent.sectorCount.toNat state slot header state'
          ∧ (body slot header).Yields registry state' a after := by
  simp only [withHeader, yields_lift_bind_iff, yields_withBuffer_iff, yields_fill_bind_iff,
    yields_log_bind_iff, require_eq_ok_iff, exists_const, Gpt.byteOf_eq_ok_iff]
  constructor
  · intro h
    obtain ⟨htotal, first, state₁, hfirst, second, state₂, hsecond, h⟩ := h
    obtain ⟨-, primary, state₃, hprimary, _, ⟨hlast, rfl⟩, h⟩ := h
    obtain ⟨-, backup, state₄, hbackup, ⟨slot, header⟩, hchosen, hbody⟩ := h
    rw [Gpt.chooseHeader_append hprimary.length_eq hbackup.length_eq] at hchosen
    have hreads := Environment.ReadsHeaders.intro hfirst hsecond hprimary hbackup
      (Gpt.chooseHeader_eq_ok_iff.mp hchosen)
    exact ⟨htotal, hlast, slot, header, state₄, hreads, hbody⟩
  · intro h
    obtain ⟨htotal, hlast, slot, header, state₄, hreads, hbody⟩ := h
    obtain ⟨hfirst, hsecond, hprimary, hbackup, hchosen⟩ := hreads
    refine ⟨htotal, _, _, hfirst, _, _, hsecond, hfirst.size_le, _, _, hprimary, ?_⟩
    refine ⟨_, ⟨hlast, rfl⟩, hsecond.size_le, _, _, hbackup, (slot, header), ?_, hbody⟩
    rw [Gpt.chooseHeader_append hprimary.length_eq hbackup.length_eq]
    exact Gpt.chooseHeader_eq_ok_iff.mpr hchosen

/-- The array of a valid header is handed on once it was read, if it is admitted. -/
theorem yields_withTable_iff {slot : Gpt.HeaderCopy} {header : Gpt.Header}
    (hvalid : header.Valid slot parent.sectorSize.toNat parent.sectorCount.toNat)
    (hlast : (parent.sectorCount.toNat - 1) * parent.sectorSize.toNat < wordLimit)
    {body : Bytes → Action σ α} :
    (scanner.withTable parent header body).Yields registry state a after ↔
      ∃ array state',
        scanner.env.ReadsArray parent parent.sectorSize.toNat header state array state'
        ∧ header.entriesCrc = crc32 array
        ∧ (∀ item ∈ header.usedEntries array, header.Admits item.2)
        ∧ (body array).Yields registry state' a after := by
  have hslack : header.arrayLen + (parent.sectorSize.toNat - 1) < wordLimit :=
    header.arrayLen_add_lt (Nat.lt_of_le_of_lt (Nat.sub_le _ _) parent.sectorSize.toNat_lt)
  have hstart : header.entriesLba.toNat * parent.sectorSize.toNat < wordLimit :=
    Gpt.Header.mul_lt_wordLimit hlast (Nat.le_of_lt hvalid.entriesLba_lt)
  have hchecked : ∀ {sectors : Bytes}, header.arrayLen ≤ sectors.length →
      (header.admitArray (sectors.take header.arrayLen) = .ok () ↔
        header.entriesCrc = crc32 (sectors.take header.arrayLen)
          ∧ ∀ item ∈ header.usedEntries (sectors.take header.arrayLen), header.Admits item.2) :=
    fun hle => Gpt.Header.admitArray_eq_ok_iff (List.length_take_of_le hle) hvalid.entrySize_ge
  simp only [withTable, yields_lift_bind_iff, yields_withBuffer_iff, yields_fill_bind_iff,
    Gpt.byteOf_eq_ok_iff, Gpt.wholeSectors_eq_ok_iff hvalid.sectorSize_pos hslack]
  constructor
  · intro h
    obtain ⟨len, ⟨hwhole, henough, hleast⟩, block, state₁, hblock, _, ⟨-, rfl⟩, h⟩ := h
    obtain ⟨-, sectors, state₂, hread, array, harray, _, hadmitted, hbody⟩ := h
    have hle := Nat.le_trans henough (Nat.le_of_eq hread.length_eq.symm)
    rw [Bytes.slice_append_of_le hle] at harray
    cases harray
    obtain ⟨hcrc, hadmits⟩ := (hchecked hle).mp hadmitted
    exact ⟨_, state₂, .intro hwhole henough hleast hblock hread, hcrc, hadmits, hbody⟩
  · intro h
    obtain ⟨_, state₂, ⟨hwhole, henough, hleast, hblock, hread⟩, hcrc, hadmits, hbody⟩ := h
    have hle := Nat.le_trans henough (Nat.le_of_eq hread.length_eq.symm)
    refine ⟨_, ⟨hwhole, henough, hleast⟩, _, _, hblock, _, ⟨hstart, rfl⟩, ?_⟩
    refine ⟨hblock.size_le, _, _, hread, _, Bytes.slice_append_of_le hle _, (), ?_, hbody⟩
    exact (hchecked hle).mpr ⟨hcrc, hadmits⟩

end Scanner

namespace Environment

variable {σ : Type}

/-- Everything that the detection of a GPT on `volume` needs: there are sectors, the last of which
has a 64-bit address; the environment reads the headers and the array that the chosen one announces;
and the array has the announced checksum and no used entry outside the usable area. -/
def ServesGpt (env : Environment σ) (volume : Volume) (state : σ) (slot : Gpt.HeaderCopy)
    (header : Gpt.Header) (array : Bytes) : Prop :=
  let size := volume.sectorSize.toNat
  let total := volume.sectorCount.toNat
  1 ≤ total ∧ (total - 1) * size < 2 ^ 64
    ∧ ∃ state₁ state₂, env.ReadsHeaders volume size total state slot header state₁
      ∧ env.ReadsArray volume size header state₁ array state₂
      ∧ header.entriesCrc = crc32 array
      ∧ ∀ index entry, (index, entry) ∈ header.usedEntries array →
        header.firstUsableLba ≤ entry.firstLba ∧ entry.firstLba ≤ entry.lastLba
          ∧ entry.lastLba ≤ header.lastUsableLba

/-- The header that was chosen is valid. -/
theorem ReadsHeaders.valid {env : Environment σ} {volume : Volume} {size total : Nat}
    {state state' : σ} {slot : Gpt.HeaderCopy} {header : Gpt.Header}
    (h : env.ReadsHeaders volume size total state slot header state') :
    header.Valid slot size total := by
  obtain ⟨-, -, -, -, hchosen⟩ := h
  exact Gpt.valid_of_chooseHeader (Gpt.chooseHeader_eq_ok_iff.mpr hchosen)

/-- One header is chosen. -/
theorem ReadsHeaders.unique {env : Environment σ} {volume : Volume} {size total : Nat}
    {state first second : σ} {slot slot' : Gpt.HeaderCopy} {header header' : Gpt.Header}
    (h : env.ReadsHeaders volume size total state slot header first)
    (h' : env.ReadsHeaders volume size total state slot' header' second) :
    slot = slot' ∧ header = header' ∧ first = second := by
  obtain ⟨hblock₁, hblock₂, hread₁, hread₂, hchosen⟩ := h
  obtain ⟨hblock₁', hblock₂', hread₁', hread₂', hchosen'⟩ := h'
  obtain ⟨rfl, rfl⟩ := hblock₁.unique hblock₁'
  obtain ⟨rfl, rfl⟩ := hblock₂.unique hblock₂'
  obtain ⟨rfl, rfl⟩ := hread₁.unique hread₁'
  obtain ⟨rfl, rfl⟩ := hread₂.unique hread₂'
  have hsame := Gpt.chooseHeader_eq_ok_iff.mpr hchosen
  rw [Gpt.chooseHeader_eq_ok_iff.mpr hchosen'] at hsame
  cases hsame
  exact ⟨rfl, rfl, rfl⟩

/-- One array is read. -/
theorem ReadsArray.unique {env : Environment σ} {volume : Volume} {size : Nat}
    {header : Gpt.Header} {state first second : σ} {array array' : Bytes} (hsize : 0 < size)
    (h : env.ReadsArray volume size header state array first)
    (h' : env.ReadsArray volume size header state array' second) :
    array = array' ∧ first = second := by
  obtain ⟨hwhole, henough, hleast, hblock, hread⟩ := h
  obtain ⟨hwhole', henough', hleast', hblock', hread'⟩ := h'
  have hlen := (Gpt.sectorsLen_eq_iff hsize).mpr ⟨hwhole, henough, hleast⟩
  have hlen' := (Gpt.sectorsLen_eq_iff hsize).mpr ⟨hwhole', henough', hleast'⟩
  obtain rfl := hlen.symm.trans hlen'
  obtain ⟨rfl, rfl⟩ := hblock.unique hblock'
  obtain ⟨rfl, rfl⟩ := hread.unique hread'
  exact ⟨rfl, rfl⟩

/-- The array that is read has the announced length. -/
theorem ReadsArray.length_eq {env : Environment σ} {volume : Volume} {size : Nat}
    {header : Gpt.Header} {state state' : σ} {array : Bytes}
    (h : env.ReadsArray volume size header state array state') :
    array.length = header.arrayLen := by
  obtain ⟨-, henough, -, -, hread⟩ := h
  exact List.length_take_of_le (Nat.le_trans henough (Nat.le_of_eq hread.length_eq.symm))

end Environment

namespace Scanner

open VolumeScan.Action

variable {σ : Type} {scanner : Scanner σ} {registry after : Registry} {state : σ}
  {parent : Volume}

/-- Behind the check of the array nothing fails, and the array alone decides what is registered. -/
theorem yields_enlistArray_iff {slot : Gpt.HeaderCopy} {header : Gpt.Header} {array : Bytes}
    (hvalid : header.Valid slot parent.sectorSize.toNat parent.sectorCount.toNat)
    (hlast : (parent.sectorCount.toNat - 1) * parent.sectorSize.toNat < wordLimit)
    (hlength : array.length = header.arrayLen)
    (hadmits : ∀ item ∈ header.usedEntries array, header.Admits item.2) {enlisted : Enlisted} :
    (do
      Action.log [.gptDisk slot header]
      let used ← header.entries array
      let truncated ← enlistAll .gpt (fun (index, entry) => entry.partition parent index) used
      return ⟨.gpt, some slot, truncated⟩ : Action σ Enlisted).Yields
        registry state enlisted after ↔
      enlisted = ⟨.gpt, some slot,
          decide (registry.room < (header.partitions array parent).length)⟩
        ∧ after = registry.extend ((header.partitions array parent).map (·.volume)) := by
  have hentries := Gpt.Header.entries_eq hlength hvalid.entrySize_ge
  have hdescribe := Gpt.Header.map_partition hvalid hlast hadmits
  simp only [yields_log_bind_iff, yields_lift_bind_iff, hentries, Except.ok.injEq, exists_eq_left',
    yields_enlistAll_bind_iff hdescribe, yields_pure_iff]
  rw [eq_comm, eq_comm (b := after)]

/-- Registering the partitions of a GPT comes down to what the environment serves. -/
theorem yields_enlistGpt_iff {enlisted : Enlisted} :
    (scanner.enlistGpt parent).Yields registry state enlisted after ↔
      ∃ slot header array, scanner.env.ServesGpt parent state slot header array
        ∧ enlisted = ⟨.gpt, some slot,
            decide (registry.room < (header.partitions array parent).length)⟩
        ∧ after = registry.extend ((header.partitions array parent).map (·.volume)) := by
  unfold enlistGpt
  rw [yields_withHeader_iff]
  constructor
  · intro h
    obtain ⟨htotal, hlast, slot, header, state₁, hheaders, htable⟩ := h
    have hvalid := hheaders.valid
    rw [yields_withTable_iff hvalid hlast] at htable
    obtain ⟨array, state₂, harray, hcrc, hadmits, hbody⟩ := htable
    rw [yields_enlistArray_iff hvalid hlast harray.length_eq hadmits] at hbody
    exact ⟨slot, header, array, ⟨htotal, hlast, state₁, state₂, hheaders, harray, hcrc,
      fun index entry hmem => hadmits _ hmem⟩, hbody⟩
  · intro h
    obtain ⟨slot, header, array, hserves, hbody⟩ := h
    obtain ⟨htotal, hlast, state₁, state₂, hheaders, harray, hcrc, hentries⟩ := hserves
    have hvalid := hheaders.valid
    have hadmits : ∀ item ∈ header.usedEntries array, header.Admits item.2 :=
      fun item hmem => hentries item.1 item.2 hmem
    refine ⟨htotal, hlast, slot, header, state₁, hheaders, ?_⟩
    rw [yields_withTable_iff hvalid hlast]
    refine ⟨array, state₂, harray, hcrc, hadmits, ?_⟩
    rw [yields_enlistArray_iff hvalid hlast harray.length_eq hadmits]
    exact hbody

/-- A detection succeeds exactly if the partitions of the table can be registered and the device can
then be classified. -/
theorem yields_detect_iff {mbr : Mbr} {index : Nat} {volume : Volume}
    (hat : registry.volumes[index]? = some volume) (hwhole : volume.partition = none)
    (hunknown : volume.kind = .unknown) {detection : Detection} :
    (scanner.detect mbr index).Yields registry state detection after ↔
      ∃ enlisted middle, (scanner.enlist mbr volume).Yields registry state enlisted middle
        ∧ middle.classify index enlisted.scheme.container = .ok after
        ∧ exactSub after.size registry.size = .ok detection.added
        ∧ detection = {
            first := registry.size
            added := detection.added
            kind := enlisted.scheme.container
            header := enlisted.header
            truncated := enlisted.truncated } := by
  have hvolume := Registry.volume_eq_ok_iff.mpr hat
  simp only [detect, yields_current_bind_iff, yields_lift_bind_iff, hvolume, Except.ok.injEq,
    exists_eq_left', require_eq_ok_iff, hwhole, hunknown, and_self, true_and, exists_const]
  rw [yields_bind_iff]
  simp only [yields_classify_bind_iff, yields_current_bind_iff, yields_lift_bind_iff,
    yields_pure_iff]
  constructor
  · intro h
    obtain ⟨enlisted, middle, _, ⟨hok, hmiddle, -⟩, after', hclassify, added, hadded, h⟩ := h
    obtain ⟨rfl, rfl⟩ := h
    exact ⟨enlisted, middle, ⟨hok, hmiddle⟩, hclassify, hadded, rfl⟩
  · intro h
    obtain ⟨enlisted, middle, ⟨hok, hmiddle⟩, hclassify, hadded, hdetection⟩ := h
    exact ⟨enlisted, middle, _, ⟨hok, hmiddle, rfl⟩, after, hclassify, _, hadded,
      hdetection.symm, rfl⟩

/-- What is left of a detection, once partitions were appended, does not fail. -/
theorem classified_extend_iff {index : Nat} {volume : Volume}
    (hat : registry.volumes[index]? = some volume) (hwhole : volume.partition = none)
    (hunknown : volume.kind = .unknown) {volumes : List Volume} {enlisted : Enlisted}
    {detection : Detection} :
    ((registry.extend volumes).classify index enlisted.scheme.container = .ok after
        ∧ exactSub after.size registry.size = .ok detection.added
        ∧ detection = {
            first := registry.size
            added := detection.added
            kind := enlisted.scheme.container
            header := enlisted.header
            truncated := enlisted.truncated }) ↔
      detection = {
          first := registry.size
          added := (volumes.take registry.room).length
          kind := enlisted.scheme.container
          header := enlisted.header
          truncated := enlisted.truncated }
        ∧ after = { registry with
            volumes := registry.volumes.set index { volume with kind := enlisted.scheme.container }
              ++ volumes.take registry.room } := by
  rw [Registry.classify_extend hat hwhole hunknown]
  constructor
  · intro h
    obtain ⟨hclassify, hadded, hdetection⟩ := h
    cases hclassify
    rw [exactSub_grown, Except.ok.injEq] at hadded
    rw [← hadded] at hdetection
    exact ⟨hdetection, rfl⟩
  · intro h
    obtain ⟨rfl, rfl⟩ := h
    exact ⟨rfl, exactSub_grown _ _ _ _, rfl⟩

end Scanner

/-! ## The partitions, in exact numbers -/

/-- The volume is the partition that this entry at this place of the array describes: its numbers
are those of the entry, in exact arithmetic, and what belongs to the device is the parent's. -/
structure Gpt.Entry.Describes (entry : Gpt.Entry) (index : Nat) (parent partition : Volume) :
    Prop where
  number_eq : partition.partition.map UInt32.toNat = some index
  firstByte_eq : partition.firstByte.toNat
    = parent.firstByte.toNat + entry.firstLba.toNat * parent.sectorSize.toNat
  sectorCount_eq : partition.sectorCount.toNat = entry.lastLba.toNat - entry.firstLba.toNat + 1
  kind_eq : partition.kind = VolumeKind.ofTypeGuid entry.typeGuid
  device_eq : partition = { parent with
    partition := partition.partition
    firstByte := partition.firstByte
    sectorCount := partition.sectorCount
    kind := partition.kind }

/-- A used entry that is admitted describes its part. -/
theorem Gpt.Entry.describes_part {header : Gpt.Header} {slot : Gpt.HeaderCopy} {parent : Volume}
    (hvalid : header.Valid slot parent.sectorSize.toNat parent.sectorCount.toNat)
    (hlast : (parent.sectorCount.toNat - 1) * parent.sectorSize.toNat < wordLimit)
    (hend : parent.firstByte.toNat + parent.byteLen < wordLimit) {array : Bytes} {index : Nat}
    {entry : Gpt.Entry} (hmem : (index, entry) ∈ header.usedEntries array)
    (hadmits : header.Admits entry) :
    entry.Describes index parent (entry.part parent index).volume := by
  obtain ⟨hindex, -, -⟩ := Gpt.Header.mem_usedEntries_iff.mp hmem
  have hinside := Gpt.Entry.part_end_le hvalid hlast hadmits
  exact {
    number_eq := Volume.map_toNat_partition_part index entry.kind
      (Nat.lt_trans hindex header.entryCount.toNat_lt)
    firstByte_eq := Volume.toNat_firstByte_part index entry.kind hend hinside
    sectorCount_eq := Volume.toNat_sectorCount_part index entry.kind hvalid.sectorSize_pos hinside
    kind_eq := rfl
    device_eq := rfl }

/-- The partitions of a served GPT are those that its used entries describe, in order. -/
theorem Gpt.Header.forall₂_partitions {header : Gpt.Header} {slot : Gpt.HeaderCopy}
    {parent : Volume} (hvalid : header.Valid slot parent.sectorSize.toNat parent.sectorCount.toNat)
    (hlast : (parent.sectorCount.toNat - 1) * parent.sectorSize.toNat < wordLimit)
    (hend : parent.firstByte.toNat + parent.byteLen < wordLimit) {array : Bytes}
    (hadmits : ∀ item ∈ header.usedEntries array, header.Admits item.2) :
    List.Forall₂ (fun item partition => Gpt.Entry.Describes item.2 item.1 parent partition)
      (header.usedEntries array) ((header.partitions array parent).map (·.volume)) := by
  rw [Gpt.Header.partitions, List.map_map, List.forall₂_map_right_iff, List.forall₂_same]
  intro item hmem
  exact Gpt.Entry.describes_part hvalid hlast hend hmem (hadmits _ hmem)

namespace Scanner

open VolumeScan.Action

variable {σ : Type}

/-- A detection on a device whose table announces a GPT yields exactly what follows from the bytes
that the environment serves. -/
theorem yields_detect_gpt_iff {scanner : Scanner σ} {mbr : Mbr} {index : Nat} {registry : Registry}
    {state : σ} {volume : Volume} (hat : registry.volumes[index]? = some volume)
    (hwhole : volume.partition = none) (hunknown : volume.kind = .unknown)
    (hannounced : scanner.options.gpt = .revisionOne ∧ mbr.protectiveIndex?.isSome)
    {detection : Detection} {after : Registry} :
    (scanner.detect mbr index).Yields registry state detection after ↔
      ∃ slot header array, scanner.env.ServesGpt volume state slot header array
        ∧ detection = {
            first := registry.size
            added := (((header.partitions array volume).map (·.volume)).take registry.room).length
            kind := .gptContainer
            header := some slot
            truncated := decide (registry.room < (header.partitions array volume).length) }
        ∧ after = { registry with
            volumes := registry.volumes.set index { volume with kind := .gptContainer }
              ++ ((header.partitions array volume).map (·.volume)).take registry.room } := by
  rw [yields_detect_iff hat hwhole hunknown, enlist, if_pos hannounced]
  simp only [yields_enlistGpt_iff]
  constructor
  · intro h
    obtain ⟨_, _, ⟨slot, header, array, hserves, rfl, rfl⟩, h⟩ := h
    exact ⟨slot, header, array, hserves, (classified_extend_iff hat hwhole hunknown).mp h⟩
  · intro h
    obtain ⟨slot, header, array, hserves, h⟩ := h
    exact ⟨_, _, ⟨slot, header, array, hserves, rfl, rfl⟩,
      (classified_extend_iff hat hwhole hunknown).mpr h⟩

/-- **What the detection of a GPT comes to.** Take a device that was not scanned before and ends at
a 64-bit address, and a legacy table that announces a GPT. The detection succeeds exactly if the
environment serves a GPT. Then as many of the partitions described by its used entries as there is
room for are appended in the order of the array, and the device is classified. -/
theorem detect_gpt_iff (scanner : Scanner σ) (mbr : Mbr) (index : Nat) (registry : Registry)
    (state : σ) {volume : Volume} (hat : registry.volumes[index]? = some volume)
    (hwhole : volume.partition = none) (hunknown : volume.kind = .unknown)
    (hend : volume.firstByte.toNat + volume.byteLen ≤ 2 ^ 64 - 1)
    (hpolicy : scanner.options.gpt = .revisionOne)
    (hprotective : ∃ entry ∈ mbr.entries.toList, entry.typeCode = 0xEE) :
    let pass := (scanner.detect mbr index).run registry state
    let room := registry.capacity - registry.size
    ((∃ detection, pass.result = .ok detection) ↔
        ∃ slot header array, scanner.env.ServesGpt volume state slot header array)
      ∧ ∀ slot header array, scanner.env.ServesGpt volume state slot header array →
        ∃ partitions, List.Forall₂
            (fun item partition => Gpt.Entry.Describes item.2 item.1 volume partition)
            (header.usedEntries array) partitions
          ∧ pass.registry = { registry with
              volumes := registry.volumes.set index { volume with kind := .gptContainer }
                ++ partitions.take room }
          ∧ pass.result = .ok {
              first := registry.size
              added := min room partitions.length
              kind := .gptContainer
              header := some slot
              truncated := decide (room < partitions.length) } := by
  intro pass room
  have hannounced : scanner.options.gpt = .revisionOne ∧ mbr.protectiveIndex?.isSome := by
    obtain ⟨entry, hmem, hcode⟩ := hprotective
    refine ⟨hpolicy, ?_⟩
    rw [Mbr.protectiveIndex?, List.findIdx?_isSome, List.any_eq_true]
    exact ⟨entry, hmem, decide_eq_true hcode⟩
  have hyields : ∀ {detection after},
      (scanner.detect mbr index).Yields registry state detection after ↔ _ :=
    yields_detect_gpt_iff hat hwhole hunknown hannounced
  refine ⟨?_, fun slot header array hserves => ?_⟩
  · constructor
    · intro h
      obtain ⟨detection, hok⟩ := h
      obtain ⟨slot, header, array, hserves, -⟩ := hyields.mp ⟨hok, rfl⟩
      exact ⟨slot, header, array, hserves⟩
    · intro h
      obtain ⟨slot, header, array, hserves⟩ := h
      exact ⟨_, (hyields.mpr ⟨slot, header, array, hserves, rfl, rfl⟩).1⟩
  · obtain ⟨hok, hafter⟩ := hyields.mpr ⟨slot, header, array, hserves, rfl, rfl⟩
    obtain ⟨-, hlast, _, _, hheaders, -, -, hentries⟩ := hserves
    refine ⟨(header.partitions array volume).map Partition.volume, ?_, hafter, ?_⟩
    · exact Gpt.Header.forall₂_partitions hheaders.valid hlast (by unfold wordLimit; omega)
        fun item hmem => hentries item.1 item.2 hmem
    · rw [List.length_take, List.length_map] at hok
      rw [List.length_map]
      exact hok

/-! ## A disk with one partition -/

/-- A disk of five sectors of 128 bytes. -/
def tinyDisk : Volume where
  method := .memory
  deviceId := 0
  partition := none
  alignment := 1
  sectorSize := 128
  mediaId := 0
  sectorCount := 5
  firstByte := 0
  kind := .unknown

/-- The legacy table in its first sector, which announces a GPT. -/
def tinyTable : Mbr :=
  let unused : Mbr.Entry := ⟨0x00, ⟨0, 0, 0⟩, 0x00, ⟨0, 0, 0⟩, 0, 0⟩
  ⟨#v[⟨0x00, ⟨0, 0, 0⟩, 0xEE, ⟨0, 0, 0⟩, 1, 4⟩, unused, unused, unused], Mbr.bootSignature⟩

/-- The header in its second sector, of an array with one entry. -/
def tinyHeader : Gpt.Header where
  revision := 0x10000
  headerSize := 92
  headerCrc := 0x2539AE2A
  myLba := 1
  alternateLba := 4
  firstUsableLba := 3
  lastUsableLba := 3
  diskGuid := Guid.unused
  entriesLba := 2
  entryCount := 1
  entrySize := 128
  entriesCrc := 0x0770AE9D

/-- The second header, in its last sector. It names the same array. -/
def tinyBackup : Gpt.Header :=
  { tinyHeader with headerCrc := 0x58FCE8F0, myLba := 4, alternateLba := 1 }

/-- The entry in its third sector, of a partition of one sector. -/
def tinyEntry : Gpt.Entry where
  typeGuid := Guid.efiSystem
  partitionGuid := Guid.unused
  firstLba := 3
  lastLba := 3
  attributes := 0
  units := Vector.replicate 36 0

/-- The sectors of a disk like `tinyDisk`, with these bytes in the places of the first header and of
the array. -/
def tinySectors (second third : Bytes) : List Bytes :=
  [List.replicate 128 0, second, third, List.replicate 128 0, tinyBackup.encode [] 128]

/-- A device of these sectors. -/
def tinyDisks (second third : Bytes) : Disks :=
  ⟨.hosted, [Device.ofArray (tinySectors second third).flatten.toArray]⟩

/-- The disk, and an arena. -/
def tinyEnvironment : Environment Pool :=
  .ofDisks (tinyDisks (tinyHeader.encode [] 128) tinyEntry.encode) [] Pool.allocator

/-- The arena as it is at first. It has room for four sectors, and holds no zeros. -/
def tinyPool : Pool := Pool.ofRegion 0 512 0xFF

section

variable {second third : Bytes} (hsecond : second.length = 128) (hthird : third.length = 128)

include hsecond hthird

/-- All sectors have the same size. -/
theorem length_tinySectors : (tinySectors second third).map List.length = List.replicate 5 128 := by
  have hbackup : (tinyBackup.encode [] 128).length = 128 := tinyBackup.length_encode (by decide)
  simp only [tinySectors, List.map_cons, List.map_nil, List.length_replicate, hsecond, hthird,
    hbackup]
  rfl

/-- What the disk holds in a sector. -/
theorem read?_tinyDisks (index : Nat) (hindex : index < 5) {sector : Bytes}
    (hat : (tinySectors second third)[index]? = some sector) :
    ((tinyDisks second third).contents tinyDisk).read? (index * 128) 128 = some sector := by
  refine Disks.read?_sector rfl rfl ?_ hat (Nat.mul_le_mul_right 128 hindex)
  intro sector hmem
  have hsize := List.mem_map_of_mem (f := List.length) hmem
  rw [length_tinySectors hsecond hthird] at hsize
  exact List.eq_of_mem_replicate hsize

variable {σ : Type} (scratch : Allocator σ) (broken : List (UInt32 × Nat)) (state : σ)
  {slot : Gpt.HeaderCopy} {header : Gpt.Header}
  (hchosen : (Gpt.chooseHeader second (tinyBackup.encode [] 128) 128 5).1 = .ok (slot, header))
  (hstart : header.entriesLba = 2) (hlen : header.arrayLen = 128)
  (hsound : ∀ pos ∈ [128, 256, 512], (0, pos) ∉ broken)
  {first last block : Grant} {state₁ state₂ state₃ : σ}
  (hfirst : scratch.acquire state 128 = (.whole first, state₁))
  (hlast : scratch.acquire state₁ 128 = (.whole last, state₂))
  (hblock : scratch.acquire (scratch.store (scratch.store state₂ first 0 second) last 0
    (tinyBackup.encode [] 128)) 128 = (.whole block, state₃))

include hchosen hstart hlen hsound hfirst hlast hblock

/-- The headers and an array of one sector are read from the disk, if the header to trust names the
third sector, there is room for three sectors, and none of those that are read is broken. -/
theorem reads_tinyDisks :
    let env := Environment.ofDisks (tinyDisks second third) broken scratch
    ∃ read after, env.ReadsHeaders tinyDisk 128 5 state slot header read
      ∧ env.ReadsArray tinyDisk 128 header read third after := by
  intro env
  have hend : tinyDisk.firstByte.toNat + tinyDisk.byteLen < wordLimit := by decide
  have hreads : ∀ index sector, (tinySectors second third)[index]? = some sector → index < 5 →
      index * 128 ∈ [128, 256, 512] → ∀ state buffer,
      env.Reads state tinyDisk (index * 128) 128 buffer sector
        (scratch.store state buffer 0 sector) :=
    fun index sector hat hindex hmem => Environment.ofDisks_reads (by decide) hend
      (hsound _ hmem) (read?_tinyDisks hsecond hthird index hindex hat)
  have hread : env.Reads state₃ tinyDisk (header.entriesLba.toNat * 128) 128 block third
      (scratch.store state₃ block 0 third) := by
    rw [hstart]
    exact hreads 2 third rfl (by decide) (by decide) _ _
  have harray := Environment.ReadsArray.intro (Nat.dvd_refl 128) (Nat.le_of_eq hlen)
    (by rw [hlen]; decide) (Environment.grants_iff.mpr hblock) hread
  rw [List.take_of_length_le (Nat.le_of_eq (hthird.trans hlen.symm))] at harray
  exact ⟨_, _, .intro (Environment.grants_iff.mpr hfirst) (Environment.grants_iff.mpr hlast)
    (hreads 1 second rfl (by decide) (by decide) _ _)
    (hreads 4 (tinyBackup.encode [] 128) rfl (by decide) (by decide) _ _)
    (Gpt.chooseHeader_eq_ok_iff.mp hchosen), harray⟩

/-- If the array is admitted, there is a GPT on the disk. -/
theorem servesGpt_tinyDisks (hcrc : header.entriesCrc = crc32 third)
    (hadmits : ∀ item ∈ header.usedEntries third, header.Admits item.2) :
    (Environment.ofDisks (tinyDisks second third) broken scratch).ServesGpt tinyDisk state slot
      header third := by
  obtain ⟨_, _, hheaders, harray⟩ := reads_tinyDisks hsecond hthird scratch broken state hchosen
    hstart hlen hsound hfirst hlast hblock
  exact ⟨by decide, by decide, _, _, hheaders, harray, hcrc,
    fun index entry hmem => hadmits (index, entry) hmem⟩

end

-- A register that is fed more than some fifty bytes at once is too deep a term to be evaluated.
theorem crc32_tinyEntry : crc32 tinyEntry.encode = 0x0770AE9D := by
  have hfirst : Crc32.update Crc32.initial (tinyEntry.encode.take 40) = 0x5CAB4760 := by
    decide +kernel
  have hsecond : Crc32.update 0x5CAB4760 ((tinyEntry.encode.drop 40).take 44) = 0x258B66CF := by
    decide +kernel
  rw [crc32, Crc32.update_take_drop 40, hfirst, Crc32.update_take_drop 44, hsecond]
  decide +kernel

theorem crc32Blanked_tinyHeader :
    crc32Blanked ((tinyHeader.encode [] 128).take 92) 0x10 0x14 = .ok 0x2539AE2A := by
  have hbefore : Crc32.update Crc32.initial (((tinyHeader.encode [] 128).take 92).take 0x10)
      = 0x0096CA1E := by decide +kernel
  have hbehind : Crc32.update 0x0BE51EA6 ((((tinyHeader.encode [] 128).take 92).drop 0x14).take 36)
      = 0x6B033289 := by decide +kernel
  exact crc32Blanked_of_registers 36 (by decide +kernel) hbefore (by decide +kernel) hbehind
    (by decide +kernel)

theorem validate_tinyHeader :
    Gpt.Header.validate (tinyHeader.encode [] 128) .primary 128 5 = .ok tinyHeader := by
  have hvalid : tinyHeader.Valid .primary 128 5 := by constructor <;> decide
  exact Gpt.Header.validate_encode hvalid rfl crc32Blanked_tinyHeader

theorem usedEntries_tinyHeader : tinyHeader.usedEntries tinyEntry.encode = [(0, tinyEntry)] := by
  decide +kernel

theorem length_tinyHeader : (tinyHeader.encode [] 128).length = 128 :=
  tinyHeader.length_encode (by decide)

theorem length_tinyEntry : tinyEntry.encode.length = 128 := by decide +kernel

theorem chooseHeader_tinyHeader :
    (Gpt.chooseHeader (tinyHeader.encode [] 128) (tinyBackup.encode [] 128) 128 5).1
      = .ok (.primary, tinyHeader) :=
  Gpt.chooseHeader_eq_ok_iff.mpr (.inl ⟨rfl, validate_tinyHeader⟩)

/-- The environment serves the GPT that is on the disk. -/
theorem servesGpt_tinyDisk :
    tinyEnvironment.ServesGpt tinyDisk tinyPool .primary tinyHeader tinyEntry.encode := by
  refine servesGpt_tinyDisks length_tinyHeader length_tinyEntry Pool.allocator [] tinyPool
    chooseHeader_tinyHeader rfl (by decide) (by decide) rfl rfl rfl crc32_tinyEntry.symm ?_
  rw [usedEntries_tinyHeader]
  decide

/-- What the detection on such a disk comes to, if its entry is that of `tinyDisk`. -/
theorem result_tinyDisks {σ : Type} {env : Environment σ} {state : σ} {slot : Gpt.HeaderCopy}
    {header : Gpt.Header} (hserves : env.ServesGpt tinyDisk state slot header tinyEntry.encode)
    (hused : header.usedEntries tinyEntry.encode = [(0, tinyEntry)]) :
    ((Scanner.detect ⟨env, {}⟩ tinyTable 0).run ⟨2, [tinyDisk]⟩ state).result
      = .ok ⟨1, 1, .gptContainer, some slot, false⟩ := by
  have hat : (⟨2, [tinyDisk]⟩ : Registry).volumes[0]? = some tinyDisk := rfl
  have hannounced : ({} : Options).gpt = .revisionOne ∧ tinyTable.protectiveIndex?.isSome := by
    decide
  have hyields : ∀ {detection after},
      (Scanner.detect ⟨env, {}⟩ tinyTable 0).Yields _ state detection after ↔ _ :=
    yields_detect_gpt_iff hat rfl rfl hannounced
  obtain ⟨hok, -⟩ := hyields.mpr ⟨slot, header, tinyEntry.encode, hserves, rfl, rfl⟩
  rw [hok, Gpt.Header.partitions, hused]
  rfl

/-- The detection on the disk registers the partition that its only entry describes. -/
theorem detect_tinyDisk :
    let registry : Registry := ⟨2, [tinyDisk]⟩
    let pass := (Scanner.detect ⟨tinyEnvironment, {}⟩ tinyTable 0).run registry tinyPool
    tinyDisk.firstByte.toNat + tinyDisk.byteLen ≤ 2 ^ 64 - 1
      ∧ (∃ entry ∈ tinyTable.entries.toList, entry.typeCode = 0xEE)
      ∧ pass.result = .ok ⟨1, 1, .gptContainer, some .primary, false⟩
      ∧ ∃ partition, tinyEntry.Describes 0 tinyDisk partition
        ∧ pass.registry.volumes = [{ tinyDisk with kind := .gptContainer }, partition] := by
  intro registry pass
  have hend : tinyDisk.firstByte.toNat + tinyDisk.byteLen ≤ 2 ^ 64 - 1 := by decide
  have hprotective : ∃ entry ∈ tinyTable.entries.toList, entry.typeCode = 0xEE := by decide
  have hat : registry.volumes[0]? = some tinyDisk := rfl
  obtain ⟨-, hserved⟩ := detect_gpt_iff ⟨tinyEnvironment, {}⟩ tinyTable 0 registry tinyPool hat rfl
    rfl hend rfl hprotective
  obtain ⟨partitions, hpartitions, hafter, hresult⟩ := hserved _ _ _ servesGpt_tinyDisk
  rw [usedEntries_tinyHeader] at hpartitions
  cases hpartitions with
  | cons hpartition hrest =>
    cases hrest
    exact ⟨hend, hprotective, hresult, _, hpartition, congrArg Registry.volumes hafter⟩

end Scanner

end VolumeScan
