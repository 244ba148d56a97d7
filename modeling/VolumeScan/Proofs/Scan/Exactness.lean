/-
VolumeScan.Proofs.Scan.Exactness — no number of a scan leaves its machine word.

A sum that wraps around is no fault in the definitions, and neither is a division by zero.
`Volume.Exact` says that on a volume there is neither, whatever table is accepted on it: what the
checks of a table leave through ends inside its volume (`Gpt.Entry.part_end_le`,
`Mbr.Entry.part_end_le`), so all numbers of its partitions are exact if the volume itself ends at a
64-bit address (`Volume.partExact_of_end_le`). In a run on devices that do, every volume does
(`Registry.Contained.end_lt`). Together with `Request.accounts_errors` this rules out all faults.
-/
import VolumeScan.Proofs.Scan.Containment
import VolumeScan.Proofs.Scan.FaultFreedom
import VolumeScan.Proofs.Scan.Lineage

namespace VolumeScan

namespace Volume

/-- The numbers of a partition of `parent`, in the place `index` of its table and with `count`
sectors from sector `first` on, stay in their machine words. -/
structure PartExact (parent : Volume) (index first count : Nat) : Prop where
  index_lt : index < 2 ^ 32
  offset_lt : first * parent.sectorSize.toNat < wordLimit
  count_lt : count < wordLimit
  firstByte_lt : parent.firstByte.toNat + first * parent.sectorSize.toNat < wordLimit

/-- No number that is computed for a volume leaves its machine word, whatever table the volume has,
and none is divided by zero. -/
structure Exact (volume : Volume) : Prop where
  /-- A byte less than a sector is a length, and bytes can be counted in sectors. -/
  sectorSize_pos : 0 < volume.sectorSize.toNat
  /-- An array can be cut into entries. -/
  stride_pos : ∀ header : Gpt.Header, 0 < header.stride
  /-- An array can be rounded up to whole sectors. -/
  array_lt : ∀ header : Gpt.Header,
    header.arrayLen + (volume.sectorSize.toNat - 1) < wordLimit
  /-- Every legacy entry describes sectors that have numbers. -/
  extent_lt : ∀ entry : Mbr.Entry,
    entry.sectorExtent.start < wordLimit ∧ entry.sectorExtent.stop < wordLimit
  /-- The partitions of a GPT can be registered, if its header and its array are accepted. -/
  gpt : ∀ {slot : Gpt.HeaderCopy} {sector array : Bytes} {header : Gpt.Header},
    (volume.sectorCount.toNat - 1) * volume.sectorSize.toNat < wordLimit →
    Gpt.Header.validate sector slot volume.sectorSize.toNat volume.sectorCount.toNat = .ok header →
    array.length = header.arrayLen → header.admitArray array = .ok () →
    ∀ index entry, (index, entry) ∈ header.usedEntries array →
      entry.firstLba.toNat ≤ entry.lastLba.toNat ∧ volume.PartExact index entry.firstLba.toNat
        (entry.lastLba.toNat - entry.firstLba.toNat + 1)
  /-- The partitions of a legacy table can be registered, if the table is accepted. -/
  mbr : ∀ {table : Mbr}, table.validate volume = .ok () →
    ∀ index entry, (index, entry) ∈ table.partitionEntries →
      entry.sectorExtent.start ≤ entry.sectorExtent.stop
        ∧ volume.PartExact index entry.sectorExtent.start
          (entry.sectorExtent.stop - entry.sectorExtent.start)

/-- The numbers of a partition that ends inside its parent are exact. -/
theorem partExact_of_end_le {parent : Volume} {index first count : Nat}
    (hsize : 0 < parent.sectorSize.toNat)
    (hparent : parent.firstByte.toNat + parent.byteLen < wordLimit) (hindex : index < 2 ^ 32)
    (hend : (first + count) * parent.sectorSize.toNat ≤ parent.byteLen) :
    parent.PartExact index first count := by
  have hfirst : first * parent.sectorSize.toNat ≤ (first + count) * parent.sectorSize.toNat :=
    Nat.mul_le_mul_right _ (Nat.le_add_right _ _)
  have hcount : first + count ≤ (first + count) * parent.sectorSize.toNat :=
    Nat.le_mul_of_pos_right _ hsize
  refine ⟨hindex, ?_, ?_, ?_⟩ <;> omega

end Volume

/-- Both ends of a legacy entry are far below the word limit, in either way of addressing. -/
theorem Mbr.Entry.sectorExtent_lt (entry : Mbr.Entry) :
    entry.sectorExtent.start < wordLimit ∧ entry.sectorExtent.stop < wordLimit := by
  have hfirst := entry.firstChs.lba_lt
  have hlast := entry.lastChs.lba_lt
  have hlba := entry.firstLba.toNat_lt
  have hsectors := entry.sectors.toNat_lt
  unfold sectorExtent wordLimit
  split <;> constructor <;> dsimp only <;> omega

namespace Volume

variable {volume : Volume}

/-- **On a volume that ends at a 64-bit address all numbers are exact.** -/
theorem exact_of_end_lt (hsize : volume.sectorSize ≠ 0)
    (hend : volume.firstByte.toNat + volume.byteLen < wordLimit) : volume.Exact := by
  have hpos : 0 < volume.sectorSize.toNat :=
    Nat.pos_of_ne_zero fun hzero => hsize (UInt32.toNat_inj.mp hzero)
  constructor
  case sectorSize_pos => exact hpos
  case stride_pos => exact fun header => Nat.lt_of_lt_of_le (by decide) (Nat.le_max_right _ _)
  case array_lt =>
    intro header
    exact header.arrayLen_add_lt (Nat.lt_of_le_of_lt (Nat.sub_le _ 1) volume.sectorSize.toNat_lt)
  case extent_lt => exact Mbr.Entry.sectorExtent_lt
  case gpt =>
    intro slot sector array header hlast hheader hlength hadmitted index entry hmem
    have hvalid := Gpt.Header.validate_valid hheader
    obtain ⟨-, hadmits⟩ :=
      (Gpt.Header.admitArray_eq_ok_iff hlength hvalid.entrySize_ge).mp hadmitted
    obtain ⟨hindex, -, -⟩ := Gpt.Header.mem_usedEntries_iff.mp hmem
    have hinside := Gpt.Entry.part_end_le hvalid hlast (hadmits _ hmem)
    have hindex32 := Nat.lt_trans hindex header.entryCount.toNat_lt
    exact ⟨(hadmits _ hmem).2.1, partExact_of_end_le hpos hend hindex32 hinside⟩
  case mbr =>
    intro table hvalid index entry hmem
    have hfits := Mbr.fits_of_mem_partitionEntries hvalid hmem
    obtain ⟨-, -, hplain⟩ := Mbr.mem_partitionEntries_iff.mp hmem
    have hindex32 : index < 2 ^ 32 :=
      Nat.lt_trans (Mbr.index_lt_of_mem_partitionEntries hmem) (by decide)
    exact ⟨Nat.le_of_lt hfits.start_lt_stop,
      partExact_of_end_le hpos hend hindex32 (Mbr.Entry.part_end_le hfits hplain)⟩

end Volume

namespace Request

variable {σ τ : Type}

/-- **Nothing faults.** Take any run of requests to an empty registry, in any environment, such that
every device that is seeded ends at a 64-bit address, and a further request in any environment.
Neither in its answer nor in its log is there an access past the end of a buffer, a number that
leaves its machine word, or a length that is not a number, unless the block reader answered with
this error itself; and where the definitions compute without checking, on any volume of the
registry, all numbers are exact. -/
theorem no_fault_in_runs (env : Environment σ) (env' : Environment τ) (capacity : Nat) (state : σ)
    (state' : τ) (requests : List Request)
    (hdevices : ∀ volume : Volume, .seed volume ∈ requests → volume.partition = none →
      volume.firstByte.toNat + volume.byteLen ≤ 2 ^ 64 - 1) (request : Request) :
    let registry := registryAfter env (Registry.empty capacity) state requests
    (∀ error ∈ (request.serve env' registry state').errors,
        error = .fault ∨ error = .biggerThanMemory →
        ∃ asked volume pos len, (env'.read asked volume pos len).1 = .error error)
      ∧ ∀ volume ∈ registry.volumes, volume.Exact := by
  intro registry
  refine ⟨fun error hmem hfault => ?_, fun volume hmem => ?_⟩
  · rcases accounts_errors env' registry state' request error hmem with hreportable | hanswer
    · exact absurd hfault (not_or_intro hreportable.1 hreportable.2)
    · exact hanswer
  · obtain ⟨index, hat⟩ := List.mem_iff_getElem?.mp hmem
    have hbuilt : registry.Built capacity
        (fun volume => volume.firstByte.toNat + volume.byteLen ≤ 2 ^ 64 - 1) _ :=
      built_run .empty state requests hdevices
    have hcontained := hbuilt.contained fun volume hend => by
      unfold wordLimit
      omega
    have hlineage : registry.Lineage capacity _ :=
      (Registry.lineage_invariant capacity).run (Registry.lineage_empty capacity) state requests
        fun _ _ _ => trivial
    exact Volume.exact_of_end_lt (hlineage.sectorSize_ne_zero volume hmem) (hcontained.end_lt hat)

/-- The disk that ends with the last byte that can be addressed. -/
def highDisk : Volume := { smallDisk with firstByte := 0xFFFFFFFFFFEFFFFF }

/-- A device as large as can be addressed, with the table of `smallDisk` in the first sector of
`highDisk`, and an arena. -/
def highEnvironment : Environment Pool :=
  let table := smallTable.encode.toArray
  .ofDisks ⟨.hosted, [.ofChunks (2 ^ 64 - 1) [⟨highDisk.firstByte.toNat + 446, table, 1⟩]]⟩ []
    Pool.allocator

/-- A second pass over the disk has reasons to complain, of which none is a fault. The partition
that the first pass has found ends with the last byte that can be addressed, and all numbers on it
are exact. -/
theorem highDisk_no_fault :
    let requests := [.seed highDisk, .discover {}]
    let registry := registryAfter highEnvironment (Registry.empty 4) smallPool requests
    let pass := (Request.discover {}).serve highEnvironment registry smallPool
    highDisk.firstByte.toNat + highDisk.byteLen = 2 ^ 64 - 1
      ∧ pass.errors ≠ []
      ∧ (∀ error ∈ pass.errors, error ≠ .fault ∧ error ≠ .biggerThanMemory)
      ∧ ∃ partition ∈ registry.volumes, partition.isPartition = true
        ∧ partition.firstByte.toNat + partition.byteLen = 2 ^ 64 - 1 ∧ partition.Exact := by
  intro requests registry pass
  have hend : highDisk.firstByte.toNat + highDisk.byteLen = 2 ^ 64 - 1 := by decide
  have hdevices : ∀ volume : Volume, .seed volume ∈ requests → volume.partition = none →
      volume.firstByte.toNat + volume.byteLen ≤ 2 ^ 64 - 1 :=
    devices_of_seed (Nat.le_of_eq hend) nofun
  obtain ⟨hfaults, hexact⟩ := no_fault_in_runs highEnvironment highEnvironment 4 smallPool smallPool
    requests hdevices (.discover {})
  have hplain : ∀ error ∈ pass.errors, error ≠ .fault ∧ error ≠ .biggerThanMemory := by
    intro error hmem
    refine ⟨fun hfault => ?_, fun hlong => ?_⟩
    · obtain ⟨_, _, _, _, hanswer⟩ := hfaults error hmem (.inl hfault)
      exact (Environment.faultless_ofDisks _ _ _ _ _ _ _ error hanswer).1 hfault
    · obtain ⟨_, _, _, _, hanswer⟩ := hfaults error hmem (.inr hlong)
      exact (Environment.faultless_ofDisks _ _ _ _ _ _ _ error hanswer).2 hlong
  have hmem : highDisk.partitionAt 0 32768 1984 .fat ∈ registry.volumes := by decide +kernel
  exact ⟨hend, by decide +kernel, hplain, _, hmem, rfl, by decide, hexact _ hmem⟩

end Request

end VolumeScan
