/-
VolumeScan.Proofs.Scan.Bursts — no partition comes from a damaged entry array.

A detection that chooses a header and then reads an array without the checksum that this header
carries fails, and leaves the registry as it was. It does not matter how the header was chosen, what
the entries look like or what the environment does otherwise (`Scanner.detect_of_crc32_ne`). An
array that had the checksum and was changed by a burst is one of those. `Gpt.bursts_are_noticed`
says what is known of bursts altogether, in headers and in arrays.
-/
import VolumeScan.Proofs.Gpt.Bursts
import VolumeScan.Proofs.Scan.GptDetection

namespace VolumeScan

/-- What a detection on `volume` finds: the environment reads the headers, this one is chosen, and
this array is read for it. -/
def Environment.FindsGpt {σ : Type} (env : Environment σ) (volume : Volume) (state : σ)
    (header : Gpt.Header) (array : Bytes) : Prop :=
  ∃ slot state₁ state₂,
    env.ReadsHeaders volume volume.sectorSize.toNat volume.sectorCount.toNat state slot header
        state₁
      ∧ env.ReadsArray volume volume.sectorSize.toNat header state₁ array state₂

namespace Scanner

variable {σ : Type}

/-- A detection that finds an array without the announced checksum fails. -/
theorem detect_of_crc32_ne {scanner : Scanner σ} {mbr : Mbr} {index : Nat} {registry : Registry}
    {state : σ} {volume : Volume} {header : Gpt.Header} {array : Bytes}
    (hat : registry.volumes[index]? = some volume)
    (hannounced : scanner.options.gpt = .revisionOne ∧ mbr.protectiveIndex?.isSome)
    (hfinds : scanner.env.FindsGpt volume state header array)
    (hcrc : header.entriesCrc ≠ crc32 array) :
    let pass := (scanner.detect mbr index).run registry state
    (∃ error, pass.result = .error error) ∧ pass.registry = registry := by
  intro pass
  obtain ⟨_, _, _, hheaders, harray⟩ := hfinds
  rcases detect_transacts scanner mbr index registry state with
    ⟨error, herror, hkept⟩ | ⟨detection, hok, _, _, _, hat', hwhole, hunknown, -⟩
  · exact ⟨⟨error, herror⟩, hkept⟩
  · -- What is served is what is found, and its checksum was compared.
    obtain rfl := Option.some.inj (hat.symm.trans hat')
    obtain ⟨_, _, _, ⟨-, -, _, _, hheaders', harray', hcrc', -⟩, -⟩ :=
      (yields_detect_gpt_iff hat hwhole hunknown hannounced).mp ⟨hok, rfl⟩
    obtain ⟨rfl, rfl, rfl⟩ := hheaders.unique hheaders'
    obtain ⟨rfl, -⟩ := harray.unique hheaders.valid.sectorSize_pos harray'
    exact absurd hcrc' hcrc

end Scanner

/-- **Bursts are noticed.** Take an accepted sector of a header, and change up to four adjacent
bytes of it, but not the announced length: the sector is rejected. Take an accepted entry array, and
change up to four adjacent bytes of it: the array is rejected because of its checksum, and every
detection that finds its header and the damaged array fails and leaves the registry as it was. -/
theorem Gpt.bursts_are_noticed :
    (∀ (buffer damaged : Bytes) (slot : Gpt.HeaderCopy) (sectorSize totalSectors : Nat)
        (header : Gpt.Header),
      Gpt.Header.validate buffer slot sectorSize totalSectors = .ok header →
      buffer.Burst damaged sectorSize → damaged.AgreeOn buffer 0x0C 0x10 →
      ∃ error, Gpt.Header.validate damaged slot sectorSize totalSectors = .error error)
    ∧ ∀ (header : Gpt.Header) (table damaged : Bytes), header.admitArray table = .ok () →
      table.Burst damaged header.arrayLen →
      header.admitArray damaged = .error (.invalid .tableChecksum)
        ∧ ∀ {σ : Type} (scanner : Scanner σ) (mbr : Mbr) (index : Nat) (registry : Registry)
            (state : σ) (volume : Volume), registry.volumes[index]? = some volume →
          scanner.options.gpt = .revisionOne →
          (∃ entry ∈ mbr.entries.toList, entry.typeCode = 0xEE) →
          scanner.env.FindsGpt volume state header (damaged.take header.arrayLen) →
          let pass := (scanner.detect mbr index).run registry state
          (∃ error, pass.result = .error error) ∧ pass.registry = registry := by
  constructor
  · intro buffer damaged slot sectorSize totalSectors header h hburst hannounced
    exact Gpt.Header.validate_burst h hburst hannounced
  · intro header table damaged h hburst
    refine ⟨Gpt.Header.admitArray_burst h hburst, ?_⟩
    intro σ scanner mbr index registry state volume hat hpolicy hprotective hfinds
    have hannounced := Mbr.isSome_protectiveIndex?_iff.mpr hprotective
    exact Scanner.detect_of_crc32_ne hat ⟨hpolicy, hannounced⟩ hfinds
      (Gpt.Header.entriesCrc_ne_of_burst h hburst)

/-! ## A disk with a damaged sector -/

namespace Scanner

/-- The sector of `tinyHeader`, with another place for the array in it. -/
def movedHeader : Bytes := (tinyHeader.encode [] 128).set 0x48 3

/-- The sector of `tinyEntry`, with another first sector in it: the one that it stands in. -/
def movedEntry : Bytes := tinyEntry.encode.set 0x20 2

/-- The disk with the damaged entry, and an arena. -/
def damagedEnvironment : Environment Pool :=
  .ofDisks (tinyDisks (tinyHeader.encode [] 128) movedEntry) [] Pool.allocator

theorem burst_movedHeader : (tinyHeader.encode [] 128).Burst movedHeader 128 :=
  Bytes.burst_set (by decide) (by decide +kernel) (by decide +kernel)

theorem burst_movedEntry : tinyEntry.encode.Burst movedEntry tinyHeader.arrayLen :=
  Bytes.burst_set (by decide) (by decide +kernel) (by decide +kernel)

theorem admitArray_tinyEntry : tinyHeader.admitArray tinyEntry.encode = .ok () := by
  have hlength : tinyEntry.encode.length = tinyHeader.arrayLen := length_tinyEntry
  rw [Gpt.Header.admitArray_eq_ok_iff hlength (by decide), usedEntries_tinyHeader]
  exact ⟨crc32_tinyEntry.symm, by decide⟩

/-- The environment reads the header and the damaged entry. -/
theorem findsGpt_damagedEnvironment :
    damagedEnvironment.FindsGpt tinyDisk tinyPool tinyHeader
      (movedEntry.take tinyHeader.arrayLen) := by
  have hlength : movedEntry.length = 128 := by decide +kernel
  have hwhole : movedEntry.take tinyHeader.arrayLen = movedEntry := by decide +kernel
  rw [hwhole]
  exact ⟨.primary, reads_tinyDisks length_tinyHeader hlength Pool.allocator [] tinyPool
    chooseHeader_tinyHeader rfl (by decide) (by decide) rfl rfl rfl⟩

/-- The damage to both sectors is noticed, and the detection on the damaged disk registers
nothing. -/
theorem tinyDisk_bursts_are_noticed :
    let pass := (Scanner.detect ⟨damagedEnvironment, {}⟩ tinyTable 0).run ⟨2, [tinyDisk]⟩ tinyPool
    (∃ error, Gpt.Header.validate movedHeader .primary 128 5 = .error error)
      ∧ tinyHeader.admitArray movedEntry = .error (.invalid .tableChecksum)
      ∧ (∃ error, pass.result = .error error) ∧ pass.registry = ⟨2, [tinyDisk]⟩ := by
  intro pass
  obtain ⟨hheader, harray⟩ := Gpt.bursts_are_noticed
  have hannounced : movedHeader.AgreeOn (tinyHeader.encode [] 128) 0x0C 0x10 :=
    fun i _ hi => List.getElem?_set_ne (by omega)
  have hprotective : ∃ entry ∈ tinyTable.entries.toList, entry.typeCode = 0xEE := by decide
  obtain ⟨hrejected, hdetect⟩ := harray _ _ _ admitArray_tinyEntry burst_movedEntry
  exact ⟨hheader _ _ _ _ _ _ validate_tinyHeader burst_movedHeader hannounced, hrejected,
    hdetect ⟨damagedEnvironment, {}⟩ tinyTable 0 ⟨2, [tinyDisk]⟩ tinyPool tinyDisk rfl rfl
      hprotective findsGpt_damagedEnvironment⟩

end Scanner

end VolumeScan
