/-
VolumeScan.Proofs.Gpt.Location — a header is good for one place only.

The fields of a header stand at the start of its sector, so a buffer holds one header at most,
whatever place and whatever sector size it is read for (`Header.unique_of_validate`). A header names
its own sector and that of its twin. On disks of fewer than four sectors the two places change roles
or fall together, but there is no room for an array between them; from four sectors on, the two
numbers tell the place and the size of the disk (`HeaderCopy.lbas_inj`). The checks in front of
these two do not depend on the place, so everywhere else the header is rejected for its place alone
(`Header.validate_elsewhere`).
-/
import VolumeScan.Proofs.Gpt.Placement

namespace VolumeScan

namespace Gpt

/-- A place on a disk with room for a GPT has its two sectors for itself, among the places of all
disks. -/
theorem HeaderCopy.lbas_inj {slot slot' : HeaderCopy} {totalSectors totalSectors' : Nat}
    (hroom : 4 ≤ totalSectors) (h : slot'.lbas totalSectors' = slot.lbas totalSectors) :
    slot' = slot ∧ totalSectors' = totalSectors := by
  cases slot' <;> cases slot <;> simp only [lbas, Prod.mk.injEq] at h
  case primary.primary => exact ⟨rfl, by omega⟩
  case primary.backup => omega
  case backup.primary => omega
  case backup.backup => exact ⟨rfl, by omega⟩

namespace Header

variable {header header' : Header} {buffer extension : Bytes} {slot slot' : HeaderCopy}
  {sectorSize sectorSize' totalSectors totalSectors' : Nat}

/-! ## One header in a buffer -/

/-- Headers are written alike only if they are equal. -/
theorem flatten_fields_inj : header.fields.flatten = header'.fields.flatten ↔ header = header' := by
  constructor
  · intro h
    have hfields : header.fields = header'.fields := by
      rw [List.eq_iff_flatten_eq, map_length_fields, map_length_fields]
      exact ⟨h, rfl⟩
    simp only [fields, List.cons.injEq, LittleEndian.encode_inj32, LittleEndian.encode_inj64,
      Guid.toBytes_inj, and_true, true_and] at hfields
    cases header
    cases header'
    simpa using hfields
  · intro heq
    rw [heq]

/-- An accepted buffer starts with the fields of its header. -/
theorem take_of_validate (h : validate buffer slot sectorSize totalSectors = .ok header) :
    buffer.take minHeaderSize = header.fields.flatten := by
  have hvalid := validate_valid h
  obtain ⟨extension, hwritten⟩ := writtenIn_of_validate h
  have htake := congrArg (List.take minHeaderSize) hwritten.sector_eq
  rwa [List.take_take, Nat.min_eq_left (Nat.le_trans hvalid.headerSize_ge hvalid.headerSize_le),
    encode_eq_flatten, List.take_left' header.length_flatten_fields] at htake

/-- A buffer holds one header at most, whatever it is read for. -/
theorem unique_of_validate (h : validate buffer slot sectorSize totalSectors = .ok header)
    (h' : validate buffer slot' sectorSize' totalSectors' = .ok header') : header = header' :=
  flatten_fields_inj.mp ((take_of_validate h).symm.trans (take_of_validate h'))

/-! ## One place for a header -/

/-- The sectors of the place are those that the header names. -/
theorem Valid.lbas_eq (h : header.Valid slot sectorSize totalSectors) :
    slot.lbas totalSectors = (header.myLba.toNat, header.alternateLba.toNat) := by
  rw [h.myLba_eq, h.alternateLba_eq]

/-- Why a header is rejected in a place that is not its own. -/
def misplacement (header : Header) (slot : HeaderCopy) (totalSectors : Nat) : Defect :=
  if totalSectors = 0 then .diskTooSmall
  else if header.myLba.toNat ≠ (slot.lbas totalSectors).1 then .headerMisplaced
  else .alternateMisplaced

/-- In a place with other sectors than those it names, a header is rejected for its place. -/
theorem validate_elsewhere (h : validate buffer slot sectorSize totalSectors = .ok header)
    (hplace : slot'.lbas totalSectors' ≠ (header.myLba.toNat, header.alternateLba.toNat)) :
    validate buffer slot' sectorSize totalSectors'
      = .error (.invalid (header.misplacement slot' totalSectors')) := by
  unfold validate at h
  simp only [bind_eq_ok_iff, require_eq_ok_iff, exists_const, pure_eq_ok_iff] at h
  obtain ⟨hbuffer, sector, hsector, start, hstart, hsignature, revision, hrevision, hnew,
    headerSize, hsize, hge, hle, headerCrc, hcrc, covered, hcovered, crc, hblanked, hcarried,
    reserved, hreserved, hzero, -, myLba, hmy, -, alternateLba, halternate, -, firstUsable, -,
    lastUsable, -, -, -, -, diskGuid, -, entriesLba, -, -, entryCount, -, -, entrySize, -, -,
    entriesCrc, -, rest, -, -, rfl⟩ := h
  -- The checks in front of the place come out as they did before.
  simp only [validate, require_of_pos _ hbuffer, hsector, hstart, require_of_pos _ hsignature,
    hrevision, require_of_pos _ hnew, hsize, require_of_pos _ hge, require_of_pos _ hle, hcrc,
    hcovered, hblanked, require_of_pos _ hcarried, hreserved, require_of_pos _ hzero, hmy,
    halternate, ok_bind]
  unfold misplacement
  by_cases hempty : totalSectors' = 0
  · rw [if_pos hempty, require_of_neg _ (by omega), error_bind]
  · rw [if_neg hempty, require_of_pos _ (by omega), ok_bind]
    by_cases hmine : myLba.toNat = (slot'.lbas totalSectors').1
    · have htwin : alternateLba.toNat ≠ (slot'.lbas totalSectors').2 := by
        intro htwin
        exact hplace (Prod.ext hmine.symm htwin.symm)
      rw [if_neg (not_not.mpr hmine), require_of_pos _ hmine, ok_bind, require_of_neg _ htwin,
        error_bind]
    · rw [if_pos hmine, require_of_neg _ hmine, error_bind]

/-- **A header is good for one place only.** If a buffer is accepted as the sector of a header, the
disk has at least four sectors, and no other place of a disk of any size accepts it, whatever the
size of a sector is taken to be there. With the same size of a sector it is rejected everywhere else
for its place: because the disk has no sectors, because the header names another sector as its own,
or because it names another one as that of its twin. So it is not both a first and a second
header, and none that is left over from a disk of another size. -/
theorem header_is_good_for_one_place
    (h : validate buffer slot sectorSize totalSectors = .ok header) :
    4 ≤ totalSectors
      ∧ (∀ slot' sectorSize' totalSectors' header',
        validate buffer slot' sectorSize' totalSectors' = .ok header' →
          slot' = slot ∧ totalSectors' = totalSectors ∧ header' = header)
      ∧ ∀ slot' totalSectors', (slot', totalSectors') ≠ (slot, totalSectors) →
        validate buffer slot' sectorSize totalSectors'
          = .error (.invalid (header.misplacement slot' totalSectors')) := by
  have hvalid := validate_valid h
  have hunique : ∀ slot' sectorSize' totalSectors' header',
      validate buffer slot' sectorSize' totalSectors' = .ok header' →
        slot' = slot ∧ totalSectors' = totalSectors ∧ header' = header := by
    intro slot' sectorSize' totalSectors' header' h'
    obtain rfl := unique_of_validate h h'
    have hvalid' := validate_valid h'
    obtain ⟨hslot, htotal⟩ := HeaderCopy.lbas_inj hvalid.four_le
      (hvalid'.lbas_eq.trans hvalid.lbas_eq.symm)
    exact ⟨hslot, htotal, rfl⟩
  refine ⟨hvalid.four_le, hunique, ?_⟩
  intro slot' totalSectors' hne
  apply validate_elsewhere h
  intro hsame
  obtain ⟨rfl, rfl⟩ := HeaderCopy.lbas_inj hvalid.four_le (hsame.trans hvalid.lbas_eq.symm)
  exact hne rfl

/-- A header in sector one of a disk of 2048 sectors, with its array right behind it. -/
def settled : Header where
  revision := 0x10000
  headerSize := 92
  headerCrc := 0
  myLba := 1
  alternateLba := 2047
  firstUsableLba := 34
  lastUsableLba := 2014
  diskGuid := Guid.unused
  entriesLba := 2
  entryCount := 128
  entrySize := 128
  entriesCrc := 0

/-- The header is accepted where it is. It is not a second header of the same disk, and it is not
accepted after the disk has been copied to one of twice the size. -/
theorem settled_header_stays :
    ∃ sector header, validate sector .primary 512 2048 = .ok header
      ∧ validate sector .backup 512 2048 = .error (.invalid .headerMisplaced)
      ∧ validate sector .primary 512 4096 = .error (.invalid .alternateMisplaced) := by
  have hvalid : settled.Valid .primary 512 2048 := by constructor <;> decide
  have haccepted : validate ((settled.sealed [] 512).encode [] 512) .primary 512 2048
      = .ok (settled.sealed [] 512) := hvalid.validate_sealed rfl
  obtain ⟨-, -, helsewhere⟩ := header_is_good_for_one_place haccepted
  exact ⟨_, _, haccepted, helsewhere .backup 2048 (by decide), helsewhere .primary 4096 (by decide)⟩

end Header

end Gpt

end VolumeScan
