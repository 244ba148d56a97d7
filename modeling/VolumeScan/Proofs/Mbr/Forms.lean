/-
VolumeScan.Proofs.Mbr.Forms — the two forms in which an entry describes its sectors.

An entry says where its sectors are by the addresses of the first and the last one
(`Mbr.Entry.ByChs`), or by the linear address of the first one and their number
(`Mbr.Entry.ByCount`). The first form ends with the last sector, the second one leads to the sector
behind it; for all sectors that the geometry reaches, both come to the same extent
(`Mbr.Entry.TwoForms.agrees`). A check looks at an entry only through its status, its type and its
extent (`Mbr.Entry.Agrees`), so tables whose entries agree are checked alike, down to the defect
that is reported (`Mbr.Agrees.validate_eq`).
-/
import Mathlib.Data.List.Forall2
import VolumeScan.Mbr
import VolumeScan.Proofs.Chs

namespace VolumeScan

namespace Mbr

/-! ## Entries -/

namespace Entry

/-- The entry describes the sectors from `first` to `last` by the addresses of these two, and counts
no sectors. Its linear address may be any. -/
structure ByChs (entry : Entry) (first last : Nat) : Prop where
  sectors_eq : entry.sectors = 0
  firstChs_eq : entry.firstChs = Chs.ofLba first
  lastChs_eq : entry.lastChs = Chs.ofLba last

/-- The entry describes the sectors from `first` to `last` by the linear address of the first one
and their number. Its addresses by cylinder, head and sector may be any. -/
structure ByCount (entry : Entry) (first last : Nat) : Prop where
  firstLba_eq : entry.firstLba.toNat = first
  sectors_eq : entry.sectors.toNat = last - first + 1

/-- The entries have the same status and the same type and describe the same sectors. -/
structure Agrees (entry entry' : Entry) : Prop where
  status_eq : entry.status = entry'.status
  typeCode_eq : entry.typeCode = entry'.typeCode
  sectorExtent_eq : entry.sectorExtent = entry'.sectorExtent

/-- The entries have the same status and the same type and describe the same sectors, the one by two
addresses and the other by a number of sectors. -/
structure TwoForms (byChs byCount : Entry) : Prop where
  status_eq : byChs.status = byCount.status
  typeCode_eq : byChs.typeCode = byCount.typeCode
  exists_range : ∃ first last, first ≤ last ∧ last < Chs.addressable
    ∧ byChs.ByChs first last ∧ byCount.ByCount first last

/-- The entry is left as it is, or brought from one form into the other. -/
inductive Recast : Entry → Entry → Prop where
  | same (entry : Entry) : Recast entry entry
  | toCount {byChs byCount : Entry} (h : TwoForms byChs byCount) : Recast byChs byCount
  | toChs {byChs byCount : Entry} (h : TwoForms byChs byCount) : Recast byCount byChs

variable {entry entry' : Entry} {first last : Nat}

/-- The last address is inclusive. -/
theorem ByChs.sectorExtent_eq (h : entry.ByChs first last) (hfirst : first < Chs.addressable)
    (hlast : last < Chs.addressable) : entry.sectorExtent = ⟨first, last + 1⟩ := by
  rw [sectorExtent, if_pos h.sectors_eq, h.firstChs_eq, h.lastChs_eq, Chs.lba_ofLba hfirst,
    Chs.lba_ofLba hlast]

/-- The number of sectors leads behind the last one. -/
theorem ByCount.sectorExtent_eq (h : entry.ByCount first last) (hle : first ≤ last) :
    entry.sectorExtent = ⟨first, last + 1⟩ := by
  have hcounted : entry.sectors ≠ 0 := by
    intro hzero
    have hsectors := h.sectors_eq
    rw [hzero] at hsectors
    exact absurd hsectors (Nat.succ_ne_zero _).symm
  have hstop : first + (last - first + 1) = last + 1 := by omega
  rw [sectorExtent, if_neg hcounted, h.firstLba_eq, h.sectors_eq, hstop]

/-- Both forms come to the same extent. -/
theorem TwoForms.agrees (h : TwoForms entry entry') : entry.Agrees entry' := by
  obtain ⟨first, last, hle, hlast, hchs, hcount⟩ := h.exists_range
  refine ⟨h.status_eq, h.typeCode_eq, ?_⟩
  rw [hchs.sectorExtent_eq (Nat.lt_of_le_of_lt hle hlast) hlast, hcount.sectorExtent_eq hle]

namespace Agrees

theorem symm (h : entry.Agrees entry') : entry'.Agrees entry :=
  ⟨h.status_eq.symm, h.typeCode_eq.symm, h.sectorExtent_eq.symm⟩

theorem byteExtent?_eq (h : entry.Agrees entry') (sectorSize : Nat) :
    entry.byteExtent? sectorSize = entry'.byteExtent? sectorSize := by
  rw [byteExtent?, byteExtent?, h.sectorExtent_eq]

theorem isEmpty_eq (h : entry.Agrees entry') : entry.isEmpty = entry'.isEmpty := by
  rw [isEmpty, isEmpty, h.typeCode_eq]

theorem isProtective_eq (h : entry.Agrees entry') : entry.isProtective = entry'.isProtective := by
  rw [isProtective, isProtective, h.typeCode_eq]

/-- Entries that agree have the same defect, or none. -/
theorem check_eq (h : entry.Agrees entry') (volume : Volume) :
    entry.check volume = entry'.check volume := by
  rw [check, check, h.status_eq, h.byteExtent?_eq, h.isProtective_eq]

end Agrees

/-- An entry agrees with what it is brought into. -/
theorem Recast.agrees (h : Recast entry entry') : entry.Agrees entry' := by
  cases h with
  | same => exact ⟨rfl, rfl, rfl⟩
  | toCount h => exact h.agrees
  | toChs h => exact h.agrees.symm

end Entry

/-! ## Tables -/

/-- The tables have the same signature and agree entry by entry. -/
structure Agrees (mbr mbr' : Mbr) : Prop where
  signature_eq : mbr.signature = mbr'.signature
  entries : List.Forall₂ Entry.Agrees mbr.entries.toList mbr'.entries.toList

namespace Agrees

variable {mbr mbr' : Mbr}

/-- The entries in use agree. -/
theorem usedEntries (h : mbr.Agrees mbr') :
    List.Forall₂ Entry.Agrees mbr.usedEntries mbr'.usedEntries := by
  have hused : ∀ entry entry' : Entry, entry.Agrees entry' →
      ((!entry.isEmpty) = true ↔ (!entry'.isEmpty) = true) := by
    intro entry entry' hagree
    rw [hagree.isEmpty_eq]
  exact List.rel_filter hused h.entries

/-- Checks of entries that agree, one after the other, end alike. -/
theorem forM_check_eq {entries entries' : List Entry}
    (h : List.Forall₂ Entry.Agrees entries entries') (volume : Volume) :
    entries.forM (·.check volume) = entries'.forM (·.check volume) := by
  induction h with
  | nil => rfl
  | cons hfirst _ ih =>
    show Entry.check _ volume >>= (fun _ => List.forM _ _) = _
    rw [hfirst.check_eq, ih]
    rfl

/-- Tables that agree are accepted alike and rejected for the same reason. -/
theorem validate_eq (h : mbr.Agrees mbr') (volume : Volume) :
    mbr.validate volume = mbr'.validate volume := by
  have hempty : mbr.usedEntries.isEmpty = mbr'.usedEntries.isEmpty := by
    rw [Bool.eq_iff_iff, List.isEmpty_iff_length_eq_zero, List.isEmpty_iff_length_eq_zero,
      h.usedEntries.length_eq]
  rw [validate, validate, h.signature_eq, forM_check_eq h.usedEntries, hempty]

end Agrees

/-- Tables agree if every entry of the one is brought into its form in the other. -/
theorem agrees_of_recast {mbr mbr' : Mbr} (hsignature : mbr.signature = mbr'.signature)
    (h : ∀ (i : Nat) (hi : i < 4), Entry.Recast mbr.entries[i] mbr'.entries[i]) :
    mbr.Agrees mbr' := by
  refine ⟨hsignature, List.forall₂_iff_get.mpr ⟨by simp, ?_⟩⟩
  intro i hi hi'
  simpa using (h i (by simpa using hi)).agrees

/-- **Both forms describe the same sectors.** Every linear address below the limit of the geometry
has a cylinder, a head and a sector that fit their fields; packed in three bytes, they are read back
from them and give the linear address. So for all sectors up to this limit, an entry that counts no
sectors and has the addresses of the first and the last one describes the same extent as an entry
with the first linear address and the number of sectors, whatever is in the fields that are not
looked at: from the first sector up to the one behind the last. It has the same bytes, with sectors
of any size. And a table in which any entries are brought from one form into the other is accepted
on the same volumes, and elsewhere rejected with the same error. -/
theorem two_forms_agree :
    (∀ n < 1024 * 255 * 63,
        ((Chs.ofLba n).cylinder.toNat = n / 63 / 255 ∧ (Chs.ofLba n).head.toNat = n / 63 % 255
          ∧ (Chs.ofLba n).sector.toNat = n % 63 + 1)
        ∧ ∃ b0 b1 b2, (Chs.ofLba n).pack = [b0, b1, b2] ∧ Chs.ofPacked b0 b1 b2 = Chs.ofLba n
          ∧ (Chs.ofPacked b0 b1 b2).lba = n)
      ∧ (∀ first last, first ≤ last → last < 1024 * 255 * 63 → ∀ byChs byCount : Entry,
        byChs.ByChs first last → byCount.ByCount first last →
          byChs.sectorExtent = ⟨first, last + 1⟩ ∧ byCount.sectorExtent = ⟨first, last + 1⟩
            ∧ ∀ sectorSize, byChs.byteExtent? sectorSize = byCount.byteExtent? sectorSize)
      ∧ ∀ mbr mbr' : Mbr, mbr.signature = mbr'.signature →
        (∀ (i : Nat) (hi : i < 4), Entry.Recast mbr.entries[i] mbr'.entries[i]) →
          ∀ volume, mbr.validate volume = mbr'.validate volume := by
  refine ⟨?_, ?_, ?_⟩
  · intro n hn
    have hcomponents := Chs.components_ofLba hn
    have hlba := Chs.lba_ofLba hn
    have hread := Chs.ofPacked_of_pack_eq (Chs.packable_ofLba hn) rfl
    refine ⟨hcomponents, _, _, _, rfl, hread, ?_⟩
    rw [hread, hlba]
  · intro first last hle hlast byChs byCount hchs hcount
    have hextent := hchs.sectorExtent_eq (Nat.lt_of_le_of_lt hle hlast) hlast
    have hextent' := hcount.sectorExtent_eq hle
    refine ⟨hextent, hextent', fun sectorSize => ?_⟩
    rw [Entry.byteExtent?, Entry.byteExtent?, hextent, hextent']
  · intro mbr mbr' hsignature hrecast volume
    exact (agrees_of_recast hsignature hrecast).validate_eq volume

/-! ## A table in mixed forms -/

/-- Sectors 63 to 32129 by their addresses, and the highest cylinder that has any by its number of
sectors. -/
def mixedTable : Mbr :=
  let unused : Entry := ⟨0x00, ⟨0, 0, 0⟩, 0x00, ⟨0, 0, 0⟩, 0, 0⟩
  ⟨#v[⟨0x80, ⟨0, 1, 1⟩, 0x06, ⟨1, 254, 63⟩, 7, 0⟩, unused,
    ⟨0x00, ⟨9, 9, 9⟩, 0x0C, ⟨9, 9, 9⟩, 16434495, 16065⟩, unused], bootSignature⟩

/-- The same sectors, each described in the other form. -/
def turnedTable : Mbr :=
  let unused : Entry := ⟨0x00, ⟨0, 0, 0⟩, 0x00, ⟨0, 0, 0⟩, 0, 0⟩
  ⟨#v[⟨0x80, ⟨0, 0, 0⟩, 0x06, ⟨0, 0, 0⟩, 63, 32067⟩, unused,
    ⟨0x00, ⟨1023, 0, 1⟩, 0x0C, ⟨1023, 254, 63⟩, 0, 0⟩, unused], bootSignature⟩

/-- A disk of so many sectors. -/
def diskOf (sectorCount : UInt64) : Volume where
  method := .memory
  deviceId := 0
  partition := none
  alignment := 1
  sectorSize := 512
  mediaId := 0
  sectorCount := sectorCount
  firstByte := 0
  kind := .unknown

/-- Both are accepted on a disk that ends with the last sector, and are too long for a disk that has
one sector less. -/
theorem mixedTable_checked_alike :
    mixedTable.validate (diskOf 16450560) = .ok ()
      ∧ turnedTable.validate (diskOf 16450560) = .ok ()
      ∧ mixedTable.validate (diskOf 16450559) = .error (.invalid .partitionPastEnd)
      ∧ turnedTable.validate (diskOf 16450559) = .error (.invalid .partitionPastEnd) := by
  have hrecast : ∀ (i : Nat) (hi : i < 4),
      Entry.Recast mixedTable.entries[i] turnedTable.entries[i] := by
    intro i hi
    match i with
    | 0 =>
      exact .toCount ⟨rfl, rfl, 63, 32129, by decide, by decide, ⟨rfl, rfl, rfl⟩, ⟨rfl, rfl⟩⟩
    | 1 => exact .same _
    | 2 =>
      exact .toChs ⟨rfl, rfl, 16434495, 16450559, by decide, by decide, ⟨rfl, rfl, rfl⟩, ⟨rfl, rfl⟩⟩
    | 3 => exact .same _
  obtain ⟨-, -, hchecked⟩ := two_forms_agree
  have halike := hchecked mixedTable turnedTable rfl hrecast
  refine ⟨rfl, ?_, rfl, ?_⟩
  · rw [← halike]
    rfl
  · rw [← halike]
    rfl

end Mbr

end VolumeScan
