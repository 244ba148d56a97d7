/-
VolumeScan.Proofs.Chs — addresses by cylinder, head and sector, packed and counted.

Three bytes hold ten bits of a cylinder, a head and six bits of a sector. Any three bytes are the
packed form of the address that is read from them (`Chs.pack_ofPacked`), and an address that has
room in three bytes (`Chs.Packable`) is read back from them (`Chs.ofPacked_of_pack_eq`).

The geometry uses less than that: the sectors of a track count from 1 to 63 and the heads from 0 to
254. Below `Chs.addressable` every linear address has its own cylinder, head and sector, each
of which fits its field (`Chs.components_ofLba`), and is computed back from them (`Chs.lba_ofLba`).
-/
import VolumeScan.Chs

namespace VolumeScan

namespace Chs

/-! ## Three bytes -/

/-- The address has room in three bytes. -/
structure Packable (chs : Chs) : Prop where
  cylinder_lt : chs.cylinder.toNat < 1024
  sector_lt : chs.sector.toNat < 64

/-- What is read from three bytes has room in them. -/
theorem packable_ofPacked (b0 b1 b2 : UInt8) : (ofPacked b0 b1 b2).Packable := by
  have h1 : b1.toNat < 256 := b1.toNat_lt
  have h2 : b2.toNat < 256 := b2.toNat_lt
  constructor
  · simp only [ofPacked, UInt16.toNat_ofNat']
    omega
  · simp only [ofPacked, UInt8.toNat_ofNat']
    omega

/-- Any three bytes are packed again as they were. -/
theorem pack_ofPacked (b0 b1 b2 : UInt8) : (ofPacked b0 b1 b2).pack = [b0, b1, b2] := by
  have h1 : b1.toNat < 256 := b1.toNat_lt
  have h2 : b2.toNat < 256 := b2.toNat_lt
  simp only [pack, ofPacked, List.cons.injEq, true_and, and_true, ← UInt8.toNat_inj,
    UInt8.toNat_ofNat', UInt16.toNat_ofNat']
  constructor
  · omega
  · omega

/-- An address that has room in three bytes is read back from them. -/
theorem ofPacked_of_pack_eq {chs : Chs} (h : chs.Packable) {b0 b1 b2 : UInt8}
    (hpack : chs.pack = [b0, b1, b2]) : ofPacked b0 b1 b2 = chs := by
  obtain ⟨cylinder, head, sector⟩ := chs
  obtain ⟨hcylinder, hsector⟩ := h
  simp only [pack, List.cons.injEq, and_true] at hpack hcylinder hsector
  obtain ⟨rfl, rfl, rfl⟩ := hpack
  simp only [ofPacked, Chs.mk.injEq, true_and, ← UInt8.toNat_inj, ← UInt16.toNat_inj,
    UInt8.toNat_ofNat', UInt16.toNat_ofNat']
  constructor
  · omega
  · omega

/-- Addresses that have room in three bytes are packed alike only if they are equal. -/
theorem pack_inj {chs chs' : Chs} (h : chs.Packable) (h' : chs'.Packable) :
    chs.pack = chs'.pack ↔ chs = chs' := by
  constructor
  · intro hpack
    exact (ofPacked_of_pack_eq h rfl).symm.trans (ofPacked_of_pack_eq h' hpack.symm)
  · intro heq
    rw [heq]

/-! ## Linear addresses -/

/-- The number of linear addresses that have a cylinder of ten bits. -/
def addressable : Nat := 1024 * heads * sectorsPerTrack

variable {n : Nat}

/-- The components of an address fit their fields. -/
theorem components_ofLba (h : n < addressable) :
    (ofLba n).cylinder.toNat = n / sectorsPerTrack / heads
      ∧ (ofLba n).head.toNat = n / sectorsPerTrack % heads
      ∧ (ofLba n).sector.toNat = n % sectorsPerTrack + 1 := by
  unfold addressable heads sectorsPerTrack at h
  simp only [ofLba, UInt8.toNat_ofNat', UInt16.toNat_ofNat', heads, sectorsPerTrack]
  refine ⟨?_, ?_, ?_⟩
  · omega
  · omega
  · omega

/-- A linear address is computed back from its components. -/
theorem lba_ofLba (h : n < addressable) : (ofLba n).lba = n := by
  obtain ⟨hcylinder, hhead, hsector⟩ := components_ofLba h
  rw [lba, hcylinder, hhead, hsector, Nat.add_sub_cancel, Nat.div_add_mod', Nat.div_add_mod']

theorem packable_ofLba (h : n < addressable) : (ofLba n).Packable := by
  obtain ⟨hcylinder, -, hsector⟩ := components_ofLba h
  unfold addressable heads sectorsPerTrack at *
  constructor
  · omega
  · omega

end Chs

end VolumeScan
