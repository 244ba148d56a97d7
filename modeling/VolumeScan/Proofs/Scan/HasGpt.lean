/-
VolumeScan.Proofs.Scan.HasGpt — which GPT a volume has.

Contents have a GPT (`Contents.HasGpt`) if both sectors for headers are there, one of the headers is
to be trusted, and the array that it announces is there and is admitted. They have no two
(`Contents.HasGpt.unique`), and every GPT that an environment serves is the one that the volume has
(`Environment.ServesGpt.hasGpt`), whatever fails and however large the blocks are that it grants.
-/
import VolumeScan.Proofs.Scan.GptDetection

namespace VolumeScan

namespace Contents

variable {contents : Contents} {volume : Volume}

/-- A header that is valid in its place stands in one of the two sectors for headers. -/
def HoldsHeader (contents : Contents) (volume : Volume) (slot : Gpt.HeaderCopy)
    (header : Gpt.Header) : Prop :=
  let size := volume.sectorSize.toNat
  let total := volume.sectorCount.toNat
  ∃ sector, contents.read? ((slot.lbas total).1 * size) size = some sector
    ∧ Gpt.Header.validate sector slot size total = .ok header

/-- The array that a header announces is there, up to the end of its last sector. -/
def HoldsArray (contents : Contents) (volume : Volume) (header : Gpt.Header) (array : Bytes) :
    Prop :=
  let size := volume.sectorSize.toNat
  ∃ sectors, contents.read? (header.entriesLba.toNat * size)
      (Gpt.sectorsLen header.arrayLen size) = some sectors
    ∧ array = sectors.take header.arrayLen

/-- The header to trust: the first one if it is valid, and otherwise the second one, which has to
be. -/
def Trusts (contents : Contents) (volume : Volume) : Gpt.HeaderCopy → Gpt.Header → Prop
  | .primary, header => contents.HoldsHeader volume .primary header
  | .backup, header => (∀ rejected, ¬contents.HoldsHeader volume .primary rejected)
    ∧ contents.HoldsHeader volume .backup header

/-- The volume has a GPT with this header and this array: both sectors for headers are there, the
header is the one to trust, the array is there, and it is admitted. -/
structure HasGpt (contents : Contents) (volume : Volume) (slot : Gpt.HeaderCopy)
    (header : Gpt.Header) (array : Bytes) : Prop where
  addressable : (volume.sectorCount.toNat - 1) * volume.sectorSize.toNat < wordLimit
  readable : ∀ copy : Gpt.HeaderCopy,
    (contents.read? ((copy.lbas volume.sectorCount.toNat).1 * volume.sectorSize.toNat)
      volume.sectorSize.toNat).isSome
  trusted : contents.Trusts volume slot header
  holdsArray : contents.HoldsArray volume header array
  crc_eq : header.entriesCrc = crc32 array
  admits : ∀ item ∈ header.usedEntries array, header.Admits item.2

variable {slot slot' : Gpt.HeaderCopy} {header header' : Gpt.Header}
  {sector array array' : Bytes}

/-- A sector that can be read holds the header that it is valid with. -/
theorem holdsHeader_iff
    (hread : contents.read? ((slot.lbas volume.sectorCount.toNat).1 * volume.sectorSize.toNat)
      volume.sectorSize.toNat = some sector) :
    contents.HoldsHeader volume slot header ↔
      Gpt.Header.validate sector slot volume.sectorSize.toNat volume.sectorCount.toNat
        = .ok header := by
  constructor
  · intro h
    obtain ⟨sector', hread', hvalid⟩ := h
    rwa [Option.some.inj (hread'.symm.trans hread)] at hvalid
  · exact fun hvalid => ⟨sector, hread, hvalid⟩

/-- A place holds one header only. -/
theorem HoldsHeader.unique (h : contents.HoldsHeader volume slot header)
    (h' : contents.HoldsHeader volume slot header') : header' = header := by
  obtain ⟨sector, hread, hvalid⟩ := h
  rw [holdsHeader_iff hread, hvalid] at h'
  exact (Except.ok.inj h').symm

/-- Only one header is trusted. -/
theorem Trusts.unique (h : contents.Trusts volume slot header)
    (h' : contents.Trusts volume slot' header') : slot' = slot ∧ header' = header := by
  cases slot <;> cases slot'
  · exact ⟨rfl, HoldsHeader.unique h h'⟩
  · exact absurd h (h'.1 header)
  · exact absurd h' (h.1 header')
  · exact ⟨rfl, h.2.unique h'.2⟩

/-- A header that is trusted stands in its place. -/
theorem Trusts.holdsHeader (h : contents.Trusts volume slot header) :
    contents.HoldsHeader volume slot header := by
  cases slot with
  | primary => exact h
  | backup => exact h.2

/-- Trusting a header is choosing it, once both sectors were read. -/
theorem trusts_iff {primary backup : Bytes}
    (hprimary : contents.read? (1 * volume.sectorSize.toNat) volume.sectorSize.toNat
      = some primary)
    (hbackup : contents.read? ((volume.sectorCount.toNat - 1) * volume.sectorSize.toNat)
      volume.sectorSize.toNat = some backup) :
    contents.Trusts volume slot header ↔
      (Gpt.chooseHeader primary backup volume.sectorSize.toNat volume.sectorCount.toNat).1
        = .ok (slot, header) := by
  have hfirst : ∀ {header}, contents.HoldsHeader volume .primary header ↔ _ :=
    holdsHeader_iff hprimary
  have hsecond : contents.HoldsHeader volume .backup header ↔ _ := holdsHeader_iff hbackup
  rw [Gpt.chooseHeader_eq_ok_iff]
  cases slot with
  | primary => simp [Trusts, hfirst]
  | backup =>
    simp only [Trusts, hfirst, hsecond, reduceCtorEq, false_and, true_and, false_or]
    cases Gpt.Header.validate primary .primary volume.sectorSize.toNat volume.sectorCount.toNat <;>
      simp

/-- A header announces one array only. -/
theorem HoldsArray.unique (h : contents.HoldsArray volume header array)
    (h' : contents.HoldsArray volume header array') : array' = array := by
  obtain ⟨sectors, hread, rfl⟩ := h
  obtain ⟨sectors', hread', rfl⟩ := h'
  rw [Option.some.inj (hread'.symm.trans hread)]

/-- The header is valid. -/
theorem HasGpt.valid (h : contents.HasGpt volume slot header array) :
    header.Valid slot volume.sectorSize.toNat volume.sectorCount.toNat := by
  obtain ⟨_, -, hvalid⟩ := h.trusted.holdsHeader
  exact Gpt.Header.validate_valid hvalid

/-- The array has the announced length. -/
theorem HasGpt.length_eq (h : contents.HasGpt volume slot header array) :
    array.length = header.arrayLen := by
  obtain ⟨sectors, hread, rfl⟩ := h.holdsArray
  obtain ⟨-, henough, -⟩ := (Gpt.sectorsLen_eq_iff h.valid.sectorSize_pos).mp
    (Eq.refl (Gpt.sectorsLen header.arrayLen volume.sectorSize.toNat))
  rw [List.length_take_of_le (by rwa [(read?_eq_some_iff.mp hread).1])]

/-- The array is admitted. -/
theorem HasGpt.admitArray_eq (h : contents.HasGpt volume slot header array) :
    header.admitArray array = .ok () :=
  (Gpt.Header.admitArray_eq_ok_iff h.length_eq h.valid.entrySize_ge).mpr ⟨h.crc_eq, h.admits⟩

/-- **A volume has one GPT only.** -/
theorem HasGpt.unique (h : contents.HasGpt volume slot header array)
    (h' : contents.HasGpt volume slot' header' array') :
    slot' = slot ∧ header' = header ∧ array' = array := by
  obtain ⟨rfl, rfl⟩ := h.trusted.unique h'.trusted
  exact ⟨rfl, rfl, h.holdsArray.unique h'.holdsArray⟩

end Contents

/-- **A GPT that is served is the one that the volume has**, whatever fails and however much memory
is granted. -/
theorem Environment.ServesGpt.hasGpt {σ : Type} {env : Environment σ} {volume : Volume}
    {contents : Contents} {state : σ} {slot : Gpt.HeaderCopy} {header : Gpt.Header} {array : Bytes}
    (hshows : env.Shows volume contents) (h : env.ServesGpt volume state slot header array) :
    contents.HasGpt volume slot header array := by
  obtain ⟨-, hlast, _, _, hheaders, harray, hcrc, hadmits⟩ := h
  have hsize := hheaders.valid.sectorSize_pos
  obtain ⟨-, -, hfirst, hsecond, hchosen⟩ := hheaders
  obtain ⟨hwhole, henough, hleast, -, hread⟩ := harray
  obtain rfl := (Gpt.sectorsLen_eq_iff hsize).mpr ⟨hwhole, henough, hleast⟩
  have hprimary := hfirst.read?_eq hshows
  nth_rewrite 1 [← Nat.one_mul volume.sectorSize.toNat] at hprimary
  have hbackup := hsecond.read?_eq hshows
  exact {
    addressable := hlast
    readable := fun copy => by
      cases copy with
      | primary => exact Option.isSome_of_mem hprimary
      | backup => exact Option.isSome_of_mem hbackup
    trusted := (Contents.trusts_iff hprimary hbackup).mpr (Gpt.chooseHeader_eq_ok_iff.mpr hchosen)
    holdsArray := ⟨_, hread.read?_eq hshows, rfl⟩
    crc_eq := hcrc
    admits := fun item hmem => hadmits item.1 item.2 hmem }

end VolumeScan
