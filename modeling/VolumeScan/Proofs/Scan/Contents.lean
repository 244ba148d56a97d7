/-
VolumeScan.Proofs.Scan.Contents — what a volume holds, whoever reads it.

`Contents` are the bytes of a volume by position. An environment shows them if its successful reads
give these bytes (`Environment.Shows`); reads may fail, and the answers may depend on the state.
Volumes on a set of devices have contents (`Disks.contents`), which an environment over these
devices shows, whichever places are broken, and reads wherever they are not
(`Environment.ofDisks_reads`).
-/
import VolumeScan.Proofs.Disks
import VolumeScan.Proofs.Scan.Returns

namespace VolumeScan

/-- The bytes of a volume. Where there is none, the volume has ended or cannot be read. -/
abbrev Contents := Nat → Option UInt8

namespace Contents

/-- The bytes at `len` positions from `pos` on, if all of them are there. -/
def read? (contents : Contents) : Nat → Nat → Option Bytes
  | _, 0 => some []
  | pos, len + 1 => do
    let first ← contents pos
    let rest ← read? contents (pos + 1) len
    return first :: rest

variable {contents contents' : Contents} {pos len : Nat} {bytes : Bytes}

/-- What is read are the bytes at the positions asked for, in order. -/
theorem read?_eq_some_iff :
    contents.read? pos len = some bytes ↔
      bytes.length = len ∧ ∀ i < len, contents (pos + i) = bytes[i]? := by
  induction len generalizing pos bytes with
  | zero => cases bytes <;> simp [read?]
  | succ len ih =>
    simp only [read?, Option.bind_eq_bind, Option.bind_eq_some_iff, ih, Option.pure_def,
      Option.some.injEq]
    constructor
    · rintro ⟨first, hfirst, rest, ⟨hlength, hrest⟩, rfl⟩
      refine ⟨by simp [hlength], fun i hi => ?_⟩
      cases i with
      | zero => simpa using hfirst
      | succ i =>
        have hat := hrest i (Nat.lt_of_succ_lt_succ hi)
        rwa [Nat.add_assoc, Nat.add_comm 1] at hat
    · rintro ⟨hlength, hall⟩
      cases bytes with
      | nil => simp at hlength
      | cons first rest =>
        refine ⟨first, by simpa using hall 0 (Nat.succ_pos len), rest, ⟨?_, ?_⟩, rfl⟩
        · simpa using hlength
        · intro i hi
          have hat := hall (i + 1) (Nat.succ_lt_succ hi)
          rwa [List.getElem?_cons_succ, Nat.add_comm i, ← Nat.add_assoc] at hat

/-- What is read depends on the positions asked for only. -/
theorem read?_congr (h : ∀ i < len, contents' (pos + i) = contents (pos + i)) :
    contents'.read? pos len = contents.read? pos len := by
  ext bytes
  simp only [read?_eq_some_iff]
  constructor
  · rintro ⟨hlength, hall⟩
    exact ⟨hlength, fun i hi => (h i hi).symm.trans (hall i hi)⟩
  · rintro ⟨hlength, hall⟩
    exact ⟨hlength, fun i hi => (h i hi).trans (hall i hi)⟩

/-- Where the same bytes are read, the same bytes are. -/
theorem eq_of_read?_eq (h : contents.read? pos len = some bytes)
    (h' : contents'.read? pos len = some bytes) {position : Nat} (hfrom : pos ≤ position)
    (hto : position < pos + len) : contents' position = contents position := by
  obtain ⟨-, hall⟩ := read?_eq_some_iff.mp h
  obtain ⟨-, hall'⟩ := read?_eq_some_iff.mp h'
  have hoffset : position - pos < len := by omega
  have hposition : pos + (position - pos) = position := Nat.add_sub_cancel' hfrom
  rw [← hposition, hall' _ hoffset, hall _ hoffset]

/-- Bytes can be read where every position has one. -/
theorem isSome_read?_iff :
    (contents.read? pos len).isSome ↔ ∀ i < len, (contents (pos + i)).isSome := by
  induction len generalizing pos with
  | zero => simp [read?]
  | succ len ih =>
    have hsplit : (contents.read? pos (len + 1)).isSome ↔
        (contents pos).isSome ∧ (contents.read? (pos + 1) len).isSome := by
      rw [read?]
      cases contents pos <;> cases contents.read? (pos + 1) len <;> simp
    rw [hsplit, ih, Nat.forall_lt_succ_left']
    simp [Nat.add_assoc, Nat.add_comm 1]

end Contents

/-! ## Environments -/

/-- What is read from the volume, whenever a read succeeds, is what it holds. -/
def Environment.Shows {σ : Type} (env : Environment σ) (volume : Volume) (contents : Contents) :
    Prop :=
  ∀ {state answered : σ} {pos len : Nat} {block : Block len},
    env.read state volume pos len = (.ok block, answered) → contents.read? pos len = some block.val

theorem Environment.Reads.read?_eq {σ : Type} {env : Environment σ} {volume : Volume}
    {contents : Contents} (hshows : env.Shows volume contents) {state state' : σ} {pos len : Nat}
    {buffer : Grant} {bytes : Bytes} (h : env.Reads state volume pos len buffer bytes state') :
    contents.read? pos len = some bytes := by
  obtain ⟨block, answered, hread, rfl, -⟩ := h
  exact hshows hread

/-! ## Volumes on devices -/

namespace Disks

/-- What a volume on these devices holds: the bytes of its device from its first byte on, up to the
end of the volume or of the device. -/
def contents (disks : Disks) (volume : Volume) : Contents := fun pos =>
  match disks.devices[volume.deviceId.toNat]? with
  | none => none
  | some device =>
    if pos < volume.byteLen ∧ volume.firstByte.toNat + pos < device.size then
      some (device.byteAt (volume.firstByte.toNat + pos))
    else none

variable {disks : Disks} {volume : Volume} {pos len : Nat}

theorem contents_of_device {device : Device}
    (hdevice : disks.devices[volume.deviceId.toNat]? = some device) (pos : Nat) :
    disks.contents volume pos =
      if pos < volume.byteLen ∧ volume.firstByte.toNat + pos < device.size then
        some (device.byteAt (volume.firstByte.toNat + pos))
      else none := by
  simp [contents, hdevice]

/-- What is read through a volume is what it holds. -/
theorem read?_of_read {block : Block len} (h : disks.read volume pos len = .ok block) :
    (disks.contents volume).read? pos len = some block.val := by
  rcases Nat.eq_zero_or_pos len with rfl | hlen
  · rw [List.length_eq_zero_iff.mp block.property]
    rfl
  · obtain ⟨device, hdevice, ⟨hinside, -⟩, hend, rfl⟩ := (read_eq_ok_iff hlen).mp h
    refine Contents.read?_eq_some_iff.mpr ⟨(device.read _ len).property, fun i hi => ?_⟩
    rw [contents_of_device hdevice, if_pos (by omega)]
    simp [Device.read, hi, Nat.add_assoc]

/-- What a volume holds can be read through it, up to the last byte that has a 64-bit address. -/
theorem read_of_read? {bytes : Bytes} (hend : volume.firstByte.toNat + volume.byteLen < wordLimit)
    (hlen : 0 < len) (h : (disks.contents volume).read? pos len = some bytes) :
    ∃ block : Block len, disks.read volume pos len = .ok block ∧ block.val = bytes := by
  have hsome := Contents.isSome_read?_iff.mp (Option.isSome_of_mem h)
  cases hdevice : disks.devices[volume.deviceId.toNat]? with
  | none =>
    have hfirst := hsome 0 hlen
    simp [contents, hdevice] at hfirst
  | some device =>
    have hlast := hsome (len - 1) (by omega)
    rw [contents_of_device hdevice] at hlast
    have hinside : pos + len ≤ volume.byteLen
        ∧ volume.firstByte.toNat + pos + len ≤ device.size := by
      split at hlast
      · omega
      · cases hlast
    have hread : disks.read volume pos len
        = .ok (device.read (volume.firstByte.toNat + pos) len) :=
      (read_eq_ok_iff hlen).mpr ⟨device, hdevice, ⟨hinside.1, by omega⟩, hinside.2, rfl⟩
    exact ⟨_, hread, Option.some.inj ((read?_of_read hread).symm.trans h)⟩

end Disks

namespace Environment

variable {σ : Type} (disks : Disks) (volume : Volume) (broken : List (UInt32 × Nat))
  (scratch : Allocator σ)

/-- What is read from devices is what the volume holds, whichever places are broken. -/
theorem ofDisks_shows :
    (Environment.ofDisks disks broken scratch).Shows volume (disks.contents volume) := by
  intro state answered pos len block hread
  refine Disks.read?_of_read ?_
  simp only [Environment.ofDisks] at hread
  split at hread
  · cases hread
  · exact congrArg Prod.fst hread

variable {disks volume broken scratch}

/-- What the volume holds is read, wherever it is not broken. -/
theorem ofDisks_reads {pos len : Nat} {bytes : Bytes} (hlen : 0 < len)
    (hend : volume.firstByte.toNat + volume.byteLen < wordLimit)
    (hbroken : (volume.deviceId, pos) ∉ broken)
    (h : (disks.contents volume).read? pos len = some bytes) (state : σ) (buffer : Grant) :
    (Environment.ofDisks disks broken scratch).Reads state volume pos len buffer bytes
      (scratch.store state buffer 0 bytes) := by
  obtain ⟨block, hread, hbytes⟩ := Disks.read_of_read? hend hlen h
  have hanswer : (Environment.ofDisks disks broken scratch).read state volume pos len
      = (.ok block, state) := by
    simp only [Environment.ofDisks, if_neg hbroken, hread]
  exact ⟨block, state, hanswer, hbytes, rfl⟩

end Environment

/-! ## Devices made of sectors -/

/-- The bytes of a sector, among those of all sectors. -/
theorem getElem?_flatten_sectors {sectors : List Bytes} {sector : Bytes} {size index i : Nat}
    (hsizes : ∀ sector ∈ sectors, sector.length = size) (hat : sectors[index]? = some sector)
    (hi : i < size) : sectors.flatten[index * size + i]? = sector[i]? := by
  induction sectors generalizing index with
  | nil => simp at hat
  | cons first rest ih =>
    have hfirst : first.length = size := hsizes first List.mem_cons_self
    rw [List.flatten_cons]
    cases index with
    | zero =>
      obtain rfl : first = sector := by simpa using hat
      rw [Nat.zero_mul, Nat.zero_add, List.getElem?_append_left (by omega)]
    | succ index =>
      have hoffset : (index + 1) * size + i - size = index * size + i := by
        rw [Nat.succ_mul]
        omega
      rw [List.getElem?_append_right (by rw [hfirst, Nat.succ_mul]; omega), hfirst, hoffset]
      exact ih (fun sector hmem => hsizes sector (List.mem_cons_of_mem _ hmem)) (by simpa using hat)

/-- A volume that starts with its device holds the sectors that the device was made from. -/
theorem Disks.read?_sector {disks : Disks} {volume : Volume} {sectors : List Bytes}
    {sector : Bytes} {size index : Nat}
    (hdevice : disks.devices[volume.deviceId.toNat]?
      = some (Device.ofArray sectors.flatten.toArray))
    (hstart : volume.firstByte = 0) (hsizes : ∀ sector ∈ sectors, sector.length = size)
    (hat : sectors[index]? = some sector) (hend : (index + 1) * size ≤ volume.byteLen) :
    (disks.contents volume).read? (index * size) size = some sector := by
  have hlength : sector.length = size := hsizes sector (List.mem_of_getElem? hat)
  refine Contents.read?_eq_some_iff.mpr ⟨hlength, fun i hi => ?_⟩
  have hbyte : sectors.flatten[index * size + i]? = some sector[i] := by
    rw [getElem?_flatten_sectors hsizes hat hi, List.getElem?_eq_getElem]
  have hinside : index * size + i < sectors.flatten.length :=
    (List.getElem?_eq_some_iff.mp hbyte).1
  have hbefore : index * size + i < volume.byteLen := by
    rw [Nat.succ_mul] at hend
    omega
  rw [Disks.contents_of_device hdevice,
    if_pos ⟨hbefore, by simpa [Device.ofArray, hstart] using hinside⟩]
  simp [Device.ofArray, hstart, hbyte]

end VolumeScan
