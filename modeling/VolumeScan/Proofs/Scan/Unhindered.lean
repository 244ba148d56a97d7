/-
VolumeScan.Proofs.Scan.Unhindered — detections in which nothing fails.

Whether a detection was granted its memory and given its bytes shows in its events
(`Event.Unhindered`); what the environment would have done to other requests does not matter. An
action that goes on behind a failure would hide it, and none does: a detection that succeeds was not
hindered (`Scanner.unhindered_of_detect`). On a volume with a GPT the converse holds
(`Scanner.detect_completes`): `Action.Completes` is the contract of an action that can only fail if
it is hindered. So a detection succeeds exactly if it is not hindered and the volume has a GPT, and
that GPT gives the result (`Scanner.yields_detect_hasGpt_iff`).
-/
import VolumeScan.Proofs.Scan.HasGpt
import VolumeScan.Proofs.Scan.Rules

namespace VolumeScan

namespace Event

/-- Nothing that was asked for in these events failed: every request for memory was granted in full,
and every read of bytes that `volume` holds succeeded. -/
structure Unhindered (volume : Volume) (contents : Contents) (events : List Event) : Prop where
  granted : ∀ {size : Nat} {answer : Option Grant}, .allocate size answer ∈ events →
    ∃ grant, answer = some grant ∧ size ≤ grant.size
  answered : ∀ {pos len : Nat} {answer : Option Bytes}, .read volume pos len answer ∈ events →
    0 < len → (contents.read? pos len).isSome → answer.isSome

namespace Unhindered

variable {volume : Volume} {contents : Contents} {events more : List Event}

theorem mono (h : Unhindered volume contents events) (hsubset : more ⊆ events) :
    Unhindered volume contents more where
  granted := fun hmem => h.granted (hsubset hmem)
  answered := fun hmem => h.answered (hsubset hmem)

theorem append (h : Unhindered volume contents events) (hmore : Unhindered volume contents more) :
    Unhindered volume contents (events ++ more) where
  granted := fun hmem => (List.mem_append.mp hmem).elim h.granted hmore.granted
  answered := fun hmem => (List.mem_append.mp hmem).elim h.answered hmore.answered

theorem nil : Unhindered volume contents [] := ⟨nofun, nofun⟩

theorem logs (records : List Record) : Unhindered volume contents (records.map Event.log) := by
  constructor <;> simp

/-- A read that was answered. -/
theorem read (source : Volume) (pos len : Nat) (bytes : Bytes) :
    Unhindered volume contents [.read source pos len (some bytes)] where
  granted := by simp
  answered := fun hmem _ _ => by
    cases List.mem_singleton.mp hmem
    rfl

/-- What is done between the grant of a block and its release. -/
theorem block (h : Unhindered volume contents events) {size : Nat} {grant : Grant}
    (hsize : size ≤ grant.size) (hmore : Unhindered volume contents more) :
    Unhindered volume contents
      (.allocate size (some grant) :: events ++ (.release grant :: more)) := by
  have hgrant : Unhindered volume contents [.allocate size (some grant)] :=
    ⟨by simpa using hsize, by simp⟩
  have hrelease : Unhindered volume contents [.release grant] := ⟨by simp, by simp⟩
  exact (hgrant.append h).append (hrelease.append hmore)

end Unhindered

end Event

namespace Action

variable {σ α β : Type} {volume : Volume} {contents : Contents}

/-! ## What succeeds was not hindered -/

/-- Whatever the environment does, the action only succeeds if it was not hindered. -/
def HidesNothing (volume : Volume) (contents : Contents) (action : Action σ α) : Prop :=
  ∀ registry state a, (action.run registry state).result = .ok a →
    Event.Unhindered volume contents (action.run registry state).events

namespace HidesNothing

theorem append (appended : Volume) :
    HidesNothing volume contents (Action.append appended : Action σ Bool) := by
  intro registry state a _
  cases happend : registry.append appended with
  | some grown =>
    rw [run_append_of_some happend]
    exact .nil
  | none =>
    rw [run_append_of_none happend]
    exact .nil

theorem classify (index : Nat) (kind : VolumeKind) :
    HidesNothing volume contents (Action.classify index kind : Action σ Unit) := by
  intro registry state a _
  cases hclassify : registry.classify index kind with
  | ok classified =>
    rw [run_classify_of_ok hclassify]
    exact .nil
  | error error =>
    rw [run_classify_of_error hclassify]
    exact .nil

theorem fill (env : Environment σ) (buffer : Grant) (source : Volume) (pos len : Nat) :
    HidesNothing volume contents (Action.fill env buffer source pos len) := by
  intro registry state a hok
  rcases Nat.lt_or_ge buffer.size len with hshort | hlen
  · rw [run_fill_of_short hshort] at hok
    cases hok
  · rcases hread : env.read state source pos len with ⟨result, answered⟩
    cases result with
    | ok block =>
      rw [run_fill_of_ok hlen hread]
      exact .read source pos len block.val
    | error error =>
      rw [run_fill_of_error hlen hread] at hok
      cases hok

theorem bind {action : Action σ α} {next : α → Action σ β}
    (h : HidesNothing volume contents action)
    (hnext : ∀ a, HidesNothing volume contents (next a)) :
    HidesNothing volume contents (action >>= next) := by
  intro registry state b hok
  cases hresult : (action.run registry state).result with
  | ok a =>
    rw [run_bind_of_ok hresult] at hok ⊢
    exact (h registry state a hresult).append (hnext a _ _ b hok)
  | error error =>
    rw [run_bind_of_error hresult] at hok
    cases hok

/-- A block that is refused or too small is an error, so the block was granted in full. -/
theorem withBuffer {env : Environment σ} {size : Nat} {body : Grant → Action σ α}
    (h : ∀ grant, HidesNothing volume contents (body grant)) :
    HidesNothing volume contents (Action.withBuffer env size body) := by
  intro registry state a hok
  rcases hacquire : env.scratch.acquire state size with ⟨acquisition, acquired⟩
  cases acquisition with
  | refused =>
    rw [run_withBuffer_of_refused hacquire] at hok
    cases hok
  | short grant =>
    rw [run_withBuffer_of_short hacquire] at hok
    cases hok
  | whole grant =>
    have hsize : size ≤ grant.size := (Environment.grants_iff.mpr hacquire).size_le
    rw [run_withBuffer_of_whole hacquire] at hok ⊢
    refine (h grant registry acquired a hok).block hsize ?_
    unfold complaint
    split
    · exact .nil
    · exact .logs [_]

/-- Every operation hides nothing that is made of these steps. -/
theorem rules (env : Environment σ) (volume : Volume) (contents : Contents) :
    Rules env env (fun _ => True) fun _ action _ => HidesNothing volume contents action where
  lift := fun _ _ _ _ _ => .nil
  log := fun records _ _ _ _ => .logs records
  current := fun _ _ _ _ => .nil
  append := append
  classify := classify
  fill := fun {_ buffer} _ => fill env buffer
  bind := bind
  withBuffer := fun hbody => withBuffer fun grant => hbody grant trivial

end HidesNothing

/-! ## What is not hindered succeeds -/

/-- From `registry`, if it is not hindered, the action ends with a result and a registry as `post`
says. -/
def Completes (action : Action σ α) (volume : Volume) (contents : Contents) (registry : Registry)
    (post : α → Registry → Prop) : Prop :=
  ∀ state, Event.Unhindered volume contents (action.run registry state).events →
    ∃ a, (action.run registry state).result = .ok a
      ∧ post a (action.run registry state).registry

namespace Completes

variable {registry : Registry} {post : α → Registry → Prop}

/-- An action that cannot fail completes. -/
theorem of_succeeds {action : Action σ α} (h : action.Succeeds registry post) :
    action.Completes volume contents registry post := fun state _ => h state

/-- The events of a step are among those of the sequence. -/
theorem bind {action : Action σ β} {next : β → Action σ α}
    (h : action.Completes volume contents registry fun b after =>
      (next b).Completes volume contents after post) :
    (action >>= next).Completes volume contents registry post := by
  intro state hunhindered
  cases hresult : (action.run registry state).result with
  | ok b =>
    rw [run_bind_of_ok hresult] at hunhindered ⊢
    obtain ⟨_, hb, hnext⟩ := h state (hunhindered.mono (List.subset_append_left _ _))
    cases hresult.symm.trans hb
    exact hnext _ (hunhindered.mono (List.subset_append_right _ _))
  | error error =>
    rw [run_bind_of_error hresult] at hunhindered
    obtain ⟨_, hb, -⟩ := h state hunhindered
    cases hresult.symm.trans hb

/-- A check that passes. -/
theorem lift {x : Except Error α} {a : α} (hx : x = .ok a) (h : post a registry) :
    (liftM x : Action σ α).Completes volume contents registry post :=
  of_succeeds (.lift hx h)

/-- Bytes that are there are read into a buffer that is large enough. -/
theorem fill {env : Environment σ} (hshows : env.Shows volume contents) {buffer : Grant}
    {pos len : Nat} {bytes : Bytes} {post : Bytes → Registry → Prop} (hlen : 0 < len)
    (hsize : len ≤ buffer.size) (hbytes : contents.read? pos len = some bytes)
    (h : post (bytes ++ List.replicate (buffer.size - len) 0) registry) :
    (Action.fill env buffer volume pos len).Completes volume contents registry post := by
  intro state hunhindered
  rcases hread : env.read state volume pos len with ⟨result, answered⟩
  cases result with
  | ok block =>
    obtain rfl : block.val = bytes := Option.some.inj ((hshows hread).symm.trans hbytes)
    rw [run_fill_of_ok hsize hread]
    exact ⟨_, rfl, h⟩
  | error error =>
    rw [run_fill_of_error hsize hread] at hunhindered
    have hanswered := hunhindered.answered List.mem_cons_self hlen (Option.isSome_of_mem hbytes)
    cases hanswered

/-- A block is granted in full, or it shows. -/
theorem withBuffer {env : Environment σ} {size : Nat} {body : Grant → Action σ α}
    (h : ∀ grant, size ≤ grant.size → (body grant).Completes volume contents registry post) :
    (Action.withBuffer env size body).Completes volume contents registry post := by
  intro state hunhindered
  rcases hacquire : env.scratch.acquire state size with ⟨acquisition, acquired⟩
  cases acquisition with
  | refused =>
    rw [run_withBuffer_of_refused hacquire] at hunhindered
    obtain ⟨_, hnone, -⟩ := hunhindered.granted List.mem_cons_self
    cases hnone
  | short grant =>
    rw [run_withBuffer_of_short hacquire] at hunhindered
    obtain ⟨_, hgrant, hsize⟩ := hunhindered.granted List.mem_cons_self
    cases hgrant
    exact absurd (Allocator.size_lt_of_short hacquire) (Nat.not_lt.mpr hsize)
  | whole grant =>
    have hsize : size ≤ grant.size := (Environment.grants_iff.mpr hacquire).size_le
    rw [run_withBuffer_of_whole hacquire] at hunhindered ⊢
    exact h grant hsize acquired (hunhindered.mono fun _ hmem => by simp [hmem])

end Completes

end Action

namespace Scanner

open VolumeScan.Action

variable {σ α : Type} {env : Environment σ} {options : Options} {mbr : Mbr} {index : Nat}
  {registry after : Registry} {state : σ} {volume : Volume} {contents : Contents}
  {slot : Gpt.HeaderCopy} {header : Gpt.Header} {array : Bytes} {post : α → Registry → Prop}

/-- The header of the GPT that the volume has is handed on. -/
theorem withHeader_completes (hshows : env.Shows volume contents)
    (h : contents.HasGpt volume slot header array) {body : Gpt.HeaderCopy → Gpt.Header → Action σ α}
    (hbody : (body slot header).Completes volume contents registry post) :
    (Scanner.withHeader ⟨env, options⟩ volume body).Completes volume contents registry post := by
  have hvalid := h.valid
  have hsize := hvalid.sectorSize_pos
  obtain ⟨primary, hprimary⟩ := Option.isSome_iff_exists.mp (h.readable .primary)
  obtain ⟨backup, hbackup⟩ := Option.isSome_iff_exists.mp (h.readable .backup)
  have hchosen := (Contents.trusts_iff hprimary hbackup).mp h.trusted
  have hone : (Gpt.HeaderCopy.primary.lbas volume.sectorCount.toNat).1 * volume.sectorSize.toNat
      = volume.sectorSize.toNat := Nat.one_mul _
  rw [hone] at hprimary
  have htotal : require (1 ≤ volume.sectorCount.toNat) .diskTooSmall = .ok () :=
    require_eq_ok_iff.mpr hvalid.one_le_total
  unfold withHeader
  refine .bind (.lift htotal ?_)
  refine .withBuffer fun first hfirst => .withBuffer fun last hlast => ?_
  refine .bind (.fill hshows hsize hfirst hprimary ?_)
  refine .bind (.lift (Gpt.byteOf_eq_ok_iff.mpr ⟨h.addressable, rfl⟩) ?_)
  refine .bind (.fill hshows hsize hlast hbackup ?_)
  rw [Gpt.chooseHeader_append (Contents.read?_eq_some_iff.mp hprimary).1
    (Contents.read?_eq_some_iff.mp hbackup).1]
  rcases hchoice : Gpt.chooseHeader primary backup volume.sectorSize.toNat
    volume.sectorCount.toNat with ⟨chosen, records⟩
  rw [hchoice] at hchosen
  exact .bind (.of_succeeds (.log (.bind (.lift hchosen hbody))))

/-- So is the array. -/
theorem withTable_completes (hshows : env.Shows volume contents)
    (h : contents.HasGpt volume slot header array) {body : Bytes → Action σ α}
    (hbody : (body array).Completes volume contents registry post) :
    (Scanner.withTable ⟨env, options⟩ volume header body).Completes volume contents registry
      post := by
  have hvalid := h.valid
  have hsize := hvalid.sectorSize_pos
  have hslack : header.arrayLen + (volume.sectorSize.toNat - 1) < wordLimit :=
    header.arrayLen_add_lt (Nat.lt_of_le_of_lt (Nat.sub_le _ _) volume.sectorSize.toNat_lt)
  have hstart : header.entriesLba.toNat * volume.sectorSize.toNat < wordLimit :=
    Gpt.Header.mul_lt_wordLimit h.addressable (Nat.le_of_lt hvalid.entriesLba_lt)
  have hadmitted := h.admitArray_eq
  obtain ⟨sectors, hsectors, rfl⟩ := h.holdsArray
  have hwhole := (Gpt.sectorsLen_eq_iff hsize).mp
    (Eq.refl (Gpt.sectorsLen header.arrayLen volume.sectorSize.toNat))
  have hlen : 0 < Gpt.sectorsLen header.arrayLen volume.sectorSize.toNat :=
    Nat.lt_of_lt_of_le hvalid.arrayLen_pos hwhole.2.1
  have henough : header.arrayLen ≤ sectors.length :=
    (Contents.read?_eq_some_iff.mp hsectors).1 ▸ hwhole.2.1
  unfold withTable
  refine .bind (.lift ((Gpt.wholeSectors_eq_ok_iff hsize hslack).mpr hwhole) ?_)
  refine .withBuffer fun block hblock => ?_
  refine .bind (.lift (Gpt.byteOf_eq_ok_iff.mpr ⟨hstart, rfl⟩) ?_)
  refine .bind (.fill hshows hlen hblock hsectors ?_)
  exact .bind (.lift (Bytes.slice_append_of_le henough _) (.bind (.lift hadmitted hbody)))

/-! ## Detections -/

/-- **A detection that succeeds was not hindered**: no failure on its way was passed over. -/
theorem unhindered_of_detect {scanner : Scanner σ} {detection : Detection}
    (hok : ((scanner.detect mbr index).run registry state).result = .ok detection)
    (volume : Volume) (contents : Contents) :
    Event.Unhindered volume contents ((scanner.detect mbr index).run registry state).events :=
  (HidesNothing.rules scanner.env volume contents).detect scanner.options mbr index registry state
    detection hok

section

variable (hshows : env.Shows volume contents) (hat : registry.volumes[index]? = some volume)
  (hwhole : volume.partition = none) (hunknown : volume.kind = .unknown)
  (hannounced : options.gpt = .revisionOne ∧ mbr.protectiveIndex?.isSome)

include hshows hat hwhole hunknown hannounced

/-- **On a device with a GPT, a detection that is not hindered succeeds.** -/
theorem detect_completes (h : contents.HasGpt volume slot header array) :
    (Scanner.detect ⟨env, options⟩ mbr index).Completes volume contents registry
      (options.Detects mbr index registry) := by
  obtain ⟨sector, -, hsector⟩ := h.trusted.holdsHeader
  have hvolume := Registry.volume_eq_ok_iff.mpr hat
  have hunscanned : require (volume.partition = none ∧ volume.kind = .unknown) .alreadyScanned
      = .ok () := require_eq_ok_iff.mpr ⟨hwhole, hunknown⟩
  have henlists : (Scanner.enlist ⟨env, options⟩ mbr volume).Completes volume contents registry
      (options.Enlists mbr volume registry) := by
    rw [enlist, if_pos hannounced]
    refine withHeader_completes hshows h (withTable_completes hshows h (.of_succeeds ?_))
    exact enlistArray_succeeds hannounced h.addressable hsector h.length_eq h.admitArray_eq
  unfold detect
  refine .bind (.of_succeeds (.current ?_))
  refine .bind (.lift hvolume (.bind (.lift hunscanned ?_)))
  refine .bind fun state hunhindered => ?_
  obtain ⟨enlisted, hok, hpost⟩ := henlists state hunhindered
  exact ⟨enlisted, hok, .of_succeeds (classified_succeeds hat hwhole hunknown hpost)⟩

/-- **What a detection comes to on a device whose table announces a GPT**, said of its own run: it
succeeds exactly if it is not hindered and the device has a GPT, and that GPT gives the result. -/
theorem yields_detect_hasGpt_iff {detection : Detection} :
    (Scanner.detect ⟨env, options⟩ mbr index).Yields registry state detection after ↔
      Event.Unhindered volume contents
          ((Scanner.detect ⟨env, options⟩ mbr index).run registry state).events
        ∧ ∃ slot header array, contents.HasGpt volume slot header array
        ∧ detection = {
            first := registry.size
            added := (((header.partitions array volume).map (·.volume)).take registry.room).length
            kind := .gptContainer
            header := some slot
            truncated := decide (registry.room < (header.partitions array volume).length) }
        ∧ after = { registry with
            volumes := registry.volumes.set index { volume with kind := .gptContainer }
              ++ ((header.partitions array volume).map (·.volume)).take registry.room } := by
  have hyields : ∀ {detection after}, (Scanner.detect ⟨env, options⟩ mbr index).Yields registry
      state detection after ↔ _ := yields_detect_gpt_iff hat hwhole hunknown hannounced
  constructor
  · intro h
    obtain ⟨slot, header, array, hserves, hresult⟩ := hyields.mp h
    exact ⟨unhindered_of_detect h.1 volume contents, slot, header, array, hserves.hasGpt hshows,
      hresult⟩
  · intro h
    obtain ⟨hunhindered, slot, header, array, hgpt, hresult⟩ := h
    obtain ⟨found, hok, -⟩ :=
      detect_completes hshows hat hwhole hunknown hannounced hgpt state hunhindered
    obtain ⟨slot', header', array', hserves, -⟩ := hyields.mp ⟨hok, rfl⟩
    obtain ⟨rfl, rfl, rfl⟩ := hgpt.unique (hserves.hasGpt hshows)
    exact hyields.mpr ⟨_, _, _, hserves, hresult⟩

/-- On a device without a GPT it fails and changes nothing. -/
theorem detect_of_not_hasGpt (h : ∀ slot header array, ¬contents.HasGpt volume slot header array) :
    let pass := (Scanner.detect ⟨env, options⟩ mbr index).run registry state
    (∃ error, pass.result = .error error) ∧ pass.registry = registry := by
  intro pass
  rcases detect_transacts ⟨env, options⟩ mbr index registry state with
    ⟨error, herror, hkept⟩ | ⟨detection, hok, -⟩
  · exact ⟨⟨error, herror⟩, hkept⟩
  · obtain ⟨slot, header, array, hserves, -⟩ :=
      (yields_detect_gpt_iff hat hwhole hunknown hannounced).mp ⟨hok, rfl⟩
    exact absurd (hserves.hasGpt hshows) (h slot header array)

end

end Scanner

end VolumeScan
