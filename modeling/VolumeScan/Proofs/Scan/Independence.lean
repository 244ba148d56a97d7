/-
VolumeScan.Proofs.Scan.Independence — devices do not influence one another.

What there is to find on a volume depends on the reads of its device alone
(`Scanner.finding_agree`). A pass enrolls what there is to find on one volume after the other, which
leaves the volumes that are still to come as they are. So, as long as there is room, each volume
gets the kind and adds the partitions that it would without the others
(`Registry.getElem?_enrollAll`, `Scanner.additions_steady`), whatever these hold and however their
reads fail.
-/
import VolumeScan.Proofs.Scan.SteadyPass

namespace VolumeScan

/-- The event says that there was no room for all partitions of a table. -/
def Event.overflows : Event → Bool
  | .log (.registryFull _ _) => true
  | _ => false

namespace Registry

variable {registry : Registry} {index : Nat}

/-- What is enrolled stands behind the volumes that were there before. -/
theorem drop_enroll (registry : Registry) (index : Nat) (found : Option Finding) :
    (registry.enroll index found).volumes.drop registry.size
      = (found.elim [] (·.volumes)).take registry.room := by
  cases found with
  | none => simp [enroll, size]
  | some found =>
    have hlength : (registry.volumes.modify index
        ({ · with kind := found.scheme.container })).length = registry.size := List.length_modify ..
    exact List.drop_left' hlength

/-- Behind the volume that was visited, nothing else changes. -/
theorem drop_enroll_of_lt {base : Nat} (hbase : base ≤ registry.size) (hindex : index < base)
    (found : Option Finding) :
    (registry.enroll index found).volumes.drop base = registry.volumes.drop base
      ++ (registry.enroll index found).volumes.drop registry.size := by
  rw [drop_enroll]
  cases found with
  | none => simp [enroll]
  | some found =>
    have hlength : base ≤ (registry.volumes.modify index
        ({ · with kind := found.scheme.container })).length := by rwa [List.length_modify]
    dsimp only [enroll, Option.elim]
    rw [List.drop_append_of_le_length hlength, List.drop_modify_of_lt _ _ _ _ hindex]

/-- A pass changes each volume as if it were the only one. -/
theorem getElem?_enrollAll (finding : Volume → Option Finding) {indices : List Nat}
    (hnodup : indices.Nodup) {i : Nat} (hi : i < registry.size) :
    (registry.enrollAll finding indices).volumes[i]? = if i ∈ indices then
        registry.volumes[i]?.map fun volume => volume.enrolled (finding volume)
      else registry.volumes[i]? := by
  induction indices generalizing registry with
  | nil => rfl
  | cons index rest ih =>
    obtain ⟨hindex, hrest⟩ := List.nodup_cons.mp hnodup
    have hfurther := ih hrest (Nat.lt_of_lt_of_le hi (registry.size_le_enrollFrom finding index))
    rw [getElem?_enrollFrom finding hi] at hfurther
    refine hfurther.trans ?_
    by_cases heq : index = i
    · subst heq
      simp [hindex]
    · simp [heq, Ne.symm heq]

end Registry

namespace Scanner

/-! ## What the visits of a pass add -/

section

variable {σ : Type} (scanner : Scanner σ)

/-- The volumes that visits to these indices append, visit by visit. -/
def additions : List Nat → Registry → σ → List (List Volume)
  | [], _, _ => []
  | index :: rest, registry, state =>
    let here := scanner.visit registry index state
    here.registry.volumes.drop registry.size :: additions rest here.registry here.state

theorem exists_registry_visit (registry : Registry) (index : Nat) (state : σ) :
    ∃ found, (scanner.visit registry index state).registry = registry.enroll index found := by
  cases hat : registry.volumes[index]? with
  | none => exact ⟨none, by rw [visit_of_none hat]; rfl⟩
  | some volume =>
    obtain ⟨-, -, hregistry, -⟩ := scanner.visit_eq_examine hat registry state
    exact ⟨_, hregistry⟩

/-- Together, the visits append what they append one by one. -/
theorem drop_visitAll {base : Nat} {indices : List Nat} (hindices : ∀ index ∈ indices, index < base)
    {registry : Registry} (hbase : base ≤ registry.size) (state : σ) :
    (scanner.visitAll indices registry state).registry.volumes.drop base
      = registry.volumes.drop base ++ (scanner.additions indices registry state).flatten := by
  induction indices generalizing registry state with
  | nil => simp [visitAll, additions]
  | cons index rest ih =>
    obtain ⟨hindex, hrest⟩ := List.forall_mem_cons.mp hindices
    obtain ⟨found, hregistry⟩ := scanner.exists_registry_visit registry index state
    have hadded := Registry.drop_enroll_of_lt hbase hindex found
    have hsize := registry.size_le_enroll index found
    rw [← hregistry] at hadded hsize
    have hfurther := ih hrest (Nat.le_trans hbase hsize) (scanner.visit registry index state).state
    dsimp only [visitAll, additions]
    rw [hfurther, hadded, List.flatten_cons, List.append_assoc]

/-- Behind a pass, the volumes that were there are followed by what its visits added. -/
theorem drop_discover (registry : Registry) (state : σ) :
    (scanner.discover registry state).registry.volumes.drop registry.size
      = (scanner.additions (List.range registry.size) registry state).flatten := by
  obtain ⟨-, hregistry, -, -⟩ := scanner.discover_eq_visitAll registry state
  rw [hregistry, scanner.drop_visitAll (fun _ => List.mem_range.mp) (Nat.le_refl _)]
  simp [Registry.size]

end

/-! ## Two sets of devices -/

variable {σ : Type} {scratch : Allocator σ} {start s : σ}
  {answer : List (Nat × Nat) → Nat → Option Nat}
  {reader reader' : Volume → Nat → (len : Nat) → Except Error (Block len)}

/-- **What there is to find on a volume** depends on the reads of this volume alone. -/
theorem finding_agree (hscratch : scratch.Answers start answer) (options : Options)
    {volume : Volume} (hreader : ∀ pos len, reader' volume pos len = reader volume pos len) :
    finding ⟨.ofReader reader' scratch, options⟩ start volume
      = finding ⟨.ofReader reader scratch, options⟩ start volume := by
  obtain ⟨hresult, -⟩ :=
    examine_agree hscratch options hreader .start .start (Registry.empty 0) (Registry.empty 0)
  rw [finding, finding, hresult]

variable (reader)

/-- If there is room, each visit adds what there is to find. -/
theorem additions_steady (hscratch : scratch.Answers start answer) (options : Options)
    (hs : scratch.Reaches start [] s) {registry : Registry} {indices : List Nat}
    (hnodup : indices.Nodup) (hindices : ∀ index ∈ indices, index < registry.size) :
    let scanner : Scanner σ := ⟨.ofReader reader scratch, options⟩
    (∀ event ∈ (scanner.visitAll indices registry s).events, event.overflows = false) →
    scanner.additions indices registry s = indices.map fun index =>
      (registry.volumes[index]?.bind (scanner.finding start)).elim [] (·.volumes) := by
  intro scanner hroom
  induction indices generalizing registry s with
  | nil => rfl
  | cons index rest ih =>
    obtain ⟨hindex, hrest⟩ := List.nodup_cons.mp hnodup
    obtain ⟨-, hfurther⟩ := List.forall_mem_cons.mp hindices
    obtain ⟨-, hregistry, hafter, hfull⟩ := visit_steady reader hscratch options hs registry index
    have hsize : registry.size ≤ (scanner.visit registry index s).registry.size := by
      rw [hregistry]
      exact registry.size_le_enrollFrom _ index
    have htail := ih hafter hrest (fun i hmem => Nat.lt_of_lt_of_le (hfurther i hmem) hsize)
      fun event hmem => hroom event (List.mem_append_right _ hmem)
    dsimp only [additions]
    rw [htail, List.map_cons, hregistry]
    congr 1
    case e_head =>
      rw [Registry.enrollFrom, Registry.drop_enroll]
      cases hfound : registry.volumes[index]?.bind (scanner.finding start) with
      | none => exact List.take_nil
      | some found =>
        refine List.take_of_length_le (Nat.le_of_not_lt fun hshort => ?_)
        have hquiet : true = false :=
          hroom _ (List.mem_append_left _ (hfull found hfound hshort))
        cases hquiet
    case e_tail =>
      refine List.map_congr_left fun i hmem => ?_
      rw [Registry.getElem?_enrollFrom _ (hfurther i hmem), if_neg]
      rintro rfl
      exact hindex hmem

/-- **What a pass makes of a volume**, if there is room: it becomes what it becomes when what there
is to find on it is enrolled, and that is what its visit adds. -/
theorem discover_volume (hscratch : scratch.Answers start answer) (options : Options)
    (registry : Registry) :
    let scanner : Scanner σ := ⟨.ofReader reader scratch, options⟩
    let pass := scanner.discover registry start
    (∀ event ∈ pass.events, event.overflows = false) →
    ∀ (index : Nat) (volume : Volume), registry.volumes[index]? = some volume →
      pass.registry.volumes[index]? = some (volume.enrolled (scanner.finding start volume))
        ∧ (scanner.additions (List.range registry.size) registry start)[index]?
          = some ((scanner.finding start volume).elim [] (·.volumes)) := by
  intro scanner pass hroom index volume hat
  have hindex : index < registry.size := (List.getElem?_eq_some_iff.mp hat).1
  obtain ⟨-, hregistry, -, hevents⟩ := scanner.discover_eq_visitAll registry start
  obtain ⟨henrolled, -⟩ :=
    visitAll_steady reader hscratch options .start registry (List.range registry.size)
  have hadditions := additions_steady reader hscratch options .start List.nodup_range
    (fun _ => List.mem_range.mp) fun event hmem => hroom event (hevents event hmem)
  constructor
  · dsimp only [pass]
    rw [hregistry, henrolled, Registry.getElem?_enrollAll _ List.nodup_range hindex,
      if_pos (List.mem_range.mpr hindex), hat]
    rfl
  · rw [hadditions, List.getElem?_map, List.getElem?_range hindex]
    simp only [Option.map_some, hat, Option.bind_some, scanner]

/-- **Devices do not influence one another.** Take any registry, any options, an allocator whose
answers depend only on the request and on what is out, and two sets of devices that agree on one of
them: in its bytes, and in which of its reads fail. If neither pass runs out of room, then every
volume on this device becomes the same in both passes, and visiting it adds the same volumes,
whatever the other devices hold and however their reads fail. -/
theorem devices_are_independent (hscratch : scratch.Answers start answer) (options : Options)
    (registry : Registry) (access : Access) {devices devices' : List Device}
    {failing failing' : UInt32 → UInt64 → Nat → Nat → Bool} {device : UInt32}
    (hbytes : devices'[device.toNat]? = devices[device.toNat]?)
    (hfailing : failing' device = failing device) :
    let scanner : Scanner σ := ⟨.ofReader (Disks.reader ⟨access, devices⟩ failing) scratch, options⟩
    let scanner' : Scanner σ :=
      ⟨.ofReader (Disks.reader ⟨access, devices'⟩ failing') scratch, options⟩
    let pass := scanner.discover registry start
    let pass' := scanner'.discover registry start
    (∀ event ∈ pass.events, event.overflows = false) →
    (∀ event ∈ pass'.events, event.overflows = false) →
    ∀ (index : Nat) (volume : Volume),
      registry.volumes[index]? = some volume → volume.deviceId = device →
      ∃ (kind : VolumeKind) (added : List Volume),
        pass.registry.volumes[index]? = some { volume with kind := kind }
          ∧ pass'.registry.volumes[index]? = some { volume with kind := kind }
          ∧ (scanner.additions (List.range registry.size) registry start)[index]? = some added
          ∧ (scanner'.additions (List.range registry.size) registry start)[index]?
            = some added := by
  intro scanner scanner' pass pass' hroom hroom' index volume hat hdevice
  have hreader : ∀ pos len, Disks.reader ⟨access, devices'⟩ failing' volume pos len
      = Disks.reader ⟨access, devices⟩ failing volume pos len := by
    intro pos len
    unfold Disks.reader Disks.read
    rw [hdevice, hbytes, hfailing]
  have hsame := finding_agree hscratch options hreader
  obtain ⟨hvolume, hadded⟩ := discover_volume _ hscratch options registry hroom index volume hat
  obtain ⟨hvolume', hadded'⟩ := discover_volume _ hscratch options registry hroom' index volume hat
  rw [hsame] at hvolume' hadded'
  obtain ⟨kind, hkind⟩ := Volume.enrolled_eq (scanner.finding start volume) volume
  rw [hkind] at hvolume hvolume'
  exact ⟨kind, _, hvolume, hvolume', hadded, hadded'⟩

/-- The same two partitions are found on `splitDisk` whether there is no other device, or one with
the same table and a bad sector. -/
theorem splitDisk_independent :
    let heap := Heap.allocator ⟨16, 4096, 0⟩
    let registry : Registry := ⟨6, [{ splitDisk with deviceId := 1 }, splitDisk]⟩
    let failing : UInt32 → UInt64 → Nat → Nat → Bool := fun _ _ _ _ => false
    let failing' : UInt32 → UInt64 → Nat → Nat → Bool :=
      fun device _ pos _ => device = 1 && pos = 512
    let scanner : Scanner Nat :=
      ⟨.ofReader (Disks.reader ⟨.resident, [splitDevice]⟩ failing) heap, {}⟩
    let scanner' : Scanner Nat :=
      ⟨.ofReader (Disks.reader ⟨.resident, [splitDevice, splitDevice]⟩ failing') heap, {}⟩
    let pass := scanner.discover registry 0
    let pass' := scanner'.discover registry 0
    (∃ answer, heap.Answers 0 answer)
      ∧ (∀ event ∈ pass.events, event.overflows = false)
      ∧ (∀ event ∈ pass'.events, event.overflows = false)
      ∧ pass.registry.size = 4 ∧ pass'.registry.size = 6
      ∧ pass'.registry.volumes[1]? = pass.registry.volumes[1]?
      ∧ (scanner'.additions (List.range registry.size) registry 0)[1]?
        = (scanner.additions (List.range registry.size) registry 0)[1]? := by
  intro heap registry failing failing' scanner scanner' pass pass'
  obtain ⟨answer, hscratch⟩ : ∃ answer, heap.Answers 0 answer :=
    ⟨_, Heap.answers_allocator ⟨16, 4096, 0⟩ 0⟩
  obtain ⟨hsize, hroom⟩ : pass.registry.size = 4
      ∧ ∀ event ∈ pass.events, event.overflows = false := by decide +kernel
  obtain ⟨hsize', hroom'⟩ : pass'.registry.size = 6
      ∧ ∀ event ∈ pass'.events, event.overflows = false := by decide +kernel
  have hbytes : [splitDevice, splitDevice][(0 : UInt32).toNat]?
      = [splitDevice][(0 : UInt32).toNat]? := rfl
  have hfailing : failing' 0 = failing 0 := rfl
  obtain ⟨kind, added, hvolume, hvolume', hadded, hadded'⟩ := devices_are_independent hscratch {}
    registry .resident hbytes hfailing hroom hroom' 1 splitDisk rfl rfl
  refine ⟨⟨answer, hscratch⟩, hroom, hroom', hsize, hsize', ?_, ?_⟩
  · dsimp only [pass, pass', scanner, scanner']
    rw [hvolume, hvolume']
  · exact hadded'.trans hadded.symm

end Scanner

end VolumeScan
