/-
VolumeScan.Proofs.Scan.SteadyPass — passes in which nothing but the registry changes.

Take an environment in which reads are answered by a function (`Environment.ofReader`), from an
allocator that answers by what is out. Between two visits no block is out, so it makes no difference
when a volume is examined: what there is to find on it is the same in every state that a scan comes
to (`Scanner.examine_agree`). A pass is then a function of the registry, which enrolls what there is
to find on one volume after the other (`Registry.enrollAll`, `Scanner.visitAll_steady`).
-/
import VolumeScan.Proofs.Scan.Survey
import VolumeScan.Proofs.Scratch.Steady

namespace VolumeScan

/-! ## Reads that are answered by a function -/

/-- An environment in which reads do not change the state, and are not changed by it. -/
def Environment.ofReader {σ : Type}
    (reader : Volume → Nat → (len : Nat) → Except Error (Block len)) (scratch : Allocator σ) :
    Environment σ where
  read := fun state volume pos len => (reader volume pos len, state)
  scratch := scratch

/-- The reads of a set of devices of which some always fail. A read is known by the number of the
device, the first byte of the volume, the position in the volume and the length. -/
def Disks.reader (disks : Disks) (failing : UInt32 → UInt64 → Nat → Nat → Bool) (volume : Volume)
    (pos len : Nat) : Except Error (Block len) :=
  if failing volume.deviceId volume.firstByte pos len then .error (.read volume.deviceId pos len)
  else disks.read volume pos len

/-- Reads that are refused at some places of some devices always fail there. -/
theorem Environment.ofDisks_eq_ofReader {σ : Type} (disks : Disks) (broken : List (UInt32 × Nat))
    (scratch : Allocator σ) :
    Environment.ofDisks disks broken scratch = Environment.ofReader
      (disks.reader fun device _ pos _ => decide ((device, pos) ∈ broken)) scratch := by
  unfold ofDisks ofReader
  congr 1
  funext state volume pos len
  unfold Disks.reader
  by_cases hbroken : (volume.deviceId, pos) ∈ broken <;> simp [hbroken]

/-- Two states with the same loans out, up to the places of the blocks. -/
def Allocator.SameLoans {σ : Type} (scratch : Allocator σ) (start : σ)
    (out : List (Grant × Grant)) (s t : σ) : Prop :=
  ∃ loans loans', scratch.Reaches start loans s ∧ scratch.Reaches start loans' t
    ∧ loans'.map Loan.sizes = loans.map Loan.sizes
    ∧ loans.map (·.grant) = out.map Prod.fst ∧ loans'.map (·.grant) = out.map Prod.snd

/-- Without loans, the states are those between two visits. -/
theorem Allocator.sameLoans_nil_iff {σ : Type} {scratch : Allocator σ} {start s t : σ} :
    scratch.SameLoans start [] s t ↔ scratch.Reaches start [] s ∧ scratch.Reaches start [] t := by
  constructor
  · intro h
    obtain ⟨loans, loans', hs, ht, -, hnone, hnone'⟩ := h
    rw [List.map_eq_nil_iff.mp hnone] at hs
    rw [List.map_eq_nil_iff.mp hnone'] at ht
    exact ⟨hs, ht⟩
  · intro h
    exact ⟨[], [], h.1, h.2, rfl, rfl, rfl⟩

section

variable {σ : Type} {scratch : Allocator σ} {start : σ}
  {answer : List (Nat × Nat) → Nat → Option Nat}
  {reader reader' : Volume → Nat → (len : Nat) → Except Error (Block len)}

/-- If an allocator answers by what is out, environments with this allocator are similar for volumes
of which they read the same bytes. -/
theorem Environment.similar_ofReader (hscratch : scratch.Answers start answer)
    {volume volume' : Volume}
    (hreader : ∀ pos len, reader' volume' pos len = reader volume pos len) :
    Environment.Similar (fun grant grant' => grant'.size = grant.size) (scratch.SameLoans start)
      volume volume' (ofReader reader scratch) (ofReader reader' scratch) where
  size_eq := id
  allocate := by
    rintro out s t ⟨loans, loans', hs, ht, hsizes, hout, hout'⟩ size
    have hanswer : (scratch.allocate t size).1.map Grant.size
        = (scratch.allocate s size).1.map Grant.size := by
      rw [hscratch _ _ hs, hscratch _ _ ht, hsizes]
    dsimp only [ofReader]
    rcases hallocate : scratch.allocate s size with ⟨grant, s'⟩
    rcases hallocate' : scratch.allocate t size with ⟨grant', t'⟩
    rw [hallocate, hallocate'] at hanswer
    cases grant with
    | none =>
      obtain rfl : grant' = none := Option.map_eq_none_iff.mp hanswer
      exact .inl ⟨rfl, rfl, loans, loans', hs.refused hallocate, ht.refused hallocate', hsizes,
        hout, hout'⟩
    | some grant =>
      obtain ⟨grant', rfl, hsize⟩ := Option.map_eq_some_iff.mp hanswer
      refine .inr ⟨grant, grant', rfl, rfl, hsize, ⟨size, grant⟩ :: loans,
        ⟨size, grant'⟩ :: loans', hs.granted hallocate, ht.granted hallocate', ?_, ?_, ?_⟩
      · simp only [List.map_cons, Loan.sizes, hsizes, hsize]
      · simp only [List.map_cons, hout]
      · simp only [List.map_cons, hout']
  release := by
    rintro out grant grant' s t ⟨loans, loans', hs, ht, hsizes, hout, hout'⟩
    obtain ⟨loan, loans, rfl, rfl, hrest⟩ := List.map_eq_cons_iff.mp hout
    obtain ⟨loan', loans', rfl, rfl, hrest'⟩ := List.map_eq_cons_iff.mp hout'
    obtain ⟨-, hsizes⟩ := List.cons.inj hsizes
    exact ⟨loans, loans', hs.released, ht.released, hsizes, hrest, hrest'⟩
  clear := by
    rintro out grant grant' s t - ⟨loans, loans', hs, ht, hsame⟩
    exact ⟨loans, loans', hs.cleared grant, ht.cleared grant', hsame⟩
  store := by
    rintro out grant grant' s t - pos bytes ⟨loans, loans', hs, ht, hsame⟩
    exact ⟨loans, loans', hs.stored grant pos bytes, ht.stored grant' pos bytes, hsame⟩
  read := fun hsame pos len => ⟨hreader pos len, hsame⟩

end

/-! ## What there is to find -/

namespace Scanner

variable {σ : Type}

/-- What a visit finds on a volume, if it starts in this state. -/
def finding (scanner : Scanner σ) (state : σ) (volume : Volume) : Option Finding :=
  ((scanner.examine volume).run (Registry.empty 0) state).result.toOption.join

/-- Whether a visit can read a volume, if it starts in this state. -/
def readable (scanner : Scanner σ) (state : σ) (volume : Volume) : Bool :=
  ((scanner.examine volume).run (Registry.empty 0) state).result.isOk

theorem finding_eq_some_iff {scanner : Scanner σ} {state : σ} {volume : Volume}
    {found : Finding} :
    scanner.finding state volume = some found ↔
      ((scanner.examine volume).run (Registry.empty 0) state).result = .ok (some found) := by
  unfold finding
  cases ((scanner.examine volume).run (Registry.empty 0) state).result <;> simp [Except.toOption]

/-- Nothing is found on a volume that cannot be read. -/
theorem readable_of_finding {scanner : Scanner σ} {state : σ} {volume : Volume} {found : Finding}
    (h : scanner.finding state volume = some found) : scanner.readable state volume = true := by
  rw [readable, finding_eq_some_iff.mp h]
  rfl

end Scanner

namespace Registry

/-- Record what there is to find on the volume at an index. -/
def enrollFrom (finding : Volume → Option Finding) (registry : Registry) (index : Nat) : Registry :=
  registry.enroll index (registry.volumes[index]?.bind finding)

/-- Record what there is to find on the volumes at these indices, one after the other. -/
def enrollAll (finding : Volume → Option Finding) (registry : Registry) (indices : List Nat) :
    Registry := indices.foldl (enrollFrom finding) registry

theorem size_le_enrollFrom (registry : Registry) (finding : Volume → Option Finding) (index : Nat) :
    registry.size ≤ (registry.enrollFrom finding index).size := registry.size_le_enroll index _

/-- Of the volumes that were there before, only the one at the index may change. -/
theorem getElem?_enrollFrom (finding : Volume → Option Finding) {registry : Registry} {i : Nat}
    (hi : i < registry.size) (index : Nat) :
    (registry.enrollFrom finding index).volumes[i]? = if index = i then
        registry.volumes[i]?.map fun volume => volume.enrolled (finding volume)
      else registry.volumes[i]? := by
  rw [enrollFrom, getElem?_enroll hi]
  by_cases hindex : index = i
  · subst hindex
    cases registry.volumes[index]? <;> rfl
  · rw [if_neg hindex, if_neg hindex]

/-- What does not depend on kinds is not changed when volumes are enrolled. -/
theorem any_enrollFrom {p : Volume → Bool}
    (hp : ∀ volume kind, p { volume with kind := kind } = p volume)
    (finding : Volume → Option Finding) {registry : Registry} {i : Nat} (hi : i < registry.size)
    (index : Nat) :
    (registry.enrollFrom finding index).volumes[i]?.any p = registry.volumes[i]?.any p := by
  rw [getElem?_enrollFrom finding hi]
  by_cases hindex : index = i
  · rw [if_pos hindex]
    cases registry.volumes[i]? with
    | none => rfl
    | some volume =>
      dsimp only [Option.map_some, Option.any_some]
      cases finding volume with
      | none => rfl
      | some found => exact hp volume found.scheme.container
  · rw [if_neg hindex]

/-- If something is found only on volumes that have it, then some volume has it afterwards exactly
if some volume had it before. -/
theorem exists_any_enrollFrom {p : Volume → Bool}
    (hp : ∀ volume kind, p { volume with kind := kind } = p volume)
    {finding : Volume → Option Finding}
    (hfinding : ∀ {volume found}, finding volume = some found → p volume = true)
    (registry : Registry) (index : Nat) :
    (∃ i : Nat, (registry.enrollFrom finding index).volumes[i]?.any p = true)
      ↔ ∃ i : Nat, registry.volumes[i]?.any p = true := by
  constructor
  · rintro ⟨i, hany⟩
    rcases Nat.lt_or_ge i registry.size with hold | hnew
    · exact ⟨i, (any_enrollFrom hp finding hold index).symm.trans hany⟩
    · -- Something new stands in this place, so something was found on the volume at the index.
      obtain ⟨volume, hat, -⟩ := (Option.any_eq_true _ _).mp hany
      obtain ⟨found, hfound, -⟩ := mem_of_getElem?_enroll hnew hat
      obtain ⟨device, hdevice, hfound⟩ := Option.bind_eq_some_iff.mp hfound
      exact ⟨index, (Option.any_eq_true _ _).mpr ⟨device, hdevice, hfinding hfound⟩⟩
  · rintro ⟨i, hany⟩
    obtain ⟨volume, hat, -⟩ := (Option.any_eq_true _ _).mp hany
    have hold : i < registry.size := (List.getElem?_eq_some_iff.mp hat).1
    exact ⟨i, (any_enrollFrom hp finding hold index).trans hany⟩

theorem exists_any_enrollAll {p : Volume → Bool}
    (hp : ∀ volume kind, p { volume with kind := kind } = p volume)
    {finding : Volume → Option Finding}
    (hfinding : ∀ {volume found}, finding volume = some found → p volume = true)
    (registry : Registry) (indices : List Nat) :
    (∃ i : Nat, (registry.enrollAll finding indices).volumes[i]?.any p = true)
      ↔ ∃ i : Nat, registry.volumes[i]?.any p = true := by
  induction indices generalizing registry with
  | nil => exact Iff.rfl
  | cons index rest ih =>
    exact (ih (registry.enrollFrom finding index)).trans
      (exists_any_enrollFrom hp hfinding registry index)

end Registry

namespace Scanner

open VolumeScan.Action

variable {σ : Type} {scratch : Allocator σ} {start s t : σ}
  {answer : List (Nat × Nat) → Nat → Option Nat}
  {reader reader' : Volume → Nat → (len : Nat) → Except Error (Block len)}

/-- **It makes no difference when a volume is examined**, nor which of two readers is used, if they
read the same bytes from it. -/
theorem examine_agree (hscratch : scratch.Answers start answer) (options : Options)
    {volume : Volume} (hreader : ∀ pos len, reader' volume pos len = reader volume pos len)
    (hs : scratch.Reaches start [] s) (ht : scratch.Reaches start [] t) (blank blank' : Registry) :
    let found := (examine ⟨.ofReader reader scratch, options⟩ volume).run blank s
    let found' := (examine ⟨.ofReader reader' scratch, options⟩ volume).run blank' t
    found'.result = found.result ∧ scratch.Reaches start [] found'.state := by
  intro found found'
  obtain ⟨hresult, hstates⟩ :=
    similar_examine (Environment.similar_ofReader hscratch hreader) options [] s t
      (Allocator.sameLoans_nil_iff.mpr ⟨hs, ht⟩) blank blank'
  exact ⟨hresult, (Allocator.sameLoans_nil_iff.mp hstates).2⟩

/-- What is known about the contents of a volume makes no difference to whether it can be read. -/
theorem readable_with_kind (hscratch : scratch.Answers start answer) (options : Options)
    {volume : Volume} {kind : VolumeKind}
    (hreader : ∀ pos len, reader { volume with kind := kind } pos len = reader volume pos len) :
    readable ⟨.ofReader reader scratch, options⟩ start { volume with kind := kind }
      = readable ⟨.ofReader reader scratch, options⟩ start volume := by
  unfold readable
  rw [isOk_examine, isOk_examine]
  obtain ⟨hresult, -⟩ :=
    similar_readBootSector (Environment.similar_ofReader hscratch hreader) rfl options [] start
      start (Allocator.sameLoans_nil_iff.mpr ⟨.start, .start⟩) (Registry.empty 0) (Registry.empty 0)
  rw [hresult]

variable (reader)

/-- **A visit enrolls what there is to find**, whenever it takes place. -/
theorem visit_steady (hscratch : scratch.Answers start answer) (options : Options)
    (hs : scratch.Reaches start [] s) (registry : Registry) (index : Nat) :
    let scanner : Scanner σ := ⟨.ofReader reader scratch, options⟩
    let pass := scanner.visit registry index s
    pass.result = registry.volumes[index]?.any (scanner.readable start)
      ∧ pass.registry = registry.enrollFrom (scanner.finding start) index
      ∧ scratch.Reaches start [] pass.state
      ∧ ∀ found, registry.volumes[index]?.bind (scanner.finding start) = some found →
        registry.room < found.volumes.length →
          .log (.registryFull registry.capacity found.scheme) ∈ pass.events := by
  intro scanner pass
  dsimp only [pass]
  rw [Registry.enrollFrom]
  cases hat : registry.volumes[index]? with
  | none =>
    rw [visit_of_none hat]
    exact ⟨rfl, rfl, hs, nofun⟩
  | some volume =>
    have hreader : ∀ pos len, reader volume pos len = reader volume pos len := fun _ _ => rfl
    obtain ⟨hsame, hafter⟩ := examine_agree hscratch options hreader .start hs (Registry.empty 0)
      (Registry.empty 0)
    obtain ⟨hresult, hstate, hregistry, hfull⟩ :=
      scanner.visit_eq_examine hat (Registry.empty 0) s
    rw [hsame] at hresult hregistry hfull
    exact ⟨hresult, hregistry, hstate ▸ hafter, fun found hfound =>
      hfull found (finding_eq_some_iff.mp hfound)⟩

/-- **A pass enrolls what there is to find**, volume by volume. -/
theorem visitAll_steady (hscratch : scratch.Answers start answer) (options : Options)
    (hs : scratch.Reaches start [] s) (registry : Registry) (indices : List Nat) :
    let scanner : Scanner σ := ⟨.ofReader reader scratch, options⟩
    let pass := scanner.visitAll indices registry s
    pass.registry = registry.enrollAll (scanner.finding start) indices
      ∧ scratch.Reaches start [] pass.state := by
  induction indices generalizing registry s with
  | nil => exact ⟨rfl, hs⟩
  | cons index rest ih =>
    obtain ⟨-, hregistry, hafter, -⟩ :=
      visit_steady reader hscratch options hs registry index
    have hrest := ih hafter (visit ⟨.ofReader reader scratch, options⟩ registry index s).registry
    rw [hregistry] at hrest
    dsimp only [visitAll]
    rw [hregistry]
    exact hrest

/-- It can read something exactly if one of the volumes can be read. -/
theorem result_visitAll_steady (hscratch : scratch.Answers start answer) (options : Options)
    (hreader : ∀ volume kind pos len,
      reader { volume with kind := kind } pos len = reader volume pos len)
    (hs : scratch.Reaches start [] s) (registry : Registry) {indices : List Nat}
    (hindices : ∀ index ∈ indices, index < registry.size) :
    let scanner : Scanner σ := ⟨.ofReader reader scratch, options⟩
    (scanner.visitAll indices registry s).result = true ↔
      ∃ index ∈ indices, registry.volumes[index]?.any (scanner.readable start) = true := by
  intro scanner
  induction indices generalizing registry s with
  | nil => simp [visitAll]
  | cons index rest ih =>
    obtain ⟨hindex, hrest⟩ := List.forall_mem_cons.mp hindices
    obtain ⟨hresult, hregistry, hafter, -⟩ :=
      visit_steady reader hscratch options hs registry index
    have hkinds : ∀ volume kind, scanner.readable start { volume with kind := kind }
        = scanner.readable start volume := fun volume kind =>
      readable_with_kind hscratch options fun pos len => hreader volume kind pos len
    have hsize : registry.size ≤ (scanner.visit registry index s).registry.size := by
      rw [hregistry]
      exact registry.size_le_enrollFrom _ index
    have hfurther := ih hafter _ fun i hi => Nat.lt_of_lt_of_le (hrest i hi) hsize
    rw [hregistry] at hfurther
    dsimp only [visitAll]
    simp only [List.mem_cons, exists_eq_or_imp]
    rw [hregistry, Bool.or_eq_true, hresult, hfurther]
    refine or_congr_right (exists_congr fun i => and_congr_right fun hmem => ?_)
    rw [Registry.any_enrollFrom hkinds _ (hrest i hmem)]

/-- **What a pass comes to**, whenever it takes place: it enrolls what there is to find on the
volumes, one after the other, and says whether any of them can be read. -/
theorem discover_steady (hscratch : scratch.Answers start answer) (options : Options)
    (hreader : ∀ volume kind pos len,
      reader { volume with kind := kind } pos len = reader volume pos len)
    (hs : scratch.Reaches start [] s) (registry : Registry) :
    let scanner : Scanner σ := ⟨.ofReader reader scratch, options⟩
    let pass := scanner.discover registry s
    pass.registry = registry.enrollAll (scanner.finding start) (List.range registry.size)
      ∧ (pass.result = true ↔
        ∃ index : Nat, registry.volumes[index]?.any (scanner.readable start) = true)
      ∧ scratch.Reaches start [] pass.state := by
  intro scanner pass
  obtain ⟨hresult, hregistry, hstate, -⟩ := scanner.discover_eq_visitAll registry s
  obtain ⟨henrolled, hafter⟩ :=
    visitAll_steady reader hscratch options hs registry (List.range registry.size)
  have hreadable := result_visitAll_steady reader hscratch options hreader hs registry
    (fun index hmem => List.mem_range.mp hmem)
  dsimp only [pass]
  rw [hregistry, hresult, hstate]
  refine ⟨henrolled, hreadable.trans (exists_congr fun index => ?_), hafter⟩
  refine and_iff_right_of_imp fun hany => List.mem_range.mpr ?_
  obtain ⟨volume, hat, -⟩ := (Option.any_eq_true _ _).mp hany
  exact (List.getElem?_eq_some_iff.mp hat).1

end Scanner

end VolumeScan
