/-
VolumeScan.Proofs.Scan.Rules — what every kind of step keeps, every operation of a scanner keeps.

`Action.ReadRules` is a list of rules for a relation between the actions of two environments, one
rule for each kind of step that stands in front of something else: a check, a record, a read, and a
buffer around the rest. A relation with these rules holds between the reading of a table in the one
environment and the same reading in the other (`ReadRules.withHeader`, `ReadRules.withTable`), if it
holds between what comes behind the reading, for every table that passes the checks.

`Action.Rules` has the steps on a registry as well, and a rule for sequences. A relation with these
rules holds between an operation of a scanner in the one environment and the same operation in the
other (`Rules.detect`, `Rules.readBootSector`), whatever the relation is about.

The number in a relation is the depth to which buffers are nested: the body of a buffer is one less
deep. A property of actions is a relation that looks at the first one only.
-/
import VolumeScan.Proofs.Scan.Action
import VolumeScan.Proofs.Scan.Table
import VolumeScan.Scan.Discovery

namespace VolumeScan

namespace Action

/-! ## Reading -/

/-- `P` is kept by the kinds of steps that reading a table from `volume` is made of, when the first
action runs in `env` and the second one in `env'`. The blocks that these grant to the two actions
are `same`. -/
structure ReadRules {σ τ α β : Type} (env : Environment σ) (env' : Environment τ)
    (same : Grant → Grant → Prop) (volume : Volume)
    (P : Nat → Action σ α → Action τ β → Prop) : Prop where
  lift_bind : ∀ {γ depth} (x : Except Error γ) {next : γ → Action σ α} {next' : γ → Action τ β},
    (∀ c, x = .ok c → P depth (next c) (next' c)) → P depth (liftM x >>= next) (liftM x >>= next')
  log_bind : ∀ {depth} (records : List Record) {next : Unit → Action σ α}
    {next' : Unit → Action τ β}, P depth (next ()) (next' ()) →
    P depth (Action.log records >>= next) (Action.log records >>= next')
  fill_bind : ∀ {depth} {buffer buffer' : Grant}, same buffer buffer' → ∀ (pos len : Nat)
    {next : Bytes → Action σ α} {next' : Bytes → Action τ β},
    (∀ bytes, P depth (next bytes) (next' bytes)) →
    P depth (Action.fill env buffer volume pos len >>= next)
      (Action.fill env' buffer' volume pos len >>= next')
  withBuffer : ∀ {depth size} {body : Grant → Action σ α} {body' : Grant → Action τ β},
    (∀ grant grant', same grant grant' → P depth (body grant) (body' grant')) →
    P (depth + 1) (Action.withBuffer env size body) (Action.withBuffer env' size body')

namespace ReadRules

variable {σ τ α β : Type} {env : Environment σ} {env' : Environment τ}
  {same : Grant → Grant → Prop} {parent : Volume} {P : Nat → Action σ α → Action τ β → Prop}
  (options : Options) (depth : Nat)

/-- The array takes one buffer, and is handed on if its header admits it. -/
theorem withTable (h : ReadRules env env' same parent P) (header : Gpt.Header)
    {body : Bytes → Action σ α} {body' : Bytes → Action τ β}
    (hbody : ∀ array, array.length = header.arrayLen → header.admitArray array = .ok () →
      P depth (body array) (body' array)) :
    P (depth + 1) (Scanner.withTable ⟨env, options⟩ parent header body)
      (Scanner.withTable ⟨env', options⟩ parent header body') := by
  unfold Scanner.withTable
  refine h.lift_bind _ fun _ _ => h.withBuffer fun _ _ hsame => h.lift_bind _ fun _ _ => ?_
  refine h.fill_bind hsame _ _ fun _ => h.lift_bind _ fun array harray => ?_
  refine h.lift_bind _ fun _ hadmitted => ?_
  exact hbody array (Bytes.length_of_slice harray) hadmitted

/-- The headers take two buffers. The one that is handed on was validated in its sector. -/
theorem withHeader (h : ReadRules env env' same parent P)
    {body : Gpt.HeaderCopy → Gpt.Header → Action σ α}
    {body' : Gpt.HeaderCopy → Gpt.Header → Action τ β}
    (hbody : ∀ slot sector header,
      (parent.sectorCount.toNat - 1) * parent.sectorSize.toNat < wordLimit →
      Gpt.Header.validate sector slot parent.sectorSize.toNat parent.sectorCount.toNat
        = .ok header →
      P depth (body slot header) (body' slot header)) :
    P (depth + 1 + 1) (Scanner.withHeader ⟨env, options⟩ parent body)
      (Scanner.withHeader ⟨env', options⟩ parent body') := by
  unfold Scanner.withHeader
  refine h.lift_bind _ fun _ _ => h.withBuffer fun _ _ hfirst => h.withBuffer fun _ _ hsecond => ?_
  refine h.fill_bind hfirst _ _ fun primary => h.lift_bind _ fun _ hbyte => ?_
  obtain ⟨hlast, -⟩ := Gpt.byteOf_eq_ok_iff.mp hbyte
  refine h.fill_bind hsecond _ _ fun backup => h.log_bind _ ?_
  refine h.lift_bind _ fun chosen hchosen => ?_
  rcases Gpt.chooseHeader_eq_ok_iff.mp hchosen with ⟨hslot, hvalid⟩ | ⟨hslot, -, hvalid⟩
  · exact hbody _ primary _ hlast (by rwa [hslot])
  · exact hbody _ backup _ hlast (by rwa [hslot])

end ReadRules

/-! ## Every kind of step -/

/-- `P` is kept by every kind of step, when the first action runs in `env` and the second one in
`env'`. The blocks that these grant are `lent`, and nothing is read into other blocks. -/
structure Rules {σ τ : Type} (env : Environment σ) (env' : Environment τ) (lent : Grant → Prop)
    (P : {α : Type} → Nat → Action σ α → Action τ α → Prop) : Prop where
  lift : ∀ {α depth} (x : Except Error α), P depth (liftM x) (liftM x)
  log : ∀ {depth} (records : List Record), P depth (Action.log records) (Action.log records)
  current : ∀ {depth}, P depth Action.current Action.current
  append : ∀ {depth} (volume : Volume), P depth (Action.append volume) (Action.append volume)
  classify : ∀ {depth} (index : Nat) (kind : VolumeKind),
    P depth (Action.classify index kind) (Action.classify index kind)
  fill : ∀ {depth} {buffer : Grant}, lent buffer → ∀ (volume : Volume) (pos len : Nat),
    P depth (Action.fill env buffer volume pos len) (Action.fill env' buffer volume pos len)
  bind : ∀ {α β depth} {action : Action σ α} {action' : Action τ α} {next : α → Action σ β}
    {next' : α → Action τ β}, P depth action action' → (∀ a, P depth (next a) (next' a)) →
    P depth (action >>= next) (action' >>= next')
  withBuffer : ∀ {α depth size} {body : Grant → Action σ α} {body' : Grant → Action τ α},
    (∀ grant, lent grant → P depth (body grant) (body' grant)) →
    P (depth + 1) (Action.withBuffer env size body) (Action.withBuffer env' size body')

namespace Rules

variable {σ τ α : Type} {env : Environment σ} {env' : Environment τ} {lent : Grant → Prop}
  {P : {α : Type} → Nat → Action σ α → Action τ α → Prop} {depth : Nat}

theorem pure (h : Rules env env' lent P) (a : α) : P depth (Pure.pure a) (Pure.pure a) :=
  h.lift (.ok a)

theorem enlistAll (h : Rules env env' lent P) (scheme : Scheme)
    (describe : α → Except Error Partition) (items : List α) :
    P depth (Scanner.enlistAll scheme describe items)
      (Scanner.enlistAll scheme describe items) := by
  induction items with
  | nil => exact h.pure false
  | cons item items ih =>
    unfold Scanner.enlistAll
    refine h.bind (h.lift _) fun partition => h.bind (h.append _) fun appended => ?_
    cases appended with
    | true => exact h.bind (h.log _) fun _ => ih
    | false => exact h.bind h.current fun _ => h.bind (h.log _) fun _ => h.pure true

/-- The rules for reading are among them. -/
theorem reading (h : Rules env env' lent P) (volume : Volume) :
    ReadRules env env' (fun grant grant' => lent grant ∧ grant = grant') volume
      fun depth (action : Action σ α) (action' : Action τ α) => P depth action action' where
  lift_bind := fun x next next' hnext => by
    cases x with
    | ok c =>
      rw [lift_ok_bind, lift_ok_bind]
      exact hnext c rfl
    | error error =>
      rw [lift_error_bind, lift_error_bind]
      exact h.lift _
  log_bind := fun records _ _ hnext => h.bind (h.log records) fun _ => hnext
  fill_bind := fun hsame pos len _ _ hnext => by
    obtain ⟨hlent, rfl⟩ := hsame
    exact h.bind (h.fill hlent _ _ _) hnext
  withBuffer := fun hbody => h.withBuffer fun grant hlent => hbody grant grant ⟨hlent, rfl⟩

variable (options : Options)

/-- Two buffers for the headers, and one for the array. -/
theorem enlistGpt (h : Rules env env' lent P) (parent : Volume) :
    P 3 (Scanner.enlistGpt ⟨env, options⟩ parent) (Scanner.enlistGpt ⟨env', options⟩ parent) := by
  refine (h.reading parent).withHeader options _ fun _ _ _ _ _ => ?_
  refine (h.reading parent).withTable options _ _ fun _ _ _ => ?_
  refine h.bind (h.log _) fun _ => h.bind (h.lift _) fun _ => ?_
  exact h.bind (h.enlistAll _ _ _) fun _ => h.pure _

theorem enlistMbr (h : Rules env env' lent P) (mbr : Mbr) (parent : Volume) :
    P depth (Scanner.enlistMbr ⟨env, options⟩ mbr parent)
      (Scanner.enlistMbr ⟨env', options⟩ mbr parent) := by
  unfold Scanner.enlistMbr
  by_cases hpolicy : options.mbr = .never
  · simp only [hpolicy, if_true]
    exact h.lift _
  · simp only [hpolicy, if_false]
    exact h.bind (h.lift _) fun _ => h.bind (h.enlistAll _ _ _) fun _ => h.pure _

theorem enlist (h : Rules env env' lent P) (mbr : Mbr) (parent : Volume) :
    P 3 (Scanner.enlist ⟨env, options⟩ mbr parent)
      (Scanner.enlist ⟨env', options⟩ mbr parent) := by
  unfold Scanner.enlist
  by_cases hannounced : options.gpt = .revisionOne ∧ mbr.protectiveIndex?.isSome
  · rw [if_pos hannounced, if_pos hannounced]
    exact h.enlistGpt options parent
  · rw [if_neg hannounced, if_neg hannounced]
    exact h.enlistMbr options mbr parent

/-- **A detection** nests buffers three deep. -/
theorem detect (h : Rules env env' lent P) (mbr : Mbr) (index : Nat) :
    P 3 (Scanner.detect ⟨env, options⟩ mbr index) (Scanner.detect ⟨env', options⟩ mbr index) := by
  unfold Scanner.detect
  refine h.bind h.current fun _ => h.bind (h.lift _) fun _ => h.bind (h.lift _) fun _ => ?_
  refine h.bind (h.enlist options mbr _) fun _ => h.bind (h.classify _ _) fun _ => ?_
  exact h.bind h.current fun _ => h.bind (h.lift _) fun _ => h.pure _

/-- **Reading a boot sector** takes one buffer. -/
theorem readBootSector (h : Rules env env' lent P) (volume : Volume) :
    P 1 (Scanner.readBootSector ⟨env, options⟩ volume)
      (Scanner.readBootSector ⟨env', options⟩ volume) := by
  unfold Scanner.readBootSector
  refine h.withBuffer fun _ hlent => h.bind (h.fill hlent _ _ _) fun _ => ?_
  exact h.bind (h.lift _) fun _ => h.lift _

end Rules

end Action

end VolumeScan
