/-
VolumeScan.Proofs.Scan.Simulation — two environments that answer alike.

A relation between what has happened so far and the states of two environments is kept by both
(`Environment.Alike`) if related states grant the same blocks and read the same bytes. What a
release returns is left open. Every action then runs alike in both: it has the same result, changes
the registry in the same way, and makes the same events, apart from the complaints about releases
(`Action.Alike`, with one rule for each kind of action). So does every request
(`Request.alike_serve`).
-/
import VolumeScan.Proofs.Scan.Discovery
import VolumeScan.Proofs.Scan.Rules
import VolumeScan.Scan.Request

namespace VolumeScan

namespace Event

/-- The bytes that a read gave. -/
def given {len : Nat} (answer : Except Error (Block len)) : Option Bytes :=
  answer.toOption.map (·.val)

/-- The events without the complaints about blocks that were not accepted back. -/
def quiet (events : List Event) : List Event :=
  events.filter fun
    | .log (.releaseRefused _) => false
    | _ => true

@[simp] theorem quiet_append (events more : List Event) :
    quiet (events ++ more) = quiet events ++ quiet more := List.filter_append ..

/-- The complaint about a block is all that is left out around it. -/
theorem quiet_block (size : Nat) (grant : Grant) (events : List Event) (accepted : Bool) :
    quiet (.allocate size (some grant) :: events
        ++ (.release grant :: Action.complaint grant accepted))
      = .allocate size (some grant) :: quiet events ++ [.release grant] := by
  rw [List.cons_append, quiet, List.filter_cons_of_pos rfl, List.filter_append,
    List.filter_cons_of_pos rfl]
  cases accepted <;> rfl

end Event

/-- Two environments answer alike as long as `R` relates the events so far and their states. -/
structure Environment.Alike {σ τ : Type} (R : List Event → σ → τ → Prop) (env : Environment σ)
    (env' : Environment τ) : Prop where
  log : ∀ {past s t} (record : Record), R past s t → R (past ++ [.log record]) s t
  allocate : ∀ {past s t} (size : Nat), R past s t →
    (env'.scratch.allocate t size).1 = (env.scratch.allocate s size).1
      ∧ R (past ++ [.allocate size (env.scratch.allocate s size).1])
        (env.scratch.allocate s size).2 (env'.scratch.allocate t size).2
  release : ∀ {past s t} (grant : Grant), R past s t →
    R (past ++ [.release grant]) (env.scratch.release s grant).2 (env'.scratch.release t grant).2
  clear : ∀ {past s t} (grant : Grant), R past s t →
    R past (env.scratch.clear s grant) (env'.scratch.clear t grant)
  store : ∀ {past s t} (grant : Grant) (start : Nat) (bytes : Bytes), R past s t →
    R past (env.scratch.store s grant start bytes) (env'.scratch.store t grant start bytes)
  read : ∀ {past s t} (volume : Volume) (pos len : Nat), R past s t →
    (env'.read t volume pos len).1 = (env.read s volume pos len).1
      ∧ R (past ++ [.read volume pos len (Event.given (env.read s volume pos len).1)])
        (env.read s volume pos len).2 (env'.read t volume pos len).2

/-- Two passes are alike after the same past. -/
structure Pass.Alike {σ τ α : Type} (R : List Event → σ → τ → Prop) (past : List Event)
    (pass : Pass σ α) (pass' : Pass τ α) : Prop where
  result_eq : pass'.result = pass.result
  registry_eq : pass'.registry = pass.registry
  quiet_eq : Event.quiet pass'.events = Event.quiet pass.events
  related : R (past ++ pass.events) pass.state pass'.state

/-- The events of an acquisition. -/
def Acquisition.events (size : Nat) : Acquisition → List Event
  | .refused => [.allocate size none]
  | .short grant => [.allocate size (some grant), .release grant]
  | .whole grant => [.allocate size (some grant)]

section

variable {σ τ α β : Type} {R : List Event → σ → τ → Prop} {env : Environment σ}
  {env' : Environment τ} {past : List Event} {s : σ} {t : τ}

/-- Requests for buffers end alike. -/
theorem Environment.Alike.acquire (h : Environment.Alike R env env') (hR : R past s t)
    (size : Nat) :
    (env'.scratch.acquire t size).1 = (env.scratch.acquire s size).1
      ∧ R (past ++ (env.scratch.acquire s size).1.events size)
        (env.scratch.acquire s size).2 (env'.scratch.acquire t size).2 := by
  obtain ⟨hsame, hrelated⟩ := h.allocate size hR
  unfold Allocator.acquire
  rcases hallocate : env.scratch.allocate s size with ⟨grant, granted⟩
  rcases hallocate' : env'.scratch.allocate t size with ⟨grant', granted'⟩
  rw [hallocate, hallocate'] at hsame hrelated
  cases hsame
  cases grant with
  | none => exact ⟨rfl, hrelated⟩
  | some grant =>
    by_cases hshort : grant.size < size
    · simp only [hshort, if_true, true_and]
      have hreleased := h.release grant hrelated
      rwa [List.append_assoc] at hreleased
    · simp only [hshort, if_false, true_and]
      exact h.clear grant hrelated

theorem Environment.Alike.logs (h : Environment.Alike R env env') (hR : R past s t)
    (records : List Record) : R (past ++ records.map Event.log) s t := by
  induction records generalizing past with
  | nil => rwa [List.map_nil, List.append_nil]
  | cons record records ih =>
    rw [List.map_cons, List.append_cons]
    exact ih (h.log record hR)

theorem Environment.Alike.complain (h : Environment.Alike R env env') (hR : R past s t)
    (grant : Grant) (accepted : Bool) : R (past ++ Action.complaint grant accepted) s t := by
  cases accepted with
  | true => exact h.logs hR []
  | false => exact h.logs hR [.releaseRefused grant.size]

/-- Passes are alike if they go on alike behind events that are alike. -/
theorem Pass.Alike.behind {events events' : List Event} {pass : Pass σ α} {pass' : Pass τ α}
    (hevents : Event.quiet events' = Event.quiet events)
    (hpass : Pass.Alike R (past ++ events) pass pass') :
    Pass.Alike R past { pass with events := events ++ pass.events }
      { pass' with events := events' ++ pass'.events } := by
  refine ⟨hpass.result_eq, hpass.registry_eq, ?_, ?_⟩
  · rw [Event.quiet_append, Event.quiet_append, hevents, hpass.quiet_eq]
  · rw [← List.append_assoc]
    exact hpass.related

/-- Passes are still alike when both log the same and have another result. -/
theorem Pass.Alike.log {pass : Pass σ α} {pass' : Pass τ α} (hpass : Pass.Alike R past pass pass')
    (h : Environment.Alike R env env') (records : List Record) (b : β) :
    Pass.Alike R past ⟨b, pass.registry, pass.state, pass.events ++ records.map Event.log⟩
      ⟨b, pass.registry, pass'.state, pass'.events ++ records.map Event.log⟩ := by
  refine ⟨rfl, rfl, ?_, ?_⟩
  · rw [Event.quiet_append, Event.quiet_append, hpass.quiet_eq]
  · rw [← List.append_assoc]
    exact h.logs hpass.related records

namespace Action

/-- The action runs alike in two environments. -/
def Alike (R : List Event → σ → τ → Prop) (action : Action σ α) (action' : Action τ α) : Prop :=
  ∀ registry past s t, R past s t →
    Pass.Alike R past (action.run registry s) (action'.run registry t)

namespace Alike

/-- An action that the environment does not see runs alike everywhere. -/
theorem of_run {action : Action σ α} {action' : Action τ α} {result : Registry → Except Error α}
    {after : Registry → Registry}
    (h : ∀ registry s, action.run registry s = ⟨result registry, after registry, s, []⟩)
    (h' : ∀ registry t, action'.run registry t = ⟨result registry, after registry, t, []⟩) :
    Alike R action action' := by
  intro registry past s t hR
  rw [h, h']
  exact ⟨rfl, rfl, rfl, by rwa [List.append_nil]⟩

theorem lift (x : Except Error α) : Alike R (liftM x) (liftM x) :=
  of_run (fun _ _ => rfl) fun _ _ => rfl

theorem current : Alike R Action.current Action.current :=
  of_run (fun _ _ => rfl) fun _ _ => rfl

theorem append (volume : Volume) : Alike R (Action.append volume) (Action.append volume) := by
  intro registry past s t hR
  cases happend : registry.append volume with
  | some grown =>
    rw [run_append_of_some happend, run_append_of_some happend]
    exact ⟨rfl, rfl, rfl, by rwa [List.append_nil]⟩
  | none =>
    rw [run_append_of_none happend, run_append_of_none happend]
    exact ⟨rfl, rfl, rfl, by rwa [List.append_nil]⟩

theorem classify (index : Nat) (kind : VolumeKind) :
    Alike R (Action.classify index kind) (Action.classify index kind) := by
  intro registry past s t hR
  cases hclassify : registry.classify index kind with
  | ok classified =>
    rw [run_classify_of_ok hclassify, run_classify_of_ok hclassify]
    exact ⟨rfl, rfl, rfl, by rwa [List.append_nil]⟩
  | error error =>
    rw [run_classify_of_error hclassify, run_classify_of_error hclassify]
    exact ⟨rfl, rfl, rfl, by rwa [List.append_nil]⟩

theorem log (h : Environment.Alike R env env') (records : List Record) :
    Alike R (Action.log records) (Action.log records) :=
  fun _ _ _ _ hR => ⟨rfl, rfl, rfl, h.logs hR records⟩

theorem bind {action : Action σ α} {action' : Action τ α} {next : α → Action σ β}
    {next' : α → Action τ β} (h : Alike R action action')
    (hnext : ∀ a, Alike R (next a) (next' a)) : Alike R (action >>= next) (action' >>= next') := by
  intro registry past s t hR
  have hfirst := h registry past s t hR
  cases hresult : (action.run registry s).result with
  | error error =>
    rw [run_bind_of_error hresult, run_bind_of_error (hfirst.result_eq.trans hresult)]
    exact ⟨rfl, hfirst.registry_eq, hfirst.quiet_eq, hfirst.related⟩
  | ok a =>
    have hsecond := hnext a (action.run registry s).registry _ _ _ hfirst.related
    rw [run_bind_of_ok hresult, run_bind_of_ok (hfirst.result_eq.trans hresult),
      hfirst.registry_eq]
    exact hsecond.behind hfirst.quiet_eq

theorem fill (h : Environment.Alike R env env') (buffer : Grant) (volume : Volume) (pos len : Nat) :
    Alike R (Action.fill env buffer volume pos len) (Action.fill env' buffer volume pos len) := by
  intro registry past s t hR
  rcases Nat.lt_or_ge buffer.size len with hshort | hlen
  · rw [run_fill_of_short hshort, run_fill_of_short hshort]
    exact ⟨rfl, rfl, rfl, by rwa [List.append_nil]⟩
  · obtain ⟨hsame, hrelated⟩ := h.read volume pos len hR
    rcases hread : env.read s volume pos len with ⟨answer, answered⟩
    rcases hread' : env'.read t volume pos len with ⟨answer', answered'⟩
    rw [hread, hread'] at hsame hrelated
    cases hsame
    cases answer with
    | ok block =>
      rw [run_fill_of_ok hlen hread, run_fill_of_ok hlen hread']
      exact ⟨rfl, rfl, rfl, h.store buffer 0 block.val hrelated⟩
    | error error =>
      rw [run_fill_of_error hlen hread, run_fill_of_error hlen hread']
      exact ⟨rfl, rfl, rfl, hrelated⟩

/-- Only the complaint about the release may be there in one environment and not in the other. -/
theorem withBuffer (h : Environment.Alike R env env') {size : Nat} {body : Grant → Action σ α}
    {body' : Grant → Action τ α} (hbody : ∀ grant, Alike R (body grant) (body' grant)) :
    Alike R (Action.withBuffer env size body) (Action.withBuffer env' size body') := by
  intro registry past s t hR
  obtain ⟨hsame, hrelated⟩ := h.acquire hR size
  rcases hacquire : env.scratch.acquire s size with ⟨acquisition, acquired⟩
  rcases hacquire' : env'.scratch.acquire t size with ⟨acquisition', acquired'⟩
  rw [hacquire, hacquire'] at hsame hrelated
  cases hsame
  cases acquisition with
  | refused =>
    rw [run_withBuffer_of_refused hacquire, run_withBuffer_of_refused hacquire']
    exact ⟨rfl, rfl, rfl, hrelated⟩
  | short grant =>
    rw [run_withBuffer_of_short hacquire, run_withBuffer_of_short hacquire']
    exact ⟨rfl, rfl, rfl, hrelated⟩
  | whole grant =>
    have hpass := hbody grant registry _ _ _ hrelated
    have hreleased := h.complain (h.release grant hpass.related) grant
      (env.scratch.release ((body grant).run registry acquired).state grant).1
    rw [run_withBuffer_of_whole hacquire, run_withBuffer_of_whole hacquire']
    refine ⟨hpass.result_eq, hpass.registry_eq, ?_, ?_⟩
    · rw [Event.quiet_block, Event.quiet_block, hpass.quiet_eq]
    · simpa only [Acquisition.events, List.append_assoc, List.cons_append, List.nil_append]
        using hreleased

/-- So every operation runs alike that is made of these steps. -/
theorem rules (h : Environment.Alike R env env') :
    Rules env env' (fun _ => True) fun _ action action' => Alike R action action' where
  lift := Alike.lift
  log := Alike.log h
  current := Alike.current
  append := Alike.append
  classify := Alike.classify
  fill := fun {_ buffer} _ => Alike.fill h buffer
  bind := Alike.bind
  withBuffer := fun hbody => Alike.withBuffer h fun grant => hbody grant trivial

end Alike

end Action

/-! ## The operations of a scanner -/

namespace Scanner

open VolumeScan.Action

variable (options : Options)

theorem alike_detect (h : Environment.Alike R env env') (mbr : Mbr) (index : Nat) :
    Alike R (detect ⟨env, options⟩ mbr index) (detect ⟨env', options⟩ mbr index) :=
  (Alike.rules h).detect options mbr index

theorem alike_readBootSector (h : Environment.Alike R env env') (volume : Volume) :
    Alike R (readBootSector ⟨env, options⟩ volume) (readBootSector ⟨env', options⟩ volume) :=
  (Alike.rules h).readBootSector options volume

theorem alike_detectOrLog (h : Environment.Alike R env env') (mbr : Mbr) (index : Nat)
    (registry : Registry) (hR : R past s t) :
    Pass.Alike R past (detectOrLog ⟨env, options⟩ mbr index registry s)
      (detectOrLog ⟨env', options⟩ mbr index registry t) := by
  have hpass := alike_detect options h mbr index registry past s t hR
  rw [detectOrLog_eq, detectOrLog_eq]
  dsimp only
  rw [hpass.result_eq, hpass.registry_eq]
  exact hpass.log h _ _

theorem alike_visit (h : Environment.Alike R env env') (registry : Registry) (index : Nat)
    (hR : R past s t) :
    Pass.Alike R past (visit ⟨env, options⟩ registry index s)
      (visit ⟨env', options⟩ registry index t) := by
  cases hat : registry.volumes[index]? with
  | none =>
    rw [visit_of_none hat, visit_of_none hat]
    exact ⟨rfl, rfl, rfl, by rwa [List.append_nil]⟩
  | some volume =>
    have hread := alike_readBootSector options h volume registry past s t hR
    have hlog : ∀ (readable : Bool) record, Pass.Alike R past
        ⟨readable, registry, _, _ ++ [record].map Event.log⟩
        ⟨readable, registry, _, _ ++ [record].map Event.log⟩ := fun readable record => by
      have hlogged := hread.log h [record] readable
      rwa [registry_readBootSector] at hlogged
    cases hboot : ((readBootSector ⟨env, options⟩ volume).run registry s).result with
    | error error =>
      rw [visit_of_unreadable hat hboot, visit_of_unreadable hat (hread.result_eq.trans hboot)]
      exact hlog false _
    | ok mbr =>
      have hboot' := hread.result_eq.trans hboot
      cases hvalid : mbr.validate volume with
      | error error =>
        rw [visit_of_noTable hat hboot hvalid, visit_of_noTable hat hboot' hvalid]
        exact hlog true _
      | ok _ =>
        have hpass := alike_detectOrLog options h mbr index registry hread.related
        rw [visit_of_table hat hboot hvalid, visit_of_table hat hboot' hvalid]
        dsimp only
        rw [hpass.registry_eq, hpass.result_eq]
        exact (hpass.behind hread.quiet_eq).log h _ _

theorem alike_visitAll (h : Environment.Alike R env env') (indices : List Nat)
    (registry : Registry) (hR : R past s t) :
    Pass.Alike R past (visitAll ⟨env, options⟩ indices registry s)
      (visitAll ⟨env', options⟩ indices registry t) := by
  induction indices generalizing past registry s t with
  | nil => exact ⟨rfl, rfl, rfl, by rwa [visitAll, List.append_nil]⟩
  | cons index rest ih =>
    have hhere := alike_visit options h registry index hR
    have hfurther := ih (visit ⟨env, options⟩ registry index s).registry hhere.related
    have hboth := hfurther.behind hhere.quiet_eq
    rw [visitAll, visitAll, hhere.result_eq, hhere.registry_eq, hfurther.result_eq]
    exact ⟨rfl, hboth.registry_eq, hboth.quiet_eq, hboth.related⟩

theorem alike_discover (h : Environment.Alike R env env') (registry : Registry) (hR : R past s t) :
    Pass.Alike R past (discover ⟨env, options⟩ registry s)
      (discover ⟨env', options⟩ registry t) := by
  unfold discover
  by_cases hempty : registry.size = 0
  · rw [if_pos hempty, if_pos hempty]
    exact ⟨rfl, rfl, rfl, h.log _ hR⟩
  · have hpass := alike_visitAll options h (List.range registry.size) registry hR
    rw [if_neg hempty, if_neg hempty]
    dsimp only
    rw [hpass.result_eq, hpass.registry_eq]
    exact hpass.log h [_] _

end Scanner

/-- **Every request runs alike** in environments that answer alike. -/
theorem Request.alike_serve (h : Environment.Alike R env env') (registry : Registry)
    (request : Request) (hR : R past s t) :
    Pass.Alike R past (request.serve env registry s) (request.serve env' registry t) := by
  cases request with
  | seed volume =>
    dsimp only [serve]
    cases registry.seed volume <;> exact ⟨rfl, rfl, rfl, by rwa [List.append_nil]⟩
  | discover options =>
    have hpass := Scanner.alike_discover options h registry hR
    dsimp only [serve]
    rw [hpass.result_eq, hpass.registry_eq]
    exact ⟨rfl, rfl, hpass.quiet_eq, hpass.related⟩
  | detect options mbr parent =>
    have hpass := Scanner.alike_detect options h mbr parent registry past s t hR
    dsimp only [serve]
    rw [hpass.result_eq]
    cases ((Scanner.detect ⟨env, options⟩ mbr parent).run registry s).result <;>
      exact ⟨rfl, hpass.registry_eq, hpass.quiet_eq, hpass.related⟩
  | detectOrLog options mbr parent =>
    have hpass := Scanner.alike_detectOrLog options h mbr parent registry hR
    dsimp only [serve]
    rw [hpass.result_eq, hpass.registry_eq]
    exact ⟨rfl, rfl, hpass.quiet_eq, hpass.related⟩
  | find index =>
    dsimp only [serve]
    cases registry.volume index <;> exact ⟨rfl, rfl, rfl, by rwa [List.append_nil]⟩
  | peek index => exact ⟨rfl, rfl, rfl, by rwa [serve, List.append_nil]⟩

end

end VolumeScan
