/-
VolumeScan.Proofs.Scan.ScratchDiscipline — what a request asks of the environment.

`Environment.recorded` is an environment that keeps a list of what it was asked for and what it
answered. It answers like the environment it is made of (`Environment.alike_recorded`), so the list
is that of the events of a pass, without the log (`Request.callsOf_eq`). The blocks in it are
granted and released like a stack of at most three, which is empty in the end; and what a release
returns has no influence on anything but the complaint about it.
-/
import VolumeScan.Proofs.Scan.Balance
import VolumeScan.Proofs.Scan.GptDetection
import VolumeScan.Proofs.Scan.Simulation

namespace VolumeScan

namespace Event

/-- The events that the environment was asked for, without the log. -/
def calls (events : List Event) : List Event :=
  events.filter fun
    | .log _ => false
    | _ => true

/-- The blocks that were granted, in order. -/
def grants (events : List Event) : List Grant :=
  events.filterMap fun
    | .allocate _ grant => grant
    | _ => none

/-- The blocks that were released, in order. -/
def releases (events : List Event) : List Grant :=
  events.filterMap fun
    | .release grant => some grant
    | _ => none

/-- The log has nothing to do with blocks. -/
theorem foldlM_follow_calls (limit : Nat) (held : List Grant) (events : List Event) :
    (calls events).foldlM (follow limit) held = events.foldlM (follow limit) held := by
  induction events generalizing held with
  | nil => rfl
  | cons event events ih =>
    cases event with
    | log record => exact ih held
    | read volume pos len data => exact ih held
    | allocate size grant =>
      rw [calls, List.filter_cons_of_pos rfl, List.foldlM_cons, List.foldlM_cons]
      exact bind_congr fun held' => ih held'
    | release grant =>
      rw [calls, List.filter_cons_of_pos rfl, List.foldlM_cons, List.foldlM_cons]
      exact bind_congr fun held' => ih held'

/-- Whoever follows a trace sees every block that was granted released or still out. -/
theorem perm_of_follow {limit : Nat} {held held' : List Grant} {events : List Event}
    (h : events.foldlM (follow limit) held = some held') :
    (held ++ grants events).Perm (held' ++ releases events) := by
  induction events generalizing held with
  | nil =>
    cases h
    exact .refl _
  | cons event events ih =>
    rw [List.foldlM_cons] at h
    obtain ⟨middle, hfollow, hrest⟩ := Option.bind_eq_some_iff.mp h
    have hperm := ih hrest
    cases event with
    | log record =>
      cases hfollow
      exact hperm
    | read volume pos len data =>
      cases hfollow
      exact hperm
    | allocate size grant =>
      cases grant with
      | none =>
        cases hfollow
        exact hperm
      | some grant =>
        obtain ⟨-, rfl⟩ := follow_allocate_eq_some_iff.mp hfollow
        exact List.perm_middle.trans hperm
    | release grant =>
      rw [follow_release_eq_some_iff.mp hfollow]
      exact (hperm.cons grant).trans List.perm_middle.symm

/-- Complaints are not calls. -/
theorem calls_quiet (events : List Event) : calls (quiet events) = calls events := by
  rw [calls, quiet, List.filter_filter]
  refine congrArg (List.filter · events) (funext fun event => ?_)
  cases event <;> rfl

end Event

namespace Environment

variable {σ : Type}

/-- The environment with a list of what it was asked for and what it answered. -/
def recorded (env : Environment σ) : Environment (σ × List Event) where
  read := fun (state, past) volume pos len =>
    let (answer, state) := env.read state volume pos len
    (answer, (state, past ++ [.read volume pos len (Event.given answer)]))
  scratch := {
    allocate := fun (state, past) size =>
      let (grant, state) := env.scratch.allocate state size
      (grant, (state, past ++ [.allocate size grant]))
    release := fun (state, past) grant =>
      let (accepted, state) := env.scratch.release state grant
      (accepted, (state, past ++ [.release grant]))
    clear := fun (state, past) grant => (env.scratch.clear state grant, past)
    store := fun (state, past) grant start bytes =>
      (env.scratch.store state grant start bytes, past) }

/-- The list has no influence on the answers, and it lists the calls among the events. -/
theorem alike_recorded (env : Environment σ) :
    Environment.Alike (fun past state recorded => recorded = (state, Event.calls past)) env
      env.recorded where
  log := by
    intro past state _ record hrecorded
    subst hrecorded
    simp [Event.calls]
  allocate := by
    intro past state _ size hrecorded
    subst hrecorded
    simp [recorded, Event.calls]
  release := by
    intro past state _ grant hrecorded
    subst hrecorded
    simp [recorded, Event.calls]
  clear := by
    intro past state _ grant hrecorded
    subst hrecorded
    rfl
  store := by
    intro past state _ grant start bytes hrecorded
    subst hrecorded
    rfl
  read := by
    intro past state _ volume pos len hrecorded
    subst hrecorded
    simp [recorded, Event.calls]

end Environment

namespace Request

variable {σ : Type}

/-- What the environment was asked for during a request, as the environment saw it. -/
def callsOf (env : Environment σ) (registry : Registry) (state : σ) (request : Request) :
    List Event :=
  (request.serve env.recorded registry (state, [])).state.2

/-- The calls are the events of the request, without the log. -/
theorem callsOf_eq (env : Environment σ) (registry : Registry) (state : σ) (request : Request) :
    request.callsOf env registry state
      = Event.calls (request.serve env registry state).events := by
  have hpass : Pass.Alike (fun past state recorded => recorded = (state, Event.calls past)) []
      (request.serve env registry state) (request.serve env.recorded registry (state, [])) :=
    alike_serve env.alike_recorded registry request rfl
  exact congrArg Prod.snd hpass.related

/-- **Scratch memory is given back**, whatever the allocator and the reader do. Watched from the
environment, a request has at most three blocks out at a time, releases the newest one first, with
the size that was granted, and has none out in the end: what was granted is what was released. The
answers to releases do not matter: in another environment that differs only in these, the request
has the same result, leaves the same registry, and asks for the same reads and the same blocks. -/
theorem scratch_discipline (env : Environment σ) (registry : Registry) (state : σ)
    (request : Request) :
    let calls := request.callsOf env registry state
    let pass := request.serve env registry state
    calls.foldlM (Event.follow 3) [] = some []
      ∧ (Event.grants calls).Perm (Event.releases calls)
      ∧ ∀ {τ : Type} (env' : Environment τ) (R : List Event → σ → τ → Prop) (state' : τ),
        Environment.Alike R env env' → R [] state state' →
          let calls' := request.callsOf env' registry state'
          let pass' := request.serve env' registry state'
          pass'.result = pass.result ∧ pass'.registry = pass.registry ∧ calls' = calls := by
  intro calls pass
  have hcalls : calls = Event.calls pass.events := callsOf_eq env registry state request
  have hfollow : calls.foldlM (Event.follow 3) [] = some [] := by
    rw [hcalls, Event.foldlM_follow_calls]
    exact balanced_serve env registry state request 3 [] (Nat.le_refl 3)
  refine ⟨hfollow, Event.perm_of_follow hfollow, ?_⟩
  intro τ env' R state' halike hrelated calls' pass'
  have hpass := alike_serve halike registry request hrelated
  have hcalls' : calls' = Event.calls pass'.events := callsOf_eq env' registry state' request
  refine ⟨hpass.result_eq, hpass.registry_eq, ?_⟩
  rw [hcalls, hcalls', ← Event.calls_quiet, hpass.quiet_eq, Event.calls_quiet]

/-- An arena that never admits to having taken a block back does not disturb a detection. -/
theorem scratch_discipline_unadmitting :
    let env := Scanner.tinyEnvironment
    let env' := { env with scratch := env.scratch.unadmitting }
    let registry : Registry := ⟨2, [Scanner.tinyDisk]⟩
    let request := Request.detect {} Scanner.tinyTable 0
    Environment.Alike (fun _ pool pool' => pool' = pool) env env'
      ∧ (request.serve env' registry Scanner.tinyPool).result
        = (request.serve env registry Scanner.tinyPool).result
      ∧ request.callsOf env' registry Scanner.tinyPool
        = request.callsOf env registry Scanner.tinyPool := by
  intro env env' registry request
  have halike : Environment.Alike (fun _ pool pool' => pool' = pool) env env' := {
    log := fun _ h => h
    allocate := by
      rintro _ pool _ size rfl
      exact ⟨rfl, rfl⟩
    release := by
      rintro _ pool _ grant rfl
      rfl
    clear := by
      rintro _ pool _ grant rfl
      rfl
    store := by
      rintro _ pool _ grant start bytes rfl
      rfl
    read := by
      rintro _ pool _ volume pos len rfl
      exact ⟨rfl, rfl⟩ }
  obtain ⟨-, -, hsame⟩ := scratch_discipline env registry Scanner.tinyPool request
  obtain ⟨hresult, -, hcalls⟩ :=
    hsame env' (fun _ pool pool' => pool' = pool) Scanner.tinyPool halike rfl
  exact ⟨halike, hresult, hcalls⟩

end Request

end VolumeScan
