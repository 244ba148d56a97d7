/-
VolumeScan.Proofs.Scratch.Steady — allocators whose answers depend on what is out.

A scan gives its blocks back newest first, so what is out is a stack of loans. `Allocator.Reaches`
describes the states that such a client can bring an allocator into, together with the loans that
are out then. The allocator answers by a function (`Allocator.Answers`) if the sizes it grants, and
its refusals, follow from the request and from the sizes of these loans, however the state was
reached. Where the blocks are may depend on more than that; if it does not, the sizes of the loans
say as much as the blocks themselves (`Allocator.exists_answers`).

A heap answers in this way, since it looks at the request alone (`Heap.answers_allocator`). So does
an arena, since releasing the newest block undoes its allocation (`Pool.answers_allocator`). An
allocator that does not count attempts, or that does not admit to releases, answers as the one it is
made from.
-/
import VolumeScan.Proofs.Scratch.Arena
import VolumeScan.Scratch.Heap

namespace VolumeScan

/-- A block that is out: what was asked for, and what was granted. -/
structure Loan where
  request : Nat
  grant : Grant
deriving DecidableEq, Repr

/-- A loan without the place of its block. -/
def Loan.sizes (loan : Loan) : Nat × Nat := (loan.request, loan.grant.size)

namespace Allocator

variable {σ : Type}

/-- A client that gives its blocks back newest first can bring the allocator from `start` into this
state, with these loans out, the newest ones first. -/
inductive Reaches (allocator : Allocator σ) (start : σ) : List Loan → σ → Prop where
  | start : Reaches allocator start [] start
  | refused {loans : List Loan} {state state' : σ} {request : Nat}
      (before : Reaches allocator start loans state)
      (refusal : allocator.allocate state request = (none, state')) :
      Reaches allocator start loans state'
  | granted {loans : List Loan} {state state' : σ} {request : Nat} {grant : Grant}
      (before : Reaches allocator start loans state)
      (answer : allocator.allocate state request = (some grant, state')) :
      Reaches allocator start (⟨request, grant⟩ :: loans) state'
  | released {loans : List Loan} {state : σ} {loan : Loan}
      (before : Reaches allocator start (loan :: loans) state) :
      Reaches allocator start loans (allocator.release state loan.grant).2
  | cleared {loans : List Loan} {state : σ} (grant : Grant)
      (before : Reaches allocator start loans state) :
      Reaches allocator start loans (allocator.clear state grant)
  | stored {loans : List Loan} {state : σ} (grant : Grant) (pos : Nat) (bytes : Bytes)
      (before : Reaches allocator start loans state) :
      Reaches allocator start loans (allocator.store state grant pos bytes)

/-- From `start` on, `answer` tells the size that is granted, or that nothing is, from the sizes of
the loans that are out and the request. -/
def Answers (allocator : Allocator σ) (start : σ)
    (answer : List (Nat × Nat) → Nat → Option Nat) : Prop :=
  ∀ (loans : List Loan) (state : σ), allocator.Reaches start loans state → ∀ request,
    (allocator.allocate state request).1.map (·.size) = answer (loans.map Loan.sizes) request

variable {allocator : Allocator σ} {start : σ} {answer : List (Nat × Nat) → Nat → Option Nat}

/-- What a client of an allocator without a bound does with it, it does with the allocator that is
behind it. -/
theorem Reaches.of_limited {made : Nat} {loans : List Loan} {state : σ × Nat}
    (h : (allocator.limited none).Reaches (start, made) loans state) :
    allocator.Reaches start loans state.1 := by
  induction h with
  | start => exact .start
  | refused _ hrefusal ih =>
    obtain ⟨hnone, hstate⟩ := Prod.mk.inj hrefusal
    exact hstate ▸ ih.refused (Prod.ext hnone rfl)
  | granted _ hanswer ih =>
    obtain ⟨hsome, hstate⟩ := Prod.mk.inj hanswer
    exact hstate ▸ ih.granted (Prod.ext hsome rfl)
  | released _ ih => exact ih.released
  | cleared grant _ ih => exact ih.cleared grant
  | stored grant pos bytes _ ih => exact ih.stored grant pos bytes

/-- An allocator that passes all attempts on answers as the one behind it. -/
theorem Answers.limited (h : allocator.Answers start answer) (made : Nat) :
    (allocator.limited none).Answers (start, made) answer :=
  fun _ _ hreaches request => h _ _ hreaches.of_limited request

theorem Reaches.of_unadmitting {loans : List Loan} {state : σ}
    (h : allocator.unadmitting.Reaches start loans state) :
    allocator.Reaches start loans state := by
  induction h with
  | start => exact .start
  | refused _ hrefusal ih => exact ih.refused hrefusal
  | granted _ hanswer ih => exact ih.granted hanswer
  | released _ ih => exact ih.released
  | cleared grant _ ih => exact ih.cleared grant
  | stored grant pos bytes _ ih => exact ih.stored grant pos bytes

/-- What is said about releases makes no difference. -/
theorem Answers.unadmitting (h : allocator.Answers start answer) :
    allocator.unadmitting.Answers start answer :=
  fun _ _ hreaches request => h _ _ hreaches.of_unadmitting request

/-- The loans of a client whose requests were answered like this, all of them still out. Refused
requests leave none. -/
def replay (grants : List Loan → Nat → Option Grant) : List Nat → List Loan
  | [] => []
  | request :: older =>
    match grants (replay grants older) request with
    | none => replay grants older
    | some grant => ⟨request, grant⟩ :: replay grants older

theorem length_replay_le (grants : List Loan → Nat → Option Grant) (requests : List Nat) :
    (replay grants requests).length ≤ requests.length := by
  induction requests with
  | nil => exact Nat.le_refl _
  | cons request older ih =>
    unfold replay
    cases grants (replay grants older) request with
    | none => exact Nat.le_succ_of_le ih
    | some grant => exact Nat.succ_le_succ ih

/-- If what is granted follows from the loans, then these follow from their requests. -/
theorem Reaches.replay_eq {grants : List Loan → Nat → Option Grant}
    (hgrants : ∀ {loans : List Loan} {state : σ}, allocator.Reaches start loans state →
      ∀ request, (allocator.allocate state request).1 = grants loans request)
    {loans : List Loan} {state : σ} (h : allocator.Reaches start loans state) :
    replay grants (loans.map (·.request)) = loans := by
  induction h with
  | start => rfl
  | refused _ _ ih => exact ih
  | @granted loans state state' request grant before hanswer ih =>
    have hgrant : grants loans request = some grant := by
      rw [← hgrants before request, hanswer]
    simp only [List.map_cons, replay, ih, hgrant]
  | @released loans state loan _ ih =>
    rw [List.map_cons, replay] at ih
    cases hgrant : grants (replay grants (loans.map (·.request))) loan.request with
    | none =>
      -- So many loans do not come from so few requests.
      have hlength := length_replay_le grants (loans.map (·.request))
      rw [hgrant] at ih
      dsimp only at ih
      rw [ih, List.length_cons, List.length_map] at hlength
      omega
    | some grant =>
      rw [hgrant] at ih
      exact (List.cons.inj ih).2
  | cleared _ _ ih => exact ih
  | stored _ _ _ _ ih => exact ih

/-- **If what is granted follows from the request and from what is out**, places and all, then the
allocator answers by a function of sizes. -/
theorem exists_answers {grants : List Loan → Nat → Option Grant}
    (hgrants : ∀ {loans : List Loan} {state : σ}, allocator.Reaches start loans state →
      ∀ request, (allocator.allocate state request).1 = grants loans request) :
    ∃ answer, allocator.Answers start answer := by
  refine ⟨fun out request => (grants (replay grants (out.map Prod.fst)) request).map (·.size),
    fun loans state hreaches request => ?_⟩
  have hrequests : (loans.map Loan.sizes).map Prod.fst = loans.map (·.request) := by
    rw [List.map_map]
    rfl
  dsimp only
  rw [hgrants hreaches, hrequests, hreaches.replay_eq hgrants]

end Allocator

/-! ## Heaps -/

/-- **A heap answers** whatever is out: it looks at the request alone. -/
theorem Heap.answers_allocator (heap : Heap) (start : Nat) :
    heap.allocator.Answers start fun _ request =>
      if heap.rounded request ≤ heap.limit then some (heap.rounded request - heap.shortfall)
      else none := by
  intro loans state _ request
  dsimp only [Heap.allocator]
  by_cases hlimit : heap.rounded request ≤ heap.limit
  · rw [if_pos hlimit, if_pos hlimit]
    rfl
  · rw [if_neg hlimit, if_neg hlimit]
    rfl

/-! ## Arenas -/

/-- The bytes in loans of these sizes. -/
def Loan.total : List (Nat × Nat) → Nat
  | [] => 0
  | (_, size) :: older => size + Loan.total older

/-- Each block starts where the older ones end, the oldest one at `base`. -/
def Loan.Stacked (base : Nat) : List Loan → Prop
  | [] => True
  | loan :: older =>
    loan.grant.start = base + Loan.total (older.map Loan.sizes) ∧ Loan.Stacked base older

/-- An arena with these loans on top of what was in use at the start. -/
structure Arena.Lends (start : Arena) (loans : List Loan) (arena : Arena) : Prop where
  size_eq : arena.size = start.size
  top_eq : arena.top = start.top + Loan.total (loans.map Loan.sizes)
  live_eq : arena.live = start.live + loans.length
  stacked : Loan.Stacked start.top loans
  top_le : loans ≠ [] → arena.top ≤ arena.size

namespace Arena

variable {start arena arena' : Arena} {loans : List Loan}

theorem Lends.granted (h : start.Lends loans arena) {request : Nat} {grant : Grant}
    (hgranted : arena.allocate request = (some grant, arena')) :
    start.Lends (⟨request, grant⟩ :: loans) arena' := by
  obtain ⟨-, hfits, rfl, rfl⟩ := allocate_eq_some_iff.mp hgranted
  have htop := h.top_eq
  have hlive := h.live_eq
  constructor
  case size_eq => exact h.size_eq
  case top_eq =>
    simp only [List.map_cons, Loan.sizes, Loan.total]
    omega
  case live_eq =>
    simp only [List.length_cons]
    omega
  case stacked => exact ⟨htop, h.stacked⟩
  case top_le => exact fun _ => hfits

/-- Releasing the newest block undoes its allocation, if the arena was settled at the start. -/
theorem Lends.released {loan : Loan} (h : start.Lends (loan :: loans) arena)
    (hsettled : start.Settled) :
    start.Lends loans (arena.release loan.grant).2 := by
  obtain ⟨hstart, hstacked⟩ := h.stacked
  have htop := h.top_eq
  have hlive := h.live_eq
  have hle := h.top_le (List.cons_ne_nil _ _)
  simp only [List.map_cons, Loan.sizes, Loan.total] at htop
  rw [List.length_cons] at hlive
  have haccepted : ¬(arena.size < loan.grant.start ∨ arena.live = 0) := by omega
  unfold release
  rw [if_neg haccepted]
  by_cases hlast : arena.live = 1
  · obtain rfl : loans = [] := List.length_eq_zero_iff.mp (by omega)
    rw [if_pos hlast]
    have hbottom := hsettled (by omega)
    have hnone : 0 = start.live + ([] : List Loan).length := by
      rw [List.length_nil]
      omega
    exact ⟨h.size_eq, hbottom.symm, hnone, trivial, fun h => absurd rfl h⟩
  · rw [if_neg hlast, if_pos (by omega)]
    exact ⟨h.size_eq, hstart, by dsimp only; omega, hstacked, fun _ => by dsimp only; omega⟩

end Arena

namespace Pool

theorem allocate_arena {pool pool' : Pool} {request : Nat} {grant : Option Grant}
    (h : allocator.allocate pool request = (grant, pool')) :
    pool.arena.allocate request = (grant, pool'.arena) :=
  congrArg (fun answer => (answer.1, answer.2.arena)) h

/-- However an arena is used, the loans are a stack above what was in use at the start. -/
theorem lends_of_reaches {start pool : Pool} (hsettled : start.arena.Settled)
    {loans : List Loan} (h : allocator.Reaches start loans pool) :
    start.arena.Lends loans pool.arena := by
  induction h with
  | start => exact ⟨rfl, rfl, rfl, trivial, fun h => absurd rfl h⟩
  | refused _ hrefusal ih => exact Arena.eq_of_allocate_eq_none (allocate_arena hrefusal) ▸ ih
  | granted _ hanswer ih => exact ih.granted (allocate_arena hanswer)
  | released _ ih => exact ih.released hsettled
  | cleared _ _ ih => exact ih
  | stored _ _ _ _ ih => exact ih

/-- **An arena answers** by the bytes that are out. -/
theorem answers_allocator {start : Pool} (hsettled : start.arena.Settled) :
    allocator.Answers start fun out request =>
      if request + (Arena.granule - 1) < wordLimit
          ∧ start.arena.top + Loan.total out + Arena.roundUp request ≤ start.arena.size then
        some (Arena.roundUp request)
      else none := by
  intro loans pool hreaches request
  have hlends := lends_of_reaches hsettled hreaches
  dsimp only [allocator, Arena.allocate]
  rw [hlends.top_eq, hlends.size_eq]
  split <;> rfl

end Pool

end VolumeScan
