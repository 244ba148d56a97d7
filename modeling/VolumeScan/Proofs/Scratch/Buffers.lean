/-
VolumeScan.Proofs.Scratch.Buffers — buffers on an arena are arrays of their own.

`ArrayHoldings` is a client without a region of bytes: each of its buffers is an array, made of
zeros, which only its own writes change. The arena tells how long a buffer is, and where it would
be. A client whose buffers are blocks of one region is told the same, step by step
(`Holdings.buffers_are_arrays`), whatever the region held at the start: the two are related by what
the pool shows at the blocks that are out (`Pool.Shows`), and every step on buffers keeps this
(`Holdings.Mirrors.step`).
-/
import Mathlib.Data.List.ReduceOption
import VolumeScan.Proofs.Scratch.Pool
import VolumeScan.Scratch.Holdings

namespace VolumeScan

namespace Holdings

/-- The step is about buffers. -/
def Step.onBuffers : Step → Bool
  | .acquire _ | .drop _ | .store _ _ _ | .write _ _ _ | .read _ => true
  | .allocate _ | .release _ => false

/-- The buffer that the step drops, writes or reads. -/
def Step.subject? : Step → Option Nat
  | .drop buffer | .store buffer _ _ | .write buffer _ _ | .read buffer => some buffer
  | .acquire _ | .allocate _ | .release _ => none

/-- Do steps one after the other: what a client is told, and what it is left with. -/
def run {σ : Type} (step : σ → Step → Answer × σ) (state : σ) : List Step → List Answer × σ
  | [] => ([], state)
  | next :: rest =>
    let (answer, state) := step state next
    let (answers, state) := run step state rest
    (answer :: answers, state)

end Holdings

/-- What a client holds if its buffers are arrays: the arena, and the arrays with the blocks that
they stand for (nothing if there was none, or if it was dropped). -/
structure ArrayHoldings where
  arena : Arena
  arrays : List (Option (Grant × Bytes))
deriving DecidableEq, Repr

namespace ArrayHoldings

open VolumeScan.Holdings

/-- The array of a buffer that is still held. -/
def held? (holdings : ArrayHoldings) (buffer : Nat) : Option (Grant × Bytes) :=
  (holdings.arrays[buffer]?).join

/-- Put bytes into the array of a buffer, if they fit. -/
def put (holdings : ArrayHoldings) (buffer start : Nat) (bytes : Bytes) : Answer × ArrayHoldings :=
  match holdings.held? buffer with
  | some (grant, own) =>
    if start + bytes.length ≤ own.length then
      (.done true,
        { holdings with
          arrays := holdings.arrays.set buffer (some (grant, Pool.overwrite own start bytes)) })
    else (.done false, holdings)
  | none => (.done false, holdings)

/-- Do one step. There are no raw blocks. -/
def step (holdings : ArrayHoldings) : Step → Answer × ArrayHoldings
  | .acquire size =>
    match holdings.arena.allocate size with
    | (some grant, arena) =>
      let zeros := List.replicate grant.size 0
      (.buffer grant zeros, ⟨arena, holdings.arrays ++ [some (grant, zeros)]⟩)
    | (none, arena) => (.failed (.outOfScratch size), ⟨arena, holdings.arrays ++ [none]⟩)
  | .drop buffer =>
    match holdings.held? buffer with
    | some (grant, _) =>
      (.done true, ⟨(holdings.arena.release grant).2, holdings.arrays.set buffer none⟩)
    | none => (.done false, holdings)
  | .store buffer start bytes => holdings.put buffer start bytes
  | .write buffer start value =>
    match holdings.held? buffer with
    | some (_, own) =>
      if start < own.length then
        holdings.put buffer start (List.replicate (own.length - start) value)
      else (.done false, holdings)
    | none => (.done false, holdings)
  | .read buffer =>
    match holdings.held? buffer with
    | some (_, own) => (.bytes own, holdings)
    | none => (.missing, holdings)
  | .allocate _ | .release _ => (.missing, holdings)

theorem held?_eq_some_iff {holdings : ArrayHoldings} {buffer : Nat} {block : Grant × Bytes} :
    holdings.held? buffer = some block ↔ holdings.arrays[buffer]? = some (some block) :=
  Option.join_eq_some_iff

/-- What is read from a buffer is its array. -/
theorem answer_read (holdings : ArrayHoldings) (buffer : Nat) :
    (holdings.step (.read buffer)).1
      = (holdings.held? buffer).elim .missing fun block => .bytes block.2 := by
  dsimp only [step]
  cases holdings.held? buffer <;> rfl

theorem held?_set_of_ne {holdings : ArrayHoldings} {buffer other : Nat} (h : other ≠ buffer)
    (arena : Arena) (array : Option (Grant × Bytes)) :
    held? ⟨arena, holdings.arrays.set other array⟩ buffer = holdings.held? buffer := by
  rw [held?, List.getElem?_set_ne h]
  rfl

theorem held?_put_of_ne {holdings : ArrayHoldings} {buffer other : Nat} (h : other ≠ buffer)
    (start : Nat) (bytes : Bytes) :
    (holdings.put other start bytes).2.held? buffer = holdings.held? buffer := by
  unfold put
  split
  · split
    · exact held?_set_of_ne h _ _
    · rfl
  · rfl

theorem held?_append {holdings : ArrayHoldings} {buffer : Nat}
    (h : (holdings.held? buffer).isSome) (arena : Arena) (array : Option (Grant × Bytes)) :
    held? ⟨arena, holdings.arrays ++ [array]⟩ buffer = holdings.held? buffer := by
  obtain ⟨block, hblock⟩ := Option.isSome_iff_exists.mp h
  obtain ⟨hlt, -⟩ := List.getElem?_eq_some_iff.mp (held?_eq_some_iff.mp hblock)
  rw [held?, List.getElem?_append_left hlt]
  rfl

/-- **A step changes no array but that of its own buffer.** -/
theorem held?_step_of_ne {holdings : ArrayHoldings} {step : Step} {buffer : Nat}
    (hother : step.subject? ≠ some buffer) (hheld : (holdings.held? buffer).isSome) :
    (holdings.step step).2.held? buffer = holdings.held? buffer := by
  cases step with
  | acquire size =>
    dsimp only [ArrayHoldings.step]
    split <;> exact held?_append hheld _ _
  | drop other =>
    have hne : other ≠ buffer := fun h => hother (congrArg some h)
    dsimp only [ArrayHoldings.step]
    split
    · exact held?_set_of_ne hne _ _
    · rfl
  | store other start bytes => exact held?_put_of_ne (fun h => hother (congrArg some h)) start bytes
  | write other start value =>
    have hne : other ≠ buffer := fun h => hother (congrArg some h)
    dsimp only [ArrayHoldings.step]
    split
    · split
      · exact held?_put_of_ne hne _ _
      · rfl
    · rfl
  | read other =>
    dsimp only [ArrayHoldings.step]
    split <;> rfl
  | allocate size => rfl
  | release block => rfl

end ArrayHoldings

/-! ## What is out, among what was asked for -/

section

variable {α : Type} {xs : List (Option α)} {place : Nat} {x : α}

/-- Nothing changes if a place is set to what stands there. -/
theorem set_of_getElem? {ys : List α} {y : α} (h : ys[place]? = some y) : ys.set place y = ys := by
  obtain ⟨hlt, rfl⟩ := List.getElem?_eq_some_iff.mp h
  exact List.set_getElem_self hlt

/-- What is still there comes before the rest, up to the order. -/
theorem perm_reduceOption (h : xs[place]? = some (some x)) :
    xs.reduceOption.Perm (x :: (xs.set place none).reduceOption) := by
  obtain ⟨hlt, -⟩ := List.getElem?_eq_some_iff.mp h
  have hall := (perm_cons_eraseIdx h).filterMap id
  have hrest := (List.set_perm_cons_eraseIdx hlt none).filterMap id
  exact hall.trans (hrest.symm.cons x)

theorem perm_reduceOption_set (hlt : place < xs.length) :
    (xs.set place (some x)).reduceOption.Perm (x :: (xs.set place none).reduceOption) := by
  have hset := perm_reduceOption (List.getElem?_set_self (a := some x) hlt)
  rwa [List.set_set] at hset

end

namespace Holdings

/-- The client with a region of bytes holds what the client with arrays holds. -/
structure Mirrors (holdings : Holdings) (separate : ArrayHoldings) : Prop where
  arena_eq : holdings.pool.arena = separate.arena
  buffers_eq : holdings.buffers = separate.arrays.map (·.map Prod.fst)
  shows : holdings.pool.Shows separate.arrays.reduceOption

namespace Mirrors

variable {holdings : Holdings} {separate : ArrayHoldings}

theorem held?_eq (h : holdings.Mirrors separate) (buffer : Nat) :
    holdings.held? buffer = (separate.held? buffer).map Prod.fst := by
  rw [held?, ArrayHoldings.held?, h.buffers_eq, List.getElem?_map]
  rcases separate.arrays[buffer]? with _ | _ | _ <;> rfl

/-- A buffer is asked for: what is new is appended to either side. -/
theorem acquire (h : holdings.Mirrors separate) (size : Nat) :
    (holdings.step (.acquire size)).1 = (separate.step (.acquire size)).1
      ∧ (holdings.step (.acquire size)).2.Mirrors (separate.step (.acquire size)).2 := by
  rcases holdings.pool.acquire_cases size with ⟨grant, arena, hgranted, hacquire⟩
    | ⟨hrefused, hacquire⟩
  · have hshows := h.shows.acquired hgranted
    rw [h.arena_eq] at hgranted
    dsimp only [step, ArrayHoldings.step]
    rw [hacquire, hgranted]
    dsimp only
    refine ⟨congrArg (Answer.buffer grant) (hshows.load_eq _ List.mem_cons_self), rfl, ?_, ?_⟩
    · rw [List.map_append, h.buffers_eq]
      rfl
    · rw [List.reduceOption_append, List.reduceOption_singleton]
      exact hshows.perm (List.perm_append_singleton _ _).symm
  · rw [h.arena_eq] at hrefused
    dsimp only [step, ArrayHoldings.step]
    rw [hacquire, hrefused]
    dsimp only
    refine ⟨rfl, h.arena_eq, ?_, ?_⟩
    · rw [List.map_append, h.buffers_eq]
      rfl
    · rw [List.reduceOption_append, List.reduceOption_singleton, Option.toList_none,
        List.append_nil]
      exact h.shows

theorem drop (h : holdings.Mirrors separate) (buffer : Nat) :
    (holdings.step (.drop buffer)).1 = (separate.step (.drop buffer)).1
      ∧ (holdings.step (.drop buffer)).2.Mirrors (separate.step (.drop buffer)).2 := by
  dsimp only [step, ArrayHoldings.step]
  rw [h.held?_eq]
  cases hheld : separate.held? buffer with
  | none => exact ⟨rfl, h⟩
  | some block =>
    have hperm := perm_reduceOption (ArrayHoldings.held?_eq_some_iff.mp hheld)
    refine ⟨rfl, ?_, ?_, ?_⟩
    · exact congrArg (fun arena => (arena.release block.1).2) h.arena_eq
    · rw [List.map_set, ← h.buffers_eq]
      rfl
    · exact (h.shows.perm hperm).released

/-- Bytes are put into a buffer: they change one array on either side. -/
theorem store (h : holdings.Mirrors separate) (buffer start : Nat) (bytes : Bytes) :
    (holdings.step (.store buffer start bytes)).1 = (separate.put buffer start bytes).1
      ∧ (holdings.step (.store buffer start bytes)).2.Mirrors
        (separate.put buffer start bytes).2 := by
  dsimp only [step, ArrayHoldings.put]
  rw [h.held?_eq]
  cases hheld : separate.held? buffer with
  | none => exact ⟨rfl, h⟩
  | some block =>
    obtain ⟨grant, own⟩ := block
    have hat := ArrayHoldings.held?_eq_some_iff.mp hheld
    have hshows := h.shows.perm (perm_reduceOption hat)
    have hlength : own.length = grant.size := hshows.length_eq List.mem_cons_self
    dsimp only [Option.map_some]
    rw [hlength]
    by_cases hfits : start + bytes.length ≤ grant.size
    · rw [if_pos hfits, if_pos hfits]
      have hlt := (List.getElem?_eq_some_iff.mp hat).1
      refine ⟨rfl, h.arena_eq, ?_, ?_⟩
      · rw [List.map_set, set_of_getElem? (by rw [List.getElem?_map, hat]; rfl)]
        exact h.buffers_eq
      · exact (hshows.stored hfits).perm (perm_reduceOption_set hlt).symm
    · rw [if_neg hfits, if_neg hfits]
      exact ⟨rfl, h⟩

/-- The bytes from a position to the end are set to one value. -/
theorem write (h : holdings.Mirrors separate) (buffer start : Nat) (value : UInt8) :
    (holdings.step (.write buffer start value)).1 = (separate.step (.write buffer start value)).1
      ∧ (holdings.step (.write buffer start value)).2.Mirrors
        (separate.step (.write buffer start value)).2 := by
  have hstore := h.store buffer start
  dsimp only [step, ArrayHoldings.step] at hstore ⊢
  rw [h.held?_eq] at hstore ⊢
  cases hheld : separate.held? buffer with
  | none => exact ⟨rfl, h⟩
  | some block =>
    obtain ⟨grant, own⟩ := block
    have hperm := perm_reduceOption (ArrayHoldings.held?_eq_some_iff.mp hheld)
    have hlength : own.length = grant.size := (h.shows.perm hperm).length_eq List.mem_cons_self
    dsimp only [Option.map_some]
    rw [hlength]
    by_cases hstart : start < grant.size
    · -- It is a store of as many bytes as there are up to the end.
      have hfits : start + (List.replicate (grant.size - start) value).length ≤ grant.size := by
        rw [List.length_replicate]
        omega
      have hfilled := hstore (List.replicate (grant.size - start) value)
      rw [hheld, Option.map_some] at hfilled
      dsimp only at hfilled
      rw [if_pos hfits] at hfilled
      rw [if_pos hstart, if_pos hstart]
      exact hfilled
    · rw [if_neg hstart, if_neg hstart]
      exact ⟨rfl, h⟩

theorem read (h : holdings.Mirrors separate) (buffer : Nat) :
    (holdings.step (.read buffer)).1 = (separate.step (.read buffer)).1
      ∧ (holdings.step (.read buffer)).2.Mirrors (separate.step (.read buffer)).2 := by
  dsimp only [step, ArrayHoldings.step]
  rw [h.held?_eq]
  cases hheld : separate.held? buffer with
  | none => exact ⟨rfl, h⟩
  | some block =>
    have hperm := perm_reduceOption (ArrayHoldings.held?_eq_some_iff.mp hheld)
    exact ⟨congrArg Answer.bytes ((h.shows.perm hperm).load_eq _ List.mem_cons_self), h⟩

/-- **Every step on buffers** is answered alike, and keeps the two clients alike. -/
theorem step (h : holdings.Mirrors separate) {step : Step} (hbuffers : step.onBuffers = true) :
    (holdings.step step).1 = (separate.step step).1
      ∧ (holdings.step step).2.Mirrors (separate.step step).2 := by
  cases step with
  | acquire size => exact h.acquire size
  | drop buffer => exact h.drop buffer
  | store buffer start bytes => exact h.store buffer start bytes
  | write buffer start value => exact h.write buffer start value
  | read buffer => exact h.read buffer
  | allocate size => cases hbuffers
  | release block => cases hbuffers

/-- So is every sequence of steps. -/
theorem run (h : holdings.Mirrors separate) {steps : List Step}
    (hbuffers : ∀ step ∈ steps, step.onBuffers = true) :
    (Holdings.run Holdings.step holdings steps).1
        = (Holdings.run ArrayHoldings.step separate steps).1
      ∧ (Holdings.run Holdings.step holdings steps).2.Mirrors
        (Holdings.run ArrayHoldings.step separate steps).2 := by
  induction steps generalizing holdings separate with
  | nil => exact ⟨rfl, h⟩
  | cons step rest ih =>
    obtain ⟨hstep, hrest⟩ := List.forall_mem_cons.mp hbuffers
    obtain ⟨hanswer, hafter⟩ := h.step hstep
    obtain ⟨hanswers, hend⟩ := ih hafter hrest
    exact ⟨congrArg₂ List.cons hanswer hanswers, hend⟩

end Mirrors

/-- A client that holds nothing, over any bytes. -/
theorem mirrors_ofPool (misalignment len : Nat)
    (memory : Block (Arena.ofRegion misalignment len).size) :
    (ofPool ⟨Arena.ofRegion misalignment len, memory.val⟩).Mirrors
      ⟨Arena.ofRegion misalignment len, []⟩ where
  arena_eq := rfl
  buffers_eq := rfl
  shows := ⟨Arena.backs_ofRegion misalignment len, memory.property, nofun⟩

/-- **Buffers on an arena are arrays of their own.** Take any region with any bytes in it, and any
sequence of steps in which buffers are acquired, dropped, written and read, in any order. A client
whose buffers are blocks of this region is told the same, step by step, as one whose buffers are
arrays of the granted length, all zero at the start and changed only by writes to them. And no step
changes what is read from another buffer that is held. -/
theorem buffers_are_arrays (misalignment len : Nat)
    (memory : Block (Arena.ofRegion misalignment len).size) (steps : List Step)
    (hbuffers : ∀ step ∈ steps, step.onBuffers = true) :
    let client := run Holdings.step (ofPool ⟨Arena.ofRegion misalignment len, memory.val⟩) steps
    let separate := run ArrayHoldings.step ⟨Arena.ofRegion misalignment len, []⟩ steps
    client.1 = separate.1
      ∧ ∀ (step : Step) (buffer : Nat), step.onBuffers = true → step.subject? ≠ some buffer →
        (client.2.held? buffer).isSome →
          ((client.2.step step).2.step (.read buffer)).1 = (client.2.step (.read buffer)).1 := by
  intro client separate
  obtain ⟨hanswers, hmirrors⟩ := (mirrors_ofPool misalignment len memory).run hbuffers
  refine ⟨hanswers, fun step buffer hstep hother hheld => ?_⟩
  have hseparate : (separate.2.held? buffer).isSome := by
    rwa [hmirrors.held?_eq, Option.isSome_map] at hheld
  obtain ⟨-, hafter⟩ := hmirrors.step hstep
  rw [(hafter.read buffer).1, (hmirrors.read buffer).1, ArrayHoldings.answer_read,
    ArrayHoldings.answer_read, ArrayHoldings.held?_step_of_ne hother hseparate]

/-- Two buffers, of which the second is written and dropped. The third one is the same block of the
region, but holds zeros, and what was put into the first one is still there. -/
theorem reused_block_holds_zeros :
    let memory : Block (Arena.ofRegion 3 100).size := ⟨List.replicate 87 0xA5, rfl⟩
    let steps := [.acquire 4, .acquire 9, .store 0 1 [7, 8], .write 1 0 9, .drop 1, .acquire 2,
      .read 0, .read 2]
    (∀ step ∈ steps, step.onBuffers = true)
      ∧ (run Holdings.step (ofPool ⟨Arena.ofRegion 3 100, memory.val⟩) steps).1
        = [.buffer ⟨0, 16⟩ (List.replicate 16 0), .buffer ⟨16, 16⟩ (List.replicate 16 0),
          .done true, .done true, .done true, .buffer ⟨16, 16⟩ (List.replicate 16 0),
          .bytes ([0, 7, 8] ++ List.replicate 13 0), .bytes (List.replicate 16 0)] := by
  intro memory steps
  have hbuffers : ∀ step ∈ steps, step.onBuffers = true := by decide
  obtain ⟨hanswers, -⟩ := buffers_are_arrays 3 100 memory steps hbuffers
  exact ⟨hbuffers, hanswers.trans (by decide)⟩

end Holdings

end VolumeScan
