/-
VolumeScan.Scratch.Allocator — where scratch memory comes from.

An allocator hands out blocks (`Grant`) and takes them back; how its state changes is its own
affair, so it is a record of functions on any type of states. It may refuse, round up, grant less
than was asked for, and refuse to take a block back. Two variations of an allocator are given here:
one that serves a limited number of attempts, and one that never admits to having taken a block
back. `Allocator.acquire` is the request for a buffer: a block that is at least as large as asked
for and holds zeros only.
-/
import VolumeScan.Bytes

namespace VolumeScan

/-- A block of scratch memory: where it starts, and its size in bytes. -/
structure Grant where
  start : Nat
  size : Nat
deriving DecidableEq, Repr

/-- A source of scratch memory with states of type `σ`. -/
structure Allocator (σ : Type) where
  /-- Ask for a block of at least so many bytes. -/
  allocate : σ → Nat → Option Grant × σ
  /-- Give a block back. The flag says whether the allocator accepts it. -/
  release : σ → Grant → Bool × σ
  /-- Put a zero into every byte of a block. -/
  clear : σ → Grant → σ
  /-- Put bytes into a block, from a position inside the block on. -/
  store : σ → Grant → Nat → Bytes → σ

namespace Allocator

/-- Pass only the first `attempts` requests on and refuse the others. A request counts even if it is
then refused; without a bound all are passed on. -/
def limited {σ : Type} (attempts : Option Nat) (allocator : Allocator σ) : Allocator (σ × Nat) where
  allocate := fun (state, made) size =>
    if attempts.all (made < ·) then
      let (grant, state) := allocator.allocate state size
      (grant, (state, made + 1))
    else (none, (state, made + 1))
  release := fun (state, made) grant =>
    let (accepted, state) := allocator.release state grant
    (accepted, (state, made))
  clear := fun (state, made) grant => (allocator.clear state grant, made)
  store := fun (state, made) grant start bytes => (allocator.store state grant start bytes, made)

/-- Take blocks back without ever admitting to it. -/
def unadmitting {σ : Type} (allocator : Allocator σ) : Allocator σ :=
  { allocator with release := fun state grant => (false, (allocator.release state grant).2) }

end Allocator

/-- How a request for a buffer ends. -/
inductive Acquisition where
  /-- No block was granted. -/
  | refused
  /-- The block was smaller than the request and has been given back. -/
  | short (grant : Grant)
  /-- The block is large enough and holds zeros only. -/
  | whole (grant : Grant)
deriving DecidableEq, Repr

/-- Ask for a buffer of at least `size` bytes. Whether the allocator accepts a block that is too
small back makes no difference. -/
def Allocator.acquire {σ : Type} (allocator : Allocator σ) (state : σ) (size : Nat) :
    Acquisition × σ :=
  match allocator.allocate state size with
  | (none, state) => (.refused, state)
  | (some grant, state) =>
    if grant.size < size then (.short grant, (allocator.release state grant).2)
    else (.whole grant, allocator.clear state grant)

end VolumeScan
