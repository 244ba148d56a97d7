/-
VolumeScan.Scratch.Heap — scratch memory from a heap that never runs out, but limits each request.

A request is rounded up to whole granules and refused above a limit; the block granted may be
smaller than the rounded request by a fixed number of bytes. Each block gets addresses of its own,
which are never used again.
-/
import VolumeScan.Scratch.Allocator

namespace VolumeScan

/-- How a heap answers a request. -/
structure Heap where
  granule : Nat
  limit : Nat
  shortfall : Nat
deriving DecidableEq, Repr

namespace Heap

/-- A request in whole granules. -/
def rounded (heap : Heap) (size : Nat) : Nat :=
  (size + (heap.granule - 1)) / heap.granule * heap.granule

/-- The heap as a source of scratch memory. Its state is the first address not given out yet. -/
def allocator (heap : Heap) : Allocator Nat where
  allocate := fun next size =>
    if heap.rounded size ≤ heap.limit then
      let granted := heap.rounded size - heap.shortfall
      (some ⟨next, granted⟩, next + granted)
    else (none, next)
  release := fun next _ => (true, next)
  clear := fun next _ => next
  store := fun next _ _ _ => next

end Heap

end VolumeScan
