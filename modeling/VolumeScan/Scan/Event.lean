/-
VolumeScan.Scan.Event — what a scan does to the world, step by step.

A scan asks for reads and for scratch memory, gives scratch memory back, and writes to the log. The
events of an operation are listed in the order in which they happen; the functions here pick out the
events of one kind, and `heldAfter` follows which blocks are still out.
-/
import VolumeScan.Scan.Record
import VolumeScan.Scratch.Allocator

namespace VolumeScan

/-- A step that the environment of a scan can see. -/
inductive Event where
  /-- A read through a volume was asked for, and gave its bytes or failed. -/
  | read (volume : Volume) (pos len : Nat) (data : Option Bytes)
  /-- A block was asked for, and granted or refused. -/
  | allocate (size : Nat) (grant : Option Grant)
  /-- A block was given back. -/
  | release (grant : Grant)
  /-- A record was written to the log. -/
  | log (record : Record)
deriving DecidableEq, Repr

namespace Event

/-- The reads that were asked for, whether they succeeded or not. -/
def reads (events : List Event) : List (Volume × Nat × Nat) :=
  events.filterMap fun
    | .read volume pos len _ => some (volume, pos, len)
    | _ => none

/-- The log records among the events. -/
def records (events : List Event) : List Record :=
  events.filterMap fun
    | .log record => some record
    | _ => none

/-- The requests for scratch memory and its releases, without the other events. -/
def scratch (events : List Event) : List Event :=
  events.filter fun
    | .allocate _ _ | .release _ => true
    | _ => false

/-- The blocks that are out after the events, the newest first, if `held` were out before. -/
def heldAfter (held : List Grant) (events : List Event) : List Grant :=
  events.foldl (fun held event =>
    match event with
    | .allocate _ (some grant) => grant :: held
    | .release grant => held.erase grant
    | _ => held) held

end Event

end VolumeScan
