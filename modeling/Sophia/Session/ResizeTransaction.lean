import Mathlib.Data.UInt
import Sophia.Protocol

/-! Committed authority sizes, and the fence that follows a resize that timed out. -/
namespace Sophia.Session

open Std Sophia.Protocol

structure ResizeRollbackRequest where
  transaction : TransactionId
  surface : SurfaceId
  size : Size
  deriving DecidableEq, Repr

structure ResizeRollbackCoordinator where
  committedSizes : ExtTreeMap SurfaceId Size := ∅
  rollbackSizes : ExtTreeMap SurfaceId Size := ∅
  rejectedSizes : ExtTreeMap SurfaceId Size := ∅
  nextTransaction : UInt64 := 2 ^ 63

inductive RollbackError where
  | noCommittedSize
  | transactionIdsExhausted
  deriving DecidableEq, Repr

namespace ResizeRollbackCoordinator

def committedSize (resize : ResizeRollbackCoordinator) (surface : SurfaceId) : Option Size :=
  resize.committedSizes[surface]?

def recordCommitted (resize : ResizeRollbackCoordinator) (surface : SurfaceId) (size : Size) :
    ResizeRollbackCoordinator :=
  { resize with
    committedSizes := resize.committedSizes.insert surface size
    rejectedSizes :=
      if resize.rejectedSizes[surface]? = some size then resize.rejectedSizes.erase surface
      else resize.rejectedSizes }

def requestAllowed (resize : ResizeRollbackCoordinator) (surface : SurfaceId) (size : Size) :
    Bool :=
  resize.rejectedSizes[surface]? ≠ some size

def acceptObservation (resize : ResizeRollbackCoordinator) (surface : SurfaceId) (size : Size) :
    Bool × ResizeRollbackCoordinator :=
  match resize.rollbackSizes[surface]? with
  | none => (true, resize)
  | some expected =>
    if size ≠ expected then (false, resize)
    else (true, { resize with
      rollbackSizes := resize.rollbackSizes.erase surface
      rejectedSizes := resize.rejectedSizes.erase surface })

/-- Every request is recorded as rejected; the first surface without a committed size ends it. -/
def rejectSizes (resize : ResizeRollbackCoordinator) :
    List (SurfaceId × Size) →
      Except RollbackError (List (SurfaceId × Size)) × ResizeRollbackCoordinator
  | [] => (.ok [], resize)
  | (surface, rejected) :: rest =>
    let resize := { resize with rejectedSizes := resize.rejectedSizes.insert surface rejected }
    match resize.committedSize surface with
    | none => (.error .noCommittedSize, resize)
    | some size => match resize.rejectSizes rest with
      | (.ok sizes, resize) => (.ok ((surface, size) :: sizes), resize)
      | (.error error, resize) => (.error error, resize)

def beginRollback (resize : ResizeRollbackCoordinator) (requests : List (SurfaceId × Size)) :
    Except RollbackError (List ResizeRollbackRequest) × ResizeRollbackCoordinator :=
  match resize.rejectSizes requests with
  | (.error error, resize) => (.error error, resize)
  | (.ok sizes, resize) =>
    if resize.nextTransaction.toNat + 1 = UInt64.size then (.error .transactionIdsExhausted, resize)
    else
      let transaction := .fromRaw resize.nextTransaction
      (.ok (sizes.map fun (surface, size) => { transaction, surface, size }),
        { resize with
          nextTransaction := resize.nextTransaction + 1
          rollbackSizes := resize.rollbackSizes.insertMany sizes })

def remove (resize : ResizeRollbackCoordinator) (surface : SurfaceId) :
    ResizeRollbackCoordinator :=
  { resize with
    committedSizes := resize.committedSizes.erase surface
    rollbackSizes := resize.rollbackSizes.erase surface
    rejectedSizes := resize.rejectedSizes.erase surface }

def rollbackPending (resize : ResizeRollbackCoordinator) (surface : SurfaceId) : Bool :=
  (resize.rollbackSizes[surface]?).isSome

end ResizeRollbackCoordinator
end Sophia.Session
