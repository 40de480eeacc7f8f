import Sophia.Authority.Resources

/-! Clients of the routed X frontend, their queues and their surfaces. -/
namespace Sophia.Frontend

open Std Sophia.Protocol Sophia.Authority

structure XServerFrontendClientId where
  raw : UInt64
  deriving DecidableEq, Repr

namespace XServerFrontendClientId

instance : Ord XServerFrontendClientId := ⟨compareOn raw⟩

instance : TransOrd XServerFrontendClientId :=
  inferInstanceAs (TransCmp (compareOn XServerFrontendClientId.raw))

instance : LawfulEqOrd XServerFrontendClientId where
  eq_of_compare {a b} h := by
    cases a
    cases b
    exact congrArg _ (LawfulEqOrd.eq_of_compare h)

end XServerFrontendClientId

structure XServerFrontendSurfaceRoute where
  client : XServerFrontendClientId
  namespaceId : NamespaceId
  window : XResourceId
  deriving DecidableEq, Repr

inductive XServerFrontendRouteError where
  | unknownClient (client : XServerFrontendClientId)
  | unknownSurface (surface : SurfaceId)
  | clientQueueFull (client : XServerFrontendClientId)
  | duplicatePresentation (transaction : TransactionId)
  | clientQueueDisconnected (client : XServerFrontendClientId)
  | duplicateClient (client : XServerFrontendClientId)
  | inputDeliveryQueueFull
  deriving DecidableEq, Repr

/-- One bounded queue into a client's worker, and whether the worker still listens. -/
structure RouteQueue (α : Type*) where
  items : List α
  listening : Bool
  deriving DecidableEq, Repr

inductive TrySend where
  | sent
  | full
  | disconnected
  deriving DecidableEq, Repr

namespace RouteQueue

variable {α : Type*}

def empty : RouteQueue α := ⟨[], true⟩

/-- A closed queue says so even when it is full. -/
def trySend (capacity : ℕ) (queue : RouteQueue α) (value : α) : TrySend × RouteQueue α :=
  if !queue.listening then (.disconnected, queue)
  else if queue.items.length < capacity then
    (.sent, { queue with items := queue.items ++ [value] })
  else (.full, queue)

/-- The worker takes values off the front. -/
def receive (queue : RouteQueue α) (n : ℕ) : RouteQueue α :=
  { queue with items := queue.items.drop n }

def hangUp (queue : RouteQueue α) : RouteQueue α := { queue with listening := false }

end RouteQueue
end Sophia.Frontend
