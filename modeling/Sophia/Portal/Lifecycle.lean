import Sophia.Lib.Fallible
import Sophia.Lib.Ordered
import Sophia.Lib.Run
import Sophia.Protocol.Portal

/-! The broker's table of portal requests and the grants it gives for them. -/
namespace Sophia.Portal

open Std Sophia.Protocol

def portalActiveTransferCapacity : ℕ := 64

inductive PortalPolicyDecision where
  | allow
  | deny
  deriving DecidableEq, Repr

inductive PortalLifecycleError where
  | invalidRequest
  | deadlineElapsed
  | capacityExceeded
  | duplicateTransfer
  | unknownTransfer
  | notPending
  | grantNotActive
  | staleSourceGeneration
  | invalidBrokerGeneration
  deriving DecidableEq, Repr

structure PortalRequestGrantLifecycle where
  brokerGeneration : UInt64
  capacity : ℕ
  requests : ExtTreeMap PortalTransferId PortalRequest
  grants : ExtTreeMap PortalTransferId PortalGrant

def validRequest (request : PortalRequest) : Bool :=
  request.transfer.transfer.isValid ∧ request.transfer.sourceNamespace.isValid ∧
    request.transfer.targetNamespace.isValid ∧
    request.transfer.sourceNamespace ≠ request.transfer.targetNamespace ∧
    request.transfer.decision = .pending ∧ request.transfer.generation ≠ 0 ∧
    request.deadlineMsec ≠ 0

/-- The request with its decision recorded. -/
def decideRequest (request : PortalRequest) (decision : PortalDecision) : PortalRequest :=
  { request with transfer := { request.transfer with decision } }

namespace PortalRequestGrantLifecycle

def withCapacity (brokerGeneration : UInt64) (capacity : ℕ) :
    Except PortalLifecycleError PortalRequestGrantLifecycle :=
  if brokerGeneration = 0 ∨ capacity = 0 then .error .invalidBrokerGeneration
  else .ok { brokerGeneration, capacity, requests := ∅, grants := ∅ }

def new (brokerGeneration : UInt64) : Except PortalLifecycleError PortalRequestGrantLifecycle :=
  withCapacity brokerGeneration portalActiveTransferCapacity

def isPending (request : PortalRequest) : Bool := request.transfer.decision = .pending

def isActive (grant : PortalGrant) : Bool := grant.state = .active

def pendingOrActiveCount (lifecycle : PortalRequestGrantLifecycle) : ℕ :=
  (Ordered.values lifecycle.requests).countP isPending +
    (Ordered.values lifecycle.grants).countP isActive

def submit (lifecycle : PortalRequestGrantLifecycle) (request : PortalRequest) (nowMsec : UInt64) :
    Except PortalLifecycleError PortalRequestGrantLifecycle :=
  if !validRequest request then .error .invalidRequest
  else if request.deadlineMsec ≤ nowMsec then .error .deadlineElapsed
  else if request.transfer.transfer ∈ lifecycle.requests then .error .duplicateTransfer
  else if lifecycle.capacity ≤ lifecycle.pendingOrActiveCount then .error .capacityExceeded
  else .ok
    { lifecycle with requests := lifecycle.requests.insert request.transfer.transfer request }

/-- Replace a request that is in the table. -/
def setRequest (lifecycle : PortalRequestGrantLifecycle) (transfer : PortalTransferId)
    (request : PortalRequest) : PortalRequestGrantLifecycle :=
  { lifecycle with requests := lifecycle.requests.insert transfer request }

def setGrant (lifecycle : PortalRequestGrantLifecycle) (transfer : PortalTransferId)
    (grant : PortalGrant) : PortalRequestGrantLifecycle :=
  { lifecycle with grants := lifecycle.grants.insert transfer grant }

/-- The grant an allowed request is given. -/
def grantFor (lifecycle : PortalRequestGrantLifecycle) (transfer : PortalTransferId)
    (request : PortalRequest) (sourceGeneration : UInt64) : PortalGrant where
  transfer := transfer
  sourceNamespace := request.transfer.sourceNamespace
  targetNamespace := request.transfer.targetNamespace
  kind := request.transfer.kind
  sourceGeneration := sourceGeneration
  brokerGeneration := lifecycle.brokerGeneration
  deadlineMsec := request.deadlineMsec
  state := .active

-- An elapsed deadline or a stale generation revokes the request and is reported as an error.
def decide (lifecycle : PortalRequestGrantLifecycle) (transfer : PortalTransferId)
    (decision : PortalPolicyDecision) (sourceGeneration nowMsec : UInt64) :
    Except PortalLifecycleError (Option PortalGrant) × PortalRequestGrantLifecycle :=
  match lifecycle.requests[transfer]? with
  | none => (.error .unknownTransfer, lifecycle)
  | some request =>
    if request.transfer.decision ≠ .pending then (.error .notPending, lifecycle)
    else if request.deadlineMsec ≤ nowMsec then
      (.error .deadlineElapsed, lifecycle.setRequest transfer (decideRequest request .revoked))
    else if request.transfer.generation ≠ sourceGeneration then
      (.error .staleSourceGeneration,
        lifecycle.setRequest transfer (decideRequest request .revoked))
    else match decision with
      | .deny => (.ok none, lifecycle.setRequest transfer (decideRequest request .denied))
      | .allow =>
        let grant := lifecycle.grantFor transfer request sourceGeneration
        (.ok (some grant),
          (lifecycle.setRequest transfer (decideRequest request .allowed)).setGrant transfer grant)

def activeGrant (lifecycle : PortalRequestGrantLifecycle) (transfer : PortalTransferId) :
    Except PortalLifecycleError PortalGrant :=
  match lifecycle.grants[transfer]? with
  | none => .error .unknownTransfer
  | some grant => if grant.state ≠ .active then .error .grantNotActive else .ok grant

/-- End an active grant in the given state. -/
def closeGrant (state : PortalGrantState) (lifecycle : PortalRequestGrantLifecycle)
    (transfer : PortalTransferId) : Except PortalLifecycleError PortalRequestGrantLifecycle := do
  let grant ← lifecycle.activeGrant transfer
  return lifecycle.setGrant transfer { grant with state }

def complete := closeGrant .completed
def executorFailed := closeGrant .revoked

/-- Whether the entry is among those to close and still open. -/
def closes (lifecycle : PortalRequestGrantLifecycle) (matching : PortalRequest → Bool)
    (transfer : PortalTransferId) (request : PortalRequest) : Bool :=
  matching request && match lifecycle.grants[transfer]? with
    | some grant => isActive grant
    | none => isPending request

def sweptRequest (lifecycle : PortalRequestGrantLifecycle) (matching : PortalRequest → Bool)
    (transfer : PortalTransferId) (request : PortalRequest) : PortalRequest :=
  if lifecycle.closes matching transfer request ∧ transfer ∉ lifecycle.grants then
    decideRequest request .revoked
  else request

def sweptGrant (state : PortalGrantState) (lifecycle : PortalRequestGrantLifecycle)
    (matching : PortalRequest → Bool) (transfer : PortalTransferId) (grant : PortalGrant) :
    PortalGrant :=
  match lifecycle.requests[transfer]? with
  | some request => if lifecycle.closes matching transfer request then { grant with state } else grant
  | none => grant

-- One pass over the requests; each round touches the request and the grant of its own transfer.
def closeWhere (state : PortalGrantState) (lifecycle : PortalRequestGrantLifecycle)
    (matching : PortalRequest → Bool) : List PortalTransferId × PortalRequestGrantLifecycle :=
  ((lifecycle.requests.toList.filter fun entry =>
      lifecycle.closes matching entry.1 entry.2).map Prod.fst,
    { lifecycle with
      requests := lifecycle.requests.map (lifecycle.sweptRequest matching)
      grants := lifecycle.grants.map (sweptGrant state lifecycle matching) })

def revokeWhere := closeWhere .revoked

def expire (lifecycle : PortalRequestGrantLifecycle) (nowMsec : UInt64) :
    List PortalTransferId × PortalRequestGrantLifecycle :=
  closeWhere .expired lifecycle fun request => request.deadlineMsec ≤ nowMsec

def ownerChanged (sourceNamespace : NamespaceId) (generation : UInt64) (request : PortalRequest) :
    Bool :=
  request.transfer.sourceNamespace = sourceNamespace ∧ request.transfer.generation ≠ generation

def sourceOwnerChanged (lifecycle : PortalRequestGrantLifecycle) (sourceNamespace : NamespaceId)
    (generation : UInt64) : List PortalTransferId × PortalRequestGrantLifecycle :=
  lifecycle.revokeWhere (ownerChanged sourceNamespace generation)

def disconnects (ns : NamespaceId) (request : PortalRequest) : Bool :=
  request.transfer.sourceNamespace = ns ∨ request.transfer.targetNamespace = ns

def namespaceDisconnected (lifecycle : PortalRequestGrantLifecycle) (ns : NamespaceId) :
    List PortalTransferId × PortalRequestGrantLifecycle :=
  lifecycle.revokeWhere (disconnects ns)

def brokerRestarted (lifecycle : PortalRequestGrantLifecycle) (brokerGeneration : UInt64) :
    Except PortalLifecycleError (List PortalTransferId × PortalRequestGrantLifecycle) :=
  if brokerGeneration ≤ lifecycle.brokerGeneration then .error .invalidBrokerGeneration
  else
    let revoked := lifecycle.revokeWhere fun _ => true
    .ok (revoked.1, { revoked.2 with brokerGeneration })

end PortalRequestGrantLifecycle
end Sophia.Portal
