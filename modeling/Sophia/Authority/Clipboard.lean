import Sophia.Authority.Selection
import Sophia.Portal.Transfers

/-! Selection requests: answered inside a namespace or turned into portal requests. -/
namespace Sophia.Authority

open Std Sophia.Protocol Sophia.Portal

structure XSelectionRequest where
  requestor : XResourceId
  selection : UInt32
  target : UInt32
  targetName : String
  property : UInt32
  time : UInt32
  deriving DecidableEq, Repr

structure ClipboardSelectionFailureRequest where
  transfer : PortalTransferId
  requestor : XResourceId
  selection : UInt32
  target : UInt32
  time : UInt32
  deriving DecidableEq, Repr

structure ClipboardSelectionNotify where
  time : UInt32
  requestor : XResourceId
  selection : UInt32
  target : UInt32
  property : UInt32
  deriving DecidableEq, Repr

structure ClipboardSelectionFailure where
  transfer : PortalTransferId
  notify : ClipboardSelectionNotify
  deriving DecidableEq, Repr

/-- The notify that tells the requestor the conversion failed. -/
def ClipboardSelectionFailureRequest.refusal (request : ClipboardSelectionFailureRequest) :
    ClipboardSelectionNotify where
  time := request.time
  requestor := request.requestor
  selection := request.selection
  target := request.target
  property := 0

def clipboardSelectionFailureNotify (request : ClipboardSelectionFailureRequest) :
    ClipboardSelectionFailure :=
  ⟨request.transfer, request.refusal⟩

structure ClipboardSelectionPortalRequest where
  request : ClipboardTransferRequest
  failure : ClipboardSelectionFailureRequest
  property : UInt32
  deriving DecidableEq, Repr

inductive ClipboardSelectionRequestError where
  | unknownRequestorNamespace
  | unknownSourceOwner
  | missingSourceNamespace
  | sameNamespace
  | portal (error : PortalError)
  deriving DecidableEq, Repr

structure ClipboardSelectionOwnerRequest where
  owner : XResourceId
  requestor : XResourceId
  selection : UInt32
  target : UInt32
  property : UInt32
  time : UInt32
  deriving DecidableEq, Repr

inductive ClipboardSelectionDispatch where
  | sameNamespace (request : ClipboardSelectionOwnerRequest)
  | crossNamespace (portalRequest : ClipboardSelectionPortalRequest) (command : PortalCommand)
  deriving DecidableEq, Repr

def XSelectionRequest.toOwner (request : XSelectionRequest) (owner : XResourceId) :
    ClipboardSelectionOwnerRequest where
  owner := owner
  requestor := request.requestor
  selection := request.selection
  target := request.target
  property := request.property
  time := request.time

def clipboardPortalRequestFromSelectionRequest (request : XSelectionRequest)
    (monitor : XSelectionMonitor) (windows : XWindowTable) (transfer : PortalTransferId) :
    Except ClipboardSelectionRequestError ClipboardSelectionPortalRequest :=
  match windows.get request.requestor with
  | none => .error .unknownRequestorNamespace
  | some requestor => match monitor.currentOwnerForSelection request.selection with
    | none => .error .unknownSourceOwner
    | some sourceOwner => match sourceOwner.namespaceId with
      | none => .error .missingSourceNamespace
      | some sourceNamespace =>
        if sourceNamespace = requestor.namespaceId then .error .sameNamespace
        else .ok
          { request :=
              { transfer, sourceNamespace, targetNamespace := requestor.namespaceId,
                target := .atom request.targetName, byteSize := 0,
                generation := sourceOwner.generation }
            failure :=
              { transfer, requestor := request.requestor, selection := request.selection,
                target := request.target, time := request.time }
            property := request.property }

/-- The cross-namespace branch: the portal is asked before anything is answered. -/
def askPortal (request : XSelectionRequest) (monitor : XSelectionMonitor) (windows : XWindowTable)
    (transfer : PortalTransferId) (portal : ClipboardPortal) :
    Except ClipboardSelectionRequestError (ClipboardSelectionDispatch × ClipboardPortal) := do
  let portalRequest ← clipboardPortalRequestFromSelectionRequest request monitor windows transfer
  let answer ← (portal.requestImport portalRequest.request).mapError .portal
  return (.crossNamespace portalRequest answer.1, answer.2)

def dispatchClipboardSelectionRequest (request : XSelectionRequest) (monitor : XSelectionMonitor)
    (windows : XWindowTable) (transfer : PortalTransferId) (portal : ClipboardPortal) :
    Except ClipboardSelectionRequestError (ClipboardSelectionDispatch × ClipboardPortal) :=
  match windows.get request.requestor with
  | none => .error .unknownRequestorNamespace
  | some requestor => match monitor.currentOwnerForSelection request.selection with
    | none => .error .unknownSourceOwner
    | some sourceOwner => match sourceOwner.namespaceId with
      | none => .error .missingSourceNamespace
      | some sourceNamespace =>
        if sourceNamespace = requestor.namespaceId then match sourceOwner.owner with
          | none => .error .unknownSourceOwner
          | some owner => .ok (.sameNamespace (request.toOwner owner), portal)
        else askPortal request monitor windows transfer portal

inductive XByteOrder where
  | littleEndian
  | bigEndian
  deriving DecidableEq, Repr

structure PendingClipboardSelection where
  namespaceId : NamespaceId
  portalRequest : ClipboardSelectionPortalRequest
  byteOrder : XByteOrder
  deriving DecidableEq, Repr

structure ClipboardSelectionProxy where
  transfer : PortalTransferId
  namespaceId : NamespaceId
  owner : XResourceId
  requestor : XResourceId
  selection : UInt32
  target : UInt32
  property : UInt32
  time : UInt32
  deriving DecidableEq, Repr

structure ClipboardSourcePayload where
  transfer : PortalTransferId
  bytes : List UInt8
  deriving DecidableEq, Repr

inductive ClipboardSelectionExecutionError where
  | unknownTransfer
  | denied
  | expired
  | disconnected
  | executorFailure
  | staleOwnerGeneration
  | unsupportedTarget
  | invalidUtf8
  | missingProperty
  | payloadTooLarge
  | property
  deriving DecidableEq, Repr

structure ClipboardTextProperty where
  requestor : XResourceId
  property : UInt32
  target : UInt32
  bytes : List UInt8
  deriving DecidableEq, Repr

structure ClipboardSelectionHandoff where
  transfer : PortalTransferId
  property : ClipboardTextProperty
  notify : ClipboardSelectionNotify
  deriving DecidableEq, Repr

inductive ClipboardSelectionExecutionOutcome where
  | handoff (handoff : ClipboardSelectionHandoff)
  | failed (error : ClipboardSelectionExecutionError) (notify : ClipboardSelectionNotify)
  deriving DecidableEq, Repr

def maxClipboardTextHandoffBytes : ℕ := 64 * 1024

end Sophia.Authority
