import Sophia.Protocol

/-! Packets exchanged with the portal broker. -/
namespace Sophia.Protocol

inductive PortalTransferKind where
  | clipboard
  | dragAndDrop
  | fileHandoff
  | screenCapture
  | screenRecording
  | uriOpen
  | notification
  deriving DecidableEq, Repr

inductive PortalDecision where
  | pending
  | allowed
  | denied
  | revoked
  deriving DecidableEq, Repr

structure PortalTransfer where
  transfer : PortalTransferId
  sourceNamespace : NamespaceId
  targetNamespace : NamespaceId
  kind : PortalTransferKind
  mimeType : Option String
  byteSize : UInt64
  decision : PortalDecision
  generation : UInt64
  deriving DecidableEq, Repr

/-- A deadline-bound request presented to policy without its payload. -/
structure PortalRequest where
  transfer : PortalTransfer
  deadlineMsec : UInt64
  deriving DecidableEq, Repr

inductive PortalGrantState where
  | active
  | completed
  | revoked
  | expired
  deriving DecidableEq, Repr

/-- The separately tracked authority created by an allowed request. -/
structure PortalGrant where
  transfer : PortalTransferId
  sourceNamespace : NamespaceId
  targetNamespace : NamespaceId
  kind : PortalTransferKind
  sourceGeneration : UInt64
  brokerGeneration : UInt64
  deadlineMsec : UInt64
  state : PortalGrantState
  deriving DecidableEq, Repr

structure PortalBrokerRequestPacket where
  request : PortalRequest
  sourceMayPublish : Bool
  targetMayRequest : Bool
  deriving DecidableEq, Repr

inductive PortalBrokerResponseDecision where
  | allowed (grant : PortalGrant)
  | denied
  deriving DecidableEq, Repr

structure PortalBrokerResponsePacket where
  transfer : PortalTransferId
  decision : PortalBrokerResponseDecision
  deriving DecidableEq, Repr

def portalMaxMimeTypeLen : ℕ := 255

inductive BrokerKind where
  | portal
  | metadata
  deriving DecidableEq, Repr

inductive BrokerHealthState where
  | starting
  | ready
  | degraded
  | stopped
  deriving DecidableEq, Repr

structure BrokerHealthPacket where
  broker : BrokerKind
  state : BrokerHealthState
  generation : UInt64
  message : Option String
  deriving DecidableEq, Repr

def brokerHealthMaxMessageLen : ℕ := 128

end Sophia.Protocol
