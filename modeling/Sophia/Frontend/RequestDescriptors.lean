import Sophia.Lib.Codec
import Sophia.Lib.History
import Sophia.Session.AuthorityFeed

/-! The descriptors a client passes along with its requests, from the socket to the requests that
consume them. -/
namespace Sophia.Frontend

open Protocol Authority Session

structure XWireClientContext where
  byteOrder : XByteOrder
  namespaceId : NamespaceId
  transaction : TransactionId
  resourceIdRange : Option XWireClientResourceRange
  deriving DecidableEq

inductive XWireParseError where
  | truncated (needed actual : ℕ)
  | invalidLength (opcode : UInt8) (expectedAtLeast actual : ℕ)
  | trailingBytes (count : ℕ)
  | unknownOpcode (opcode : UInt8)
  | invalidPropertyMode (mode : UInt8)
  | invalidPropertyFormat (format : UInt8)
  | invalidEventType (eventType : UInt8)
  | invalidValue (value : UInt32)
  | propertyValueTooLarge (len max : ℕ)
  | resourceIdOutsideClientRange (resourceId : UInt32)
  deriving DecidableEq

section Decoding

variable (context : XWireClientContext) (bytes : List UInt8)

def XWireClientContext.validateNewResourceId (resourceId : UInt32) : Except XWireParseError Unit :=
  if context.resourceIdRange.any (!·.ownsNewResource resourceId) then
    .error (.resourceIdOutsideClientRange resourceId)
  else .ok ()

/-- The bytes at an offset as a number in the client's byte order. -/
def XWireClientContext.field (offset width : ℕ) : ℕ :=
  let field := (bytes.drop offset).take width
  match context.byteOrder with
  | .littleEndian => Codec.fromLe field
  | .bigEndian => Codec.fromLe field.reverse

def XWireClientContext.u16 (offset : ℕ) : UInt16 := .ofNat (context.field bytes offset 2)

def XWireClientContext.u32 (offset : ℕ) : UInt32 := .ofNat (context.field bytes offset 4)

def XWireClientContext.u64 (offset : ℕ) : UInt64 := .ofNat (context.field bytes offset 8)

def XWireClientContext.resource (offset : ℕ) : XResourceId :=
  .new (context.u32 bytes offset).toUInt64 1

def requireExactLen (opcode : UInt8) (expected : ℕ) : Except XWireParseError Unit :=
  if bytes.length = expected then .ok ()
  else .error (.invalidLength opcode expected bytes.length)

def xDri3MajorOpcode : UInt8 := 137

-- The minor opcodes without descriptors are left to the decoder of the other requests.
def decodeDri3
    (decodeOther : XWireClientContext → List UInt8 → Except XWireParseError XWireRequest) :
    Except XWireParseError XWireRequest :=
  match bytes.getD 1 0 with
  | 0 | 1 | 6 => decodeOther context bytes
  | 2 => do
    requireExactLen bytes xDri3MajorOpcode 24
    context.validateNewResourceId (context.u32 bytes 4)
    return .dri3PixmapFromBuffer (context.resource bytes 4) (context.resource bytes 8)
      (context.u32 bytes 12) (context.u16 bytes 16) (context.u16 bytes 18) (context.u16 bytes 20)
      (bytes.getD 22 0) (bytes.getD 23 0)
  | 4 => do
    requireExactLen bytes xDri3MajorOpcode 16
    context.validateNewResourceId (context.u32 bytes 8)
    return .dri3FenceFromFd (context.resource bytes 4) (context.resource bytes 8)
      (bytes.getD 12 0 ≠ 0)
  | 7 => do
    requireExactLen bytes xDri3MajorOpcode 64
    context.validateNewResourceId (context.u32 bytes 4)
    let numBuffers := bytes.getD 12 0
    if numBuffers = 0 ∨ dmaBufMaxPlanes < numBuffers.toNat then
      throw (.invalidValue numBuffers.toUInt32)
    return .dri3PixmapFromBuffers (context.resource bytes 4) (context.resource bytes 8) numBuffers
      (context.u16 bytes 16) (context.u16 bytes 18)
      #v[context.u32 bytes 20, context.u32 bytes 28, context.u32 bytes 36, context.u32 bytes 44]
      #v[context.u32 bytes 24, context.u32 bytes 32, context.u32 bytes 40, context.u32 bytes 48]
      (bytes.getD 52 0) (bytes.getD 53 0) (context.u64 bytes 56)
  | minor => .error (.unknownOpcode minor)

def decodeX11CoreRequest
    (decodeOther : XWireClientContext → List UInt8 → Except XWireParseError XWireRequest) :
    Except XWireParseError XWireRequest :=
  let declaredLen := (context.u16 bytes 2).toNat * 4
  if bytes.length < 4 then .error (.truncated 4 bytes.length)
  else if declaredLen < 4 then .error (.invalidLength (bytes.getD 0 0) 4 declaredLen)
  else if bytes.length < declaredLen then .error (.truncated declaredLen bytes.length)
  else if declaredLen < bytes.length then .error (.trailingBytes (bytes.length - declaredLen))
  else if bytes.getD 0 0 = xDri3MajorOpcode then decodeDri3 context bytes decodeOther
  else decodeOther context bytes

end Decoding

/-- A request on the socket, with the descriptors attached to its header and to the bytes behind
it. -/
structure SocketRequest (φ : Type) where
  bytes : List UInt8
  headerFds : List φ
  payloadFds : List φ := []
  deriving DecidableEq

structure X11ReceivedCoreRequest (φ : Type) where
  bytes : List UInt8
  fds : List φ
  deriving DecidableEq

/-- The header's ancillary buffer has room for one pixmap's planes. The rest of the request is read
without one, which discards what is attached there. -/
def readX11CoreRequest {φ : Type} (request : SocketRequest φ) :
    Except String (X11ReceivedCoreRequest φ) :=
  if dmaBufMaxPlanes < request.headerFds.length then
    .error "X11 request carried too many ancillary file descriptors"
  else .ok ⟨request.bytes, request.headerFds⟩

def maxPendingRequestFds : ℕ := dmaBufMaxPlanes * 16

/-- The request loop: the descriptors kept for later, and what each decoded request was handed. -/
structure RequestLoop (φ : Type) where
  pendingRequestFds : List φ := []
  handed : List (List UInt8 × List φ) := []
  deriving DecidableEq

section Loop

variable {φ : Type} (decode : List UInt8 → Except XWireParseError XWireRequest)

def RequestLoop.receive (loop : RequestLoop φ) (received : X11ReceivedCoreRequest φ) :
    Except String (RequestLoop φ) :=
  match decode received.bytes with
  -- The error reply is all that is left of the request.
  | .error _ => .ok loop
  | .ok request =>
    let pending := loop.pendingRequestFds ++ received.fds
    let take := min request.requiredFdCount pending.length
    let receivedFds := pending.take take
    if maxPendingRequestFds < pending.length then
      .error "X11 request stream carried too many pending file descriptors"
    else if request.requiredFdCount ≠ receivedFds.length then
      .error (s!"X11 request opcode {received.bytes.getD 0 0} required " ++
        s!"{request.requiredFdCount} file descriptors but received {receivedFds.length}")
    else .ok
      { pendingRequestFds := pending.drop take
        handed := loop.handed ++ [(received.bytes, receivedFds)] }

/-- One more request; an error ends the loop for good. -/
def RequestLoop.step (state : Except String (RequestLoop φ)) (request : SocketRequest φ) :
    Except String (RequestLoop φ) :=
  state.bind fun loop => (readX11CoreRequest request).bind (loop.receive decode)

end Loop
end Sophia.Frontend
