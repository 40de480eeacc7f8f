import Mathlib.Algebra.Group.Int.Defs
import Mathlib.Data.Rat.Defs
import Std.Data.ExtTreeMap

/-! Wire-level ids, geometry and surface packets shared by every subsystem. -/
namespace Sophia.Protocol

open Std

/-- The id families the protocol declares with one macro. -/
inductive IdKind where
  | namespaceId | clientAdmissionId | outputId | seatId | deviceId | transactionId
  | portalTransferId | workspaceId | iconTokenId | bufferHandle | fenceHandle | wmActionId
  deriving DecidableEq, Repr

structure SimpleId (kind : IdKind) where
  raw : UInt64
  deriving DecidableEq, Repr

namespace SimpleId

variable {kind : IdKind}

instance : LawfulBEq (SimpleId kind) := inferInstance

def fromRaw (raw : UInt64) : SimpleId kind := ⟨raw⟩

def isValid (id : SimpleId kind) : Bool := id.raw != 0

instance : Ord (SimpleId kind) := ⟨compareOn raw⟩

instance : TransOrd (SimpleId kind) :=
  inferInstanceAs (TransCmp (compareOn fun id : SimpleId kind => id.raw))

instance : LawfulEqOrd (SimpleId kind) where
  eq_of_compare {a b} h := by
    cases a
    cases b
    exact congrArg _ (LawfulEqOrd.eq_of_compare h)

end SimpleId

/-- Hands out the ids of one family in increasing order, from one on. -/
structure IdAllocator (kind : IdKind) where
  next : UInt64
  deriving DecidableEq, Repr

namespace IdAllocator

variable {kind : IdKind}

def new : IdAllocator kind := ⟨1⟩

/-- `none` is the panic of an exhausted counter. -/
def nextId (ids : IdAllocator kind) : Option (SimpleId kind × IdAllocator kind) :=
  if ids.next.toNat + 1 < UInt64.size then
    some (.fromRaw ids.next, ⟨UInt64.ofNat (ids.next.toNat + 1)⟩)
  else none

theorem nextId_eq_some {ids ids' : IdAllocator kind} {id : SimpleId kind}
    (h : ids.nextId = some (id, ids')) :
    id.raw = ids.next ∧ ids'.next.toNat = ids.next.toNat + 1 := by
  simp only [nextId, Option.ite_none_right_eq_some, Option.some.injEq, Prod.mk.injEq] at h
  obtain ⟨hlt, rfl, rfl⟩ := h
  exact ⟨rfl, UInt64.toNat_ofNat_of_lt' hlt⟩

end IdAllocator

abbrev NamespaceId := SimpleId .namespaceId
abbrev ClientAdmissionId := SimpleId .clientAdmissionId
abbrev OutputId := SimpleId .outputId
abbrev SeatId := SimpleId .seatId
abbrev DeviceId := SimpleId .deviceId
abbrev TransactionId := SimpleId .transactionId
abbrev PortalTransferId := SimpleId .portalTransferId
abbrev WorkspaceId := SimpleId .workspaceId
abbrev IconTokenId := SimpleId .iconTokenId
abbrev BufferHandle := SimpleId .bufferHandle
abbrev FenceHandle := SimpleId .fenceHandle
abbrev WmActionId := SimpleId .wmActionId

structure SurfaceId where
  index : UInt32
  generation : UInt32
  deriving DecidableEq, Repr

namespace SurfaceId

def invalid : SurfaceId := ⟨UInt32.ofNat (UInt32.size - 1), 0⟩

def isValid (s : SurfaceId) : Bool := s.index != UInt32.ofNat (UInt32.size - 1) && s.generation != 0

instance : Ord SurfaceId := ⟨compareLex (compareOn index) (compareOn generation)⟩

instance : TransOrd SurfaceId :=
  inferInstanceAs (TransCmp (compareLex (compareOn index) (compareOn generation)))

instance : LawfulEqOrd SurfaceId where
  eq_of_compare {a b} h := by
    obtain ⟨hi, hg⟩ := compareLex_eq_eq.mp h
    cases a
    cases b
    congr 1
    · exact LawfulEqOrd.eq_of_compare hi
    · exact LawfulEqOrd.eq_of_compare hg

end SurfaceId

structure Size where
  width : Int32
  height : Int32
  deriving DecidableEq, Repr

/-- A point of the scene; the coordinates are exact rationals. -/
structure Point where
  x : ℚ
  y : ℚ
  deriving DecidableEq, Repr

structure Rect where
  x : Int32
  y : Int32
  width : Int32
  height : Int32
  deriving DecidableEq, Repr

def Rect.isEmpty (r : Rect) : Bool := r.width ≤ 0 || r.height ≤ 0

structure Region where
  rects : List Rect
  deriving DecidableEq, Repr

def Region.empty : Region := ⟨[]⟩

def Region.single (r : Rect) : Region := if r.isEmpty then Region.empty else ⟨[r]⟩

def Region.extend (region other : Region) : Region :=
  ⟨region.rects ++ other.rects.filter fun r => !r.isEmpty⟩

inductive BufferSource where
  | none
  | xPixmap (pixmap : UInt32)
  | dmaBuf (handle : UInt64)
  | cpuBuffer (handle : UInt64)
  deriving DecidableEq, Repr

inductive AuthorityKind where
  | sophiaX
  | sophiaNative
  deriving DecidableEq, Repr

inductive SurfaceTransactionReadiness where
  | pending
  | ready
  | failed
  | timedOut
  deriving DecidableEq, Repr

structure SurfaceTransaction where
  transaction : TransactionId
  authority : AuthorityKind
  surface : SurfaceId
  namespaceId : Option NamespaceId
  targetGeometry : Rect
  targetBuffer : BufferSource
  damage : Region
  readiness : SurfaceTransactionReadiness
  timeoutMsec : UInt32
  previousCommittedGeneration : UInt64
  deriving DecidableEq, Repr

/-- A ready draw of an eight by eight CPU buffer at the origin. -/
def SurfaceTransaction.draw (transaction : TransactionId) (surface : SurfaceId)
    (previous handle : UInt64) : SurfaceTransaction where
  transaction := transaction
  authority := .sophiaX
  surface := surface
  namespaceId := none
  targetGeometry := ⟨0, 0, 8, 8⟩
  targetBuffer := .cpuBuffer handle
  damage := .single ⟨0, 0, 8, 8⟩
  readiness := .ready
  timeoutMsec := 0
  previousCommittedGeneration := previous

structure CommittedSurfaceState where
  surface : SurfaceId
  committedGeneration : UInt64
  geometry : Rect
  buffer : BufferSource
  damage : Region
  deriving DecidableEq, Repr

structure AuthorityLocalId where
  raw : UInt64
  generation : UInt32
  deriving DecidableEq, Repr

namespace AuthorityLocalId

def isValid (id : AuthorityLocalId) : Bool := id.raw != 0 && id.generation != 0

instance : Ord AuthorityLocalId := ⟨compareLex (compareOn raw) (compareOn generation)⟩

instance : TransOrd AuthorityLocalId :=
  inferInstanceAs (TransCmp (compareLex (compareOn raw) (compareOn generation)))

instance : LawfulEqOrd AuthorityLocalId where
  eq_of_compare {a b} h := by
    obtain ⟨hr, hg⟩ := compareLex_eq_eq.mp h
    cases a
    cases b
    congr 1
    · exact LawfulEqOrd.eq_of_compare hr
    · exact LawfulEqOrd.eq_of_compare hg

end AuthorityLocalId

structure SurfaceConstraints where
  minSize : Option Size
  maxSize : Option Size
  deriving DecidableEq, Repr

/-- A window of an authority as the engine hears of it. -/
structure AuthoritySurface where
  authority : AuthorityKind
  localId : AuthorityLocalId
  surface : SurfaceId
  namespaceId : Option NamespaceId
  mapped : Bool
  geometry : Rect
  constraints : SurfaceConstraints
  generation : UInt64
  deriving DecidableEq, Repr

inductive ResizeSyncCapability where
  | implicitOnly
  | explicitSync
  deriving DecidableEq, Repr

/-- A row-major three by three matrix; the coefficients are exact rationals. -/
structure Transform where
  matrix : Vector ℚ 9
  deriving DecidableEq, Repr

def Transform.identity : Transform := ⟨#v[1, 0, 0, 0, 1, 0, 0, 0, 1]⟩

structure LayerSnapshot where
  surface : SurfaceId
  authorityLocalId : Option AuthorityLocalId
  namespaceId : Option NamespaceId
  stackRank : UInt32
  geometry : Rect
  source : BufferSource
  damage : Region
  opacity : ℚ
  crop : Option Rect
  transform : Transform
  generation : UInt64
  resizeSync : ResizeSyncCapability
  deriving DecidableEq, Repr

inductive TransactionOutcome where
  | committed
  | rejectedStaleSurface
  | rejectedInvalidSurface
  | timedOut
  deriving DecidableEq, Repr

structure TransactionCommit where
  transaction : TransactionId
  outcome : TransactionOutcome
  appliedSurfaces : List SurfaceId
  deriving DecidableEq, Repr

def dmaBufMaxPlanes : ℕ := 4
def dmaBufMaxDimension : Int32 := 16384
def dmaBufMaxBytes : ℕ := 256 * 1024 * 1024
def drmFormatXrgb8888 : UInt32 := 0x34325258
def drmFormatArgb8888 : UInt32 := 0x34325241

structure DmaBufPlaneDescriptor where
  offset : UInt32
  stride : UInt32
  deriving DecidableEq, Repr

structure DmaBufDescriptor where
  handle : BufferHandle
  size : Size
  format : UInt32
  modifier : UInt64
  planeCount : UInt8
  planes : Vector (Option DmaBufPlaneDescriptor) dmaBufMaxPlanes
  deriving DecidableEq, Repr

inductive DmaBufDescriptorError where
  | invalidHandle
  | invalidSize
  | unsupportedFormat
  | invalidPlaneCount
  | missingPlane
  | unexpectedPlane
  | invalidStride
  | bufferTooLarge
  deriving DecidableEq, Repr

namespace DmaBufDescriptor

def planePresenceError (d : DmaBufDescriptor) : Option DmaBufDescriptorError :=
  d.planes.toList.zipIdx.findSome? fun (plane, index) =>
    if index < d.planeCount.toNat ∧ plane.isNone then some .missingPlane
    else if d.planeCount.toNat ≤ index ∧ plane.isSome then some .unexpectedPlane
    else none

-- The source computes in checked u64: every overflow reports the error of the size limit,
-- which the unbounded sum exceeds as well.
def planeExtentError (d : DmaBufDescriptor) : Option DmaBufDescriptorError :=
  let widthBytes := d.size.width.toInt.toNat * 4
  let height := d.size.height.toInt.toNat
  ((d.planes.toList.take d.planeCount.toNat).filterMap id).findSome? fun plane =>
    let stride := plane.stride.toNat
    if stride < widthBytes then some .invalidStride
    else if dmaBufMaxBytes < plane.offset.toNat + (height - 1) * stride + widthBytes then
      some .bufferTooLarge
    else none

def validate (d : DmaBufDescriptor) : Except DmaBufDescriptorError Unit :=
  if !d.handle.isValid then .error .invalidHandle
  else if d.size.width ≤ 0 ∨ d.size.height ≤ 0 ∨ dmaBufMaxDimension < d.size.width ∨
      dmaBufMaxDimension < d.size.height then .error .invalidSize
  else if d.format ≠ drmFormatXrgb8888 ∧ d.format ≠ drmFormatArgb8888 then
    .error .unsupportedFormat
  else if d.planeCount = 0 ∨ dmaBufMaxPlanes < d.planeCount.toNat then .error .invalidPlaneCount
  else match d.planePresenceError with
    | some error => .error error
    | none => match d.planeExtentError with
      | some error => .error error
      | none => .ok ()

end DmaBufDescriptor

/-- The nearest `i32` to an integer, for the saturating operations. -/
def saturateInt32 (n : ℤ) : Int32 := Int32.ofInt (max (-2 ^ 31) (min n (2 ^ 31 - 1)))

/-- `i32::checked_add`. -/
def checkedAddInt32 (a b : Int32) : Option Int32 :=
  let sum := a.toInt + b.toInt
  if -2 ^ 31 ≤ sum ∧ sum < 2 ^ 31 then some (Int32.ofInt sum) else none

/-- `u64::saturating_add`. -/
def saturatingAdd (a b : UInt64) : UInt64 :=
  if a.toNat + b.toNat < UInt64.size then a + b else UInt64.ofNat (UInt64.size - 1)

theorem toNat_saturatingAdd (a b : UInt64) :
    (saturatingAdd a b).toNat = min (a.toNat + b.toNat) (UInt64.size - 1) := by
  unfold saturatingAdd
  split
  · rename_i h
    have hm : (a.toNat + b.toNat) % 2 ^ 64 = a.toNat + b.toNat := Nat.mod_eq_of_lt h
    rw [UInt64.toNat_add, hm]
    omega
  · rename_i h
    simp only [UInt64.size] at h ⊢
    rw [UInt64.toNat_ofNat']
    omega

end Sophia.Protocol

/-! Namespaces and the admissions of clients into them. -/
namespace Sophia.Protocol

inductive NamespaceProfile where
  | classicShared
  | confined
  deriving DecidableEq, Repr

structure NamespaceCapabilities where
  requestBits : UInt64
  publishBits : UInt64
  deriving DecidableEq, Repr

def NamespaceCapabilities.none : NamespaceCapabilities := ⟨0, 0⟩

structure NamespaceContext where
  id : NamespaceId
  profile : NamespaceProfile
  capabilities : NamespaceCapabilities
  deriving DecidableEq, Repr

namespace NamespaceContext

def new (id : NamespaceId) (profile : NamespaceProfile) (capabilities : NamespaceCapabilities) :
    Option NamespaceContext :=
  if id.isValid then some ⟨id, profile, capabilities⟩ else none

def isValid (context : NamespaceContext) : Bool := context.id.isValid

end NamespaceContext

inductive ClientAuthenticationMethod where
  | trustedLocal
  | peerCredentials
  | mitMagicCookie1
  deriving DecidableEq, Repr

structure ClientAuthProvenance where
  method : ClientAuthenticationMethod
  sessionGeneration : UInt64
  deriving DecidableEq, Repr

namespace ClientAuthProvenance

def new (method : ClientAuthenticationMethod) (sessionGeneration : UInt64) :
    Option ClientAuthProvenance :=
  if sessionGeneration = 0 then none else some ⟨method, sessionGeneration⟩

def isValid (provenance : ClientAuthProvenance) : Bool := provenance.sessionGeneration != 0

end ClientAuthProvenance

structure ClientAdmissionContext where
  clientId : ClientAdmissionId
  namespaceContext : NamespaceContext
  authProvenance : ClientAuthProvenance
  deriving DecidableEq, Repr

namespace ClientAdmissionContext

def new (clientId : ClientAdmissionId) (namespaceContext : NamespaceContext)
    (authProvenance : ClientAuthProvenance) : Option ClientAdmissionContext :=
  if clientId.isValid && namespaceContext.isValid && authProvenance.isValid then
    some ⟨clientId, namespaceContext, authProvenance⟩
  else none

end ClientAdmissionContext
end Sophia.Protocol
