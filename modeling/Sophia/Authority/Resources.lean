import Sophia.Lib.Fallible
import Sophia.Protocol

/-! The X authority's resource and window tables, shared by the clients of every namespace. -/
namespace Sophia.Authority

open Std Sophia.Protocol

structure XResourceId where
  localId : AuthorityLocalId
  deriving DecidableEq, Repr

namespace XResourceId

def new (raw : UInt64) (generation : UInt32) : XResourceId := ⟨⟨raw, generation⟩⟩

def isValid (id : XResourceId) : Bool := id.localId.isValid

instance : Ord XResourceId := ⟨compareOn localId⟩

instance : TransOrd XResourceId := inferInstanceAs (TransCmp (compareOn XResourceId.localId))

instance : LawfulEqOrd XResourceId where
  eq_of_compare {a b} h := by
    cases a
    cases b
    exact congrArg _ (LawfulEqOrd.eq_of_compare h)

end XResourceId

inductive XResourceKind where
  | window
  | pixmap
  | atom
  | property
  | graphicsContext
  | font
  | cursor
  | fence
  | region
  deriving DecidableEq, Repr

inductive XMapState where
  | unmapped
  | mapped
  deriving DecidableEq, Repr

structure XResourceRecord where
  id : XResourceId
  kind : XResourceKind
  ownerNamespace : NamespaceId
  generation : UInt64
  deriving DecidableEq, Repr

inductive XAuthorityAccessError where
  | invalidResource
  | invalidNamespace
  | invalidSurface
  | unknownResource
  | wrongResourceKind
  | crossNamespaceDenied
  | staleGeneration
  deriving DecidableEq, Repr

/-- The ids one connection may allocate. -/
structure XWireClientResourceRange where
  base : UInt32
  mask : UInt32
  deriving DecidableEq, Repr

def XWireClientResourceRange.ownsNewResource (range : XWireClientResourceRange)
    (resourceId : UInt32) : Bool :=
  resourceId ≠ 0 ∧ resourceId &&& ~~~range.mask = range.base

structure XResourceTable where
  records : ExtTreeMap XResourceId XResourceRecord

namespace XResourceTable

def insert (table : XResourceTable) (id : XResourceId) (kind : XResourceKind)
    (ownerNamespace : NamespaceId) (generation : UInt64) :
    Except XAuthorityAccessError XResourceTable :=
  if !id.isValid then .error .invalidResource
  else if !ownerNamespace.isValid then .error .invalidNamespace
  else .ok ⟨table.records.insert id { id, kind, ownerNamespace, generation }⟩

def lookup (table : XResourceTable) (requester : NamespaceId) (id : XResourceId)
    (expectedKind : XResourceKind) : Except XAuthorityAccessError XResourceRecord :=
  if !requester.isValid then .error .invalidNamespace
  else match table.records[id]? with
    | none => .error .unknownResource
    | some record =>
      if record.kind ≠ expectedKind then .error .wrongResourceKind
      else if record.ownerNamespace ≠ requester then .error .crossNamespaceDenied
      else .ok record

def remove (table : XResourceTable) (id : XResourceId) : XResourceTable :=
  ⟨table.records.erase id⟩

def recordsForNamespaceInClientRange (table : XResourceTable) (ns : NamespaceId)
    (range : XWireClientResourceRange) : List XResourceRecord :=
  (table.records.toList.map Prod.snd).filter fun record =>
    record.ownerNamespace = ns ∧ record.id.localId.raw.toNat < UInt32.size ∧
      range.ownsNewResource record.id.localId.raw.toUInt32

end XResourceTable

structure XWindowRecord where
  id : XResourceId
  surface : SurfaceId
  namespaceId : NamespaceId
  mapState : XMapState
  geometry : Rect
  constraints : SurfaceConstraints
  generation : UInt64
  deriving DecidableEq, Repr

def XWindowRecord.authoritySurface (record : XWindowRecord) : AuthoritySurface where
  authority := .sophiaX
  localId := record.id.localId
  surface := record.surface
  namespaceId := some record.namespaceId
  mapped := record.mapState = .mapped
  geometry := record.geometry
  constraints := record.constraints
  generation := record.generation

inductive XWindowLifecycleEvent where
  | created (id : XResourceId) (surface : SurfaceId) (ns : NamespaceId) (geometry : Rect)
      (constraints : SurfaceConstraints) (generation : UInt64)
  | mapped (id : XResourceId)
  | unmapped (id : XResourceId)
  | configured (id : XResourceId) (x y : Option Int16) (width height : Option UInt16)
  | destroyed (id : XResourceId)

structure XWindowTable where
  windows : ExtTreeMap XResourceId XWindowRecord

namespace XWindowTable

/-- Change a record the table must have. -/
def update (table : XWindowTable) (id : XResourceId) (change : XWindowRecord → XWindowRecord) :
    Except XAuthorityAccessError (Option AuthoritySurface × XWindowTable) :=
  match table.windows[id]? with
  | none => .error .unknownResource
  | some record =>
    .ok (some (change record).authoritySurface, ⟨table.windows.insert id (change record)⟩)

def configure (x y : Option Int16) (width height : Option UInt16) (geometry : Rect) : Rect where
  x := x.elim geometry.x Int16.toInt32
  y := y.elim geometry.y Int16.toInt32
  width := width.elim geometry.width fun width => Int32.ofNat width.toNat
  height := height.elim geometry.height fun height => Int32.ofNat height.toNat

def apply (table : XWindowTable) :
    XWindowLifecycleEvent → Except XAuthorityAccessError (Option AuthoritySurface × XWindowTable)
  | .created id surface ns geometry constraints generation =>
    if !id.isValid then .error .invalidResource
    else if !surface.isValid then .error .invalidResource
    else if !ns.isValid then .error .invalidNamespace
    else
      let record : XWindowRecord :=
        { id, surface, namespaceId := ns, mapState := .unmapped, geometry, constraints, generation }
      .ok (some record.authoritySurface, ⟨table.windows.insert id record⟩)
  -- Mapping and configuring leave the generation alone: it counts pixel transactions.
  | .mapped id => table.update id ({ · with mapState := .mapped })
  | .unmapped id => table.update id ({ · with mapState := .unmapped })
  | .configured id x y width height =>
    table.update id fun record =>
      { record with geometry := configure x y width height record.geometry }
  | .destroyed id => .ok (none, ⟨table.windows.erase id⟩)

def get (table : XWindowTable) (id : XResourceId) : Option XWindowRecord := table.windows[id]?

def advanceGeneration (table : XWindowTable) (id : XResourceId) (expected : UInt64) :
    Except XAuthorityAccessError XWindowTable :=
  match table.windows[id]? with
  | none => .error .unknownResource
  | some record =>
    if record.generation ≠ expected then .error .staleGeneration
    else if expected.toNat + 1 < UInt64.size then
      .ok ⟨table.windows.insert id { record with generation := expected + 1 }⟩
    else .error .invalidResource

def idsForNamespace (table : XWindowTable) (ns : NamespaceId) : List XResourceId :=
  ((table.windows.toList.map Prod.snd).filter (·.namespaceId = ns)).map (·.id)

end XWindowTable
end Sophia.Authority
