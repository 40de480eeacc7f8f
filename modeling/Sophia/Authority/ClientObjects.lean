import Sophia.Lib.Ordered
import Sophia.Authority.Resources

/-! Graphics contexts and shared memory segments: client objects with tables of their own. -/
namespace Sophia.Authority

open Std Sophia.Protocol

/-- The id is one the connection with this range may allocate. -/
def XWireClientResourceRange.owns (range : XWireClientResourceRange) (id : XResourceId) : Bool :=
  id.localId.raw.toNat < UInt32.size ∧ range.ownsNewResource id.localId.raw.toUInt32

structure XPoint where
  x : Int16
  y : Int16
  deriving DecidableEq, Repr

def xGxCopy : UInt8 := 3

structure XGraphicsContextValues where
  function : UInt8 := xGxCopy
  planeMask : UInt32 := 0xffffffff
  foreground : UInt32 := 0
  background : UInt32 := 1
  lineWidth : UInt16 := 0
  fillStyle : UInt8 := 0
  font : Option XResourceId := none
  clipXOrigin : Int16 := 0
  clipYOrigin : Int16 := 0
  clipRectangles : List Rect := []
  deriving DecidableEq, Repr

/-- Take over the fields a change names; the clip rectangles have a request of their own. -/
def XGraphicsContextValues.change (old : XGraphicsContextValues) (mask : UInt32)
    (values : XGraphicsContextValues) : XGraphicsContextValues :=
  let named (bit : UInt32) : Bool := mask &&& (1 <<< bit) ≠ 0
  { function := if named 0 then values.function else old.function
    planeMask := if named 1 then values.planeMask else old.planeMask
    foreground := if named 2 then values.foreground else old.foreground
    background := if named 3 then values.background else old.background
    lineWidth := if named 4 then values.lineWidth else old.lineWidth
    fillStyle := if named 8 then values.fillStyle else old.fillStyle
    font := if named 14 then values.font else old.font
    clipXOrigin := if named 17 then values.clipXOrigin else old.clipXOrigin
    clipYOrigin := if named 18 then values.clipYOrigin else old.clipYOrigin
    clipRectangles := old.clipRectangles }

/-- What the records of the two tables have in common. -/
class ClientObject (ν : Type) where
  id : ν → XResourceId
  namespaceId : ν → NamespaceId

/-- A table of client objects, each stored under its own id. -/
structure ObjectTable (ν : Type) [ClientObject ν] where
  records : ExtTreeMap XResourceId ν
  keyed : Ordered.KeyedBy ClientObject.id records

namespace ObjectTable

variable {ν : Type} [ClientObject ν]

def new : ObjectTable ν := ⟨∅, Ordered.keyedBy_empty⟩

def put (table : ObjectTable ν) (record : ν) : ObjectTable ν :=
  ⟨table.records.insert (ClientObject.id record) record, table.keyed.insert record⟩

def get (table : ObjectTable ν) (ns : NamespaceId) (id : XResourceId) :
    Except XAuthorityAccessError ν :=
  match table.records[id]? with
  | none => .error .unknownResource
  | some record =>
    if ClientObject.namespaceId record ≠ ns then .error .crossNamespaceDenied else .ok record

def erase (table : ObjectTable ν) (id : XResourceId) : ObjectTable ν where
  records := table.records.erase id
  keyed := by
    intro k v h
    rw [ExtTreeMap.getElem?_erase] at h
    split at h
    · cases h
    · exact table.keyed k v h

def idsForNamespaceInClientRange (table : ObjectTable ν) (ns : NamespaceId)
    (range : XWireClientResourceRange) : List XResourceId :=
  ((Ordered.values table.records).filter fun record =>
    ClientObject.namespaceId record = ns ∧ range.owns (ClientObject.id record)).map ClientObject.id

variable {table : ObjectTable ν} {ns : NamespaceId} {id other : XResourceId} {record : ν}
  {range : XWireClientResourceRange}

theorem get_eq_ok :
    table.get ns id = .ok record ↔
      table.records[id]? = some record ∧ ClientObject.namespaceId record = ns := by
  unfold get
  split
  · rename_i h
    simp [h]
  · rename_i found h
    split
    · rename_i hne
      simp only [reduceCtorEq, h, Option.some.injEq, false_iff, not_and]
      rintro rfl
      exact hne
    · rename_i he
      simp only [Except.ok.injEq, h, Option.some.injEq, iff_self_and]
      rintro rfl
      exact not_not.mp he

theorem getElem?_erase :
    (table.erase id).records[other]? = if id = other then none else table.records[other]? := by
  simp only [erase, ExtTreeMap.getElem?_erase, Std.compare_eq_iff_eq]

theorem mem_idsForNamespaceInClientRange :
    id ∈ table.idsForNamespaceInClientRange ns range ↔
      range.owns id ∧
        ∃ record, table.records[id]? = some record ∧ ClientObject.namespaceId record = ns := by
  simp only [idsForNamespaceInClientRange, List.mem_map, List.mem_filter,
    table.keyed.mem_values_iff, decide_eq_true_eq]
  constructor
  · rintro ⟨record, ⟨hget, hns, howns⟩, rfl⟩
    exact ⟨howns, record, hget, hns⟩
  · rintro ⟨howns, record, hget, hns⟩
    have hid := table.keyed id record hget
    refine ⟨record, ⟨?_, hns, ?_⟩, hid⟩
    · rw [hid]
      exact hget
    · rw [hid]
      exact howns

end ObjectTable

structure XGraphicsContextRecord where
  id : XResourceId
  drawable : XResourceId
  namespaceId : NamespaceId
  values : XGraphicsContextValues
  deriving DecidableEq, Repr

instance : ClientObject XGraphicsContextRecord := ⟨(·.id), (·.namespaceId)⟩

abbrev XGraphicsContextTable := ObjectTable XGraphicsContextRecord

namespace XGraphicsContextTable

-- A record that already has the id is replaced, whoever owns it.
def create (table : XGraphicsContextTable) (ns : NamespaceId) (id drawable : XResourceId)
    (values : XGraphicsContextValues) : Except XAuthorityAccessError XGraphicsContextTable :=
  if !ns.isValid then .error .invalidNamespace
  else if !id.isValid ∨ !drawable.isValid then .error .invalidResource
  else .ok (table.put { id, drawable, namespaceId := ns, values })

/-- Rewrite the values of a record the namespace owns. -/
def modify (table : XGraphicsContextTable) (ns : NamespaceId) (id : XResourceId)
    (f : XGraphicsContextValues → XGraphicsContextValues) :
    Except XAuthorityAccessError XGraphicsContextTable :=
  (table.get ns id).map fun record => table.put { record with values := f record.values }

def change (table : XGraphicsContextTable) (ns : NamespaceId) (id : XResourceId) (mask : UInt32)
    (values : XGraphicsContextValues) : Except XAuthorityAccessError XGraphicsContextTable :=
  table.modify ns id (·.change mask values)

def setClipRectangles (table : XGraphicsContextTable) (ns : NamespaceId) (id : XResourceId)
    (rectangles : List Rect) : Except XAuthorityAccessError XGraphicsContextTable :=
  table.modify ns id ({ · with clipRectangles := rectangles })

def remove (table : XGraphicsContextTable) (ns : NamespaceId) (id : XResourceId) :
    Except XAuthorityAccessError XGraphicsContextTable :=
  (table.get ns id).map fun _ => table.erase id

end XGraphicsContextTable

structure XShmSegmentRecord where
  id : XResourceId
  namespaceId : NamespaceId
  shmid : UInt32
  readOnly : Bool
  generation : UInt64
  deriving DecidableEq, Repr

instance : ClientObject XShmSegmentRecord := ⟨(·.id), (·.namespaceId)⟩

abbrev XShmSegmentTable := ObjectTable XShmSegmentRecord

namespace XShmSegmentTable

def attach (table : XShmSegmentTable) (ns : NamespaceId) (id : XResourceId) (shmid : UInt32)
    (readOnly : Bool) (generation : UInt64) : Except XAuthorityAccessError XShmSegmentTable :=
  if !ns.isValid then .error .invalidNamespace
  else if !id.isValid then .error .invalidResource
  else .ok (table.put { id, namespaceId := ns, shmid, readOnly, generation })

def lookup (table : XShmSegmentTable) (ns : NamespaceId) (id : XResourceId) :
    Except XAuthorityAccessError XShmSegmentRecord :=
  if !ns.isValid then .error .invalidNamespace
  else if !id.isValid then .error .invalidResource
  else table.get ns id

def detach (table : XShmSegmentTable) (ns : NamespaceId) (id : XResourceId) :
    Except XAuthorityAccessError XShmSegmentTable :=
  (table.lookup ns id).map fun _ => table.erase id

end XShmSegmentTable
end Sophia.Authority
