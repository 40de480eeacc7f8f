import Mathlib.Algebra.GroupWithZero.Nat
import Sophia.Authority.Resources

/-! Interned atoms and window properties, as far as clipboard hand-offs use them. -/
namespace Sophia.Authority

open Std Sophia.Protocol

def xAtomNone : UInt32 := 0
def xAtomAtom : UInt32 := 4
def xAtomMaxNameLen : ℕ := 256

inductive XAtomError where
  | emptyName
  | nameTooLong (len max : ℕ)
  | invalidName
  | atomSpaceExhausted
  deriving DecidableEq, Repr

structure XAtomTable where
  namesByAtom : ExtTreeMap UInt32 String
  atomsByName : ExtTreeMap String UInt32
  nextDynamic : UInt32

def validatedAtomName (name : String) : Except XAtomError Unit :=
  if name.isEmpty then .error .emptyName
  else if xAtomMaxNameLen < name.utf8ByteSize then
    .error (.nameTooLong name.utf8ByteSize xAtomMaxNameLen)
  -- Printable ASCII: every byte of a longer encoding has its top bit set.
  else if !name.toList.all (fun c => 0x20 ≤ c.toNat && c.toNat < 0x7f) then .error .invalidName
  else .ok ()

namespace XAtomTable

def intern (table : XAtomTable) (name : String) (onlyIfExists : Bool) :
    Except XAtomError (Option UInt32 × XAtomTable) :=
  match validatedAtomName name with
  | .error error => .error error
  | .ok () => match table.atomsByName[name]? with
    | some atom => .ok (some atom, table)
    | none =>
      if onlyIfExists then .ok (none, table)
      else if table.nextDynamic.toNat + 1 < UInt32.size then
        .ok (some table.nextDynamic,
          { namesByAtom := table.namesByAtom.insert table.nextDynamic name
            atomsByName := table.atomsByName.insert name table.nextDynamic
            nextDynamic := table.nextDynamic + 1 })
      else .error .atomSpaceExhausted

def name (table : XAtomTable) (atom : UInt32) : Option String := table.namesByAtom[atom]?

end XAtomTable

def xPropertyMaxValueBytes : ℕ := 256 * 1024
def xPropertyMaxTableBytes : ℕ := 4 * 1024 * 1024

inductive XPropertyMode where
  | replace
  | prepend
  | append
  deriving DecidableEq, Repr

structure XPropertyChange where
  mode : XPropertyMode
  window : XResourceId
  property : UInt32
  propertyType : UInt32
  format : UInt8
  bytes : List UInt8
  deriving DecidableEq, Repr

structure XPropertyRecord where
  namespaceId : NamespaceId
  window : XResourceId
  property : UInt32
  propertyType : UInt32
  format : UInt8
  bytes : List UInt8
  generation : UInt64
  deriving DecidableEq, Repr

inductive XPropertyError where
  | invalidNamespace
  | invalidWindow
  | invalidFormat (format : UInt8)
  | valueTooLarge (len max : ℕ)
  | tableTooLarge (len max : ℕ)
  | typeMismatch
  | invalidOffset
  | readTooLarge (len max : ℕ)
  deriving DecidableEq, Repr

structure PropertyKey where
  namespaceId : NamespaceId
  window : XResourceId
  property : UInt32
  deriving DecidableEq, Repr

namespace PropertyKey

def cmp : PropertyKey → PropertyKey → Ordering :=
  compareLex (compareOn namespaceId) (compareLex (compareOn window) (compareOn property))

instance : Ord PropertyKey := ⟨cmp⟩

instance : TransOrd PropertyKey :=
  inferInstanceAs (TransCmp (compareLex (compareOn namespaceId)
    (compareLex (compareOn window) (compareOn property))))

instance : LawfulEqOrd PropertyKey where
  eq_of_compare {a b} h := by
    obtain ⟨hn, h⟩ := compareLex_eq_eq.mp h
    obtain ⟨hw, hp⟩ := compareLex_eq_eq.mp h
    cases a
    cases b
    congr 1
    · exact LawfulEqOrd.eq_of_compare hn
    · exact LawfulEqOrd.eq_of_compare hw
    · exact LawfulEqOrd.eq_of_compare hp

end PropertyKey

structure XPropertyTable where
  records : ExtTreeMap PropertyKey XPropertyRecord

def validatePropertyFormat (format : UInt8) : Except XPropertyError Unit :=
  if format = 8 ∨ format = 16 ∨ format = 32 then .ok () else .error (.invalidFormat format)

def ensureSamePropertyShape (record : XPropertyRecord) (change : XPropertyChange) :
    Except XPropertyError Unit :=
  if record.propertyType ≠ change.propertyType ∨ record.format ≠ change.format then
    .error .typeMismatch
  else .ok ()

def joinedBytes (first second : List UInt8) : Except XPropertyError (List UInt8) :=
  let len := first.length + second.length
  if xPropertyMaxValueBytes < len then .error (.valueTooLarge len xPropertyMaxValueBytes)
  else .ok (first ++ second)

/-- The value a change leaves behind. -/
def XPropertyChange.value (change : XPropertyChange) (previous : Option XPropertyRecord) :
    Except XPropertyError (List UInt8) :=
  match change.mode, previous with
  | .replace, _ => .ok change.bytes
  | _, none => .ok change.bytes
  | .append, some record => do
    ensureSamePropertyShape record change
    joinedBytes record.bytes change.bytes
  | .prepend, some record => do
    ensureSamePropertyShape record change
    joinedBytes change.bytes record.bytes

namespace XPropertyTable

-- Lengths are unbounded here; the source reports an overflowing sum with the same error.
def tableLen (table : XPropertyTable) : ℕ :=
  (table.records.toList.map fun entry => entry.2.bytes.length).sum

def applyChange (table : XPropertyTable) (ns : NamespaceId) (change : XPropertyChange) :
    Except XPropertyError (XPropertyRecord × XPropertyTable) := do
  if !ns.isValid then throw .invalidNamespace
  if !change.window.isValid then throw .invalidWindow
  validatePropertyFormat change.format
  if xPropertyMaxValueBytes < change.bytes.length then
    throw (.valueTooLarge change.bytes.length xPropertyMaxValueBytes)
  let key : PropertyKey := ⟨ns, change.window, change.property⟩
  let previous := table.records[key]?
  let bytes ← change.value previous
  let tableLen := table.tableLen - previous.elim 0 (·.bytes.length) + bytes.length
  if xPropertyMaxTableBytes < tableLen then
    throw (.tableTooLarge tableLen xPropertyMaxTableBytes)
  let record : XPropertyRecord :=
    { namespaceId := ns, window := change.window, property := change.property,
      propertyType := change.propertyType, format := change.format, bytes,
      generation := previous.elim 1 fun record => saturatingAdd record.generation 1 }
  return (record, ⟨table.records.insert key record⟩)

def get (table : XPropertyTable) (ns : NamespaceId) (window : XResourceId) (property : UInt32) :
    Option XPropertyRecord :=
  table.records[(⟨ns, window, property⟩ : PropertyKey)]?

def removeWindow (table : XPropertyTable) (ns : NamespaceId) (window : XResourceId) :
    XPropertyTable :=
  ⟨table.records.filter fun key _ => key.namespaceId ≠ ns || key.window ≠ window⟩

end XPropertyTable
end Sophia.Authority
