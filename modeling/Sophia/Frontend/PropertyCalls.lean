import Sophia.Authority.ClipboardTransfers
import Sophia.Authority.PropertyStore
import Sophia.Frontend.RequestDescriptors
import Sophia.Lib.Run

/-! The property store as the frontend uses it: the clients' requests and the clipboard's. -/
namespace Sophia.Frontend

open Std Protocol Authority Portal

def xChangeProperty : UInt8 := 18
def xChangePropertyReqLen : ℕ := 24

def paddedLen (len : ℕ) : ℕ := (len + 3) / 4 * 4

def decodePropertyMode (mode : UInt8) : Except XWireParseError XPropertyMode :=
  match mode with
  | 0 => .ok .replace
  | 1 => .ok .prepend
  | 2 => .ok .append
  | other => .error (.invalidPropertyMode other)

def validateWirePropertyFormat (format : UInt8) : Except XWireParseError Unit :=
  if format = 8 ∨ format = 16 ∨ format = 32 then .ok () else .error (.invalidPropertyFormat format)

-- The units are 32 bits, so their bytes are a number of the machine.
def decodeChangeProperty (context : XWireClientContext) (bytes : List UInt8) :
    Except XWireParseError XPropertyChange := do
  if bytes.length < xChangePropertyReqLen then
    throw (.invalidLength xChangeProperty xChangePropertyReqLen bytes.length)
  let mode ← decodePropertyMode (bytes.getD 1 0)
  let format := bytes.getD 16 0
  validateWirePropertyFormat format
  let valueLen := (context.u32 bytes 20).toNat * (format.toNat / 8)
  if xPropertyMaxValueBytes < valueLen then
    throw (.propertyValueTooLarge valueLen xPropertyMaxValueBytes)
  let expectedLen := xChangePropertyReqLen + paddedLen valueLen
  if bytes.length ≠ expectedLen then
    throw (.invalidLength xChangeProperty expectedLen bytes.length)
  return {
    mode
    window := context.resource bytes 4
    property := context.u32 bytes 8
    propertyType := context.u32 bytes 12
    format
    bytes := (bytes.drop xChangePropertyReqLen).take valueLen }

/-- The uses of the store. A request comes with the runtime's answer whether its window is the
client's. -/
inductive PropertyCall where
  | changeProperty (context : XWireClientContext) (bytes : List UInt8) (access : Bool)
  | deleteProperty (ns : NamespaceId) (window : XResourceId) (property : UInt32) (access : Bool)
  | getProperty (ns : NamespaceId) (read : XPropertyRead)
  | executePayload (selections : XSelectionMonitor) (pending : PendingClipboardSelection)
      (transfer : PortalTransferId) (grant : PortalGrant) (payload : List UInt8) (atoms : XAtomTable)
  | capturePayload (proxy : ClipboardSelectionProxy) (property : UInt32)
  | removeWindow (ns : NamespaceId) (window : XResourceId)

namespace PropertyCall

/-- The namespace on whose behalf the store is used. -/
def namespaceId : PropertyCall → NamespaceId
  | changeProperty context _ _ => context.namespaceId
  | deleteProperty ns _ _ _ | getProperty ns _ | removeWindow ns _ => ns
  | executePayload _ pending _ _ _ _ => pending.namespaceId
  | capturePayload proxy _ => proxy.namespaceId

def step (table : XPropertyTable) : PropertyCall → XPropertyTable
  | changeProperty context bytes access => match decodeChangeProperty context bytes with
    | .error _ => table
    | .ok change => if access then (table.change context.namespaceId change).2 else table
  | deleteProperty ns window property access =>
    if access then (table.remove ns window property).2 else table
  | getProperty _ _ => table
  | executePayload selections pending transfer grant payload atoms =>
    (XAuthorityRuntime.executePending selections pending transfer grant payload atoms table).2.2
  | capturePayload proxy property => (XAuthorityRuntime.capturedPayload proxy property table).2
  | removeWindow ns window => table.removeWindow ns window

/-- The table after a sequence of uses. -/
def after (calls : List PropertyCall) : XPropertyTable := Run.exec step .new calls

end PropertyCall

section Decoding

open Fallible

variable {context : XWireClientContext} {bytes : List UInt8} {change : XPropertyChange}

/-- A decoded change has as many bytes as its units take. -/
theorem whole_decodeChangeProperty (h : decodeChangeProperty context bytes = .ok change) :
    WholeItems change.format change.bytes := by
  unfold decodeChangeProperty at h
  simp only [throw_if_eq_ok, bind_eq_ok] at h
  obtain ⟨-, mode, -, _, -, -, hlength, hdone⟩ := h
  cases hdone
  unfold WholeItems
  rw [List.length_take, List.length_drop]
  have hpadded : paddedLen ((context.u32 bytes 20).toNat * ((bytes.getD 16 0).toNat / 8)) ≥
      (context.u32 bytes 20).toNat * ((bytes.getD 16 0).toNat / 8) := by
    unfold paddedLen
    omega
  rw [Nat.min_eq_left (by omega)]
  exact Nat.dvd_mul_left _ _

theorem length_targetAtoms {order : XByteOrder} {names : List String} {atoms next : XAtomTable}
    {found : List UInt8}
    (h : XAuthorityRuntime.targetAtoms order names atoms = (some found, next)) :
    found.length = names.length * 4 := by
  induction names generalizing atoms found next with
  | nil =>
    cases h
    rfl
  | cons name names ih =>
    rw [XAuthorityRuntime.targetAtoms] at h
    split at h
    · cases h
    · cases h
    · rename_i atom interned hintern
      cases hrest : XAuthorityRuntime.targetAtoms order names interned with
      | mk rest last =>
        rw [hrest] at h
        cases rest with
        | none => cases h
        | some rest =>
          cases h
          have hlength := ih hrest
          have hword : (XAuthorityRuntime.XByteOrder.u32Bytes order atom).length = 4 := by
            cases order <;> rfl
          rw [List.length_append, hlength, hword, List.length_cons]
          omega

end Decoding

section Reachable

open Fallible XAuthorityRuntime

variable {table next : XPropertyTable} {call : PropertyCall} {calls : List PropertyCall}

/-- The store after a call: some of its properties, or one change of whole items more. -/
inductive Moved (ns : NamespaceId) (table : XPropertyTable) : XPropertyTable → Prop
  | fewer {next : XPropertyTable}
      (kept : ∀ (key : PropertyKey) record, next.records[key]? = some record →
        table.records[key]? = some record)
      (others : ∀ key : PropertyKey, key.namespaceId ≠ ns →
        next.records[key]? = table.records[key]?) :
      Moved ns table next
  | changed {change : XPropertyChange} {record : XPropertyRecord} {next : XPropertyTable}
      (whole : WholeItems change.format change.bytes)
      (done : table.applyChange ns change = .ok (record, next)) : Moved ns table next

theorem Moved.same (ns : NamespaceId) (table : XPropertyTable) : Moved ns table table :=
  .fewer (fun _ _ h => h) fun _ _ => rfl

theorem Moved.kept {ns : NamespaceId} (h : Moved ns table next) (hkept : table.Kept) :
    next.Kept := by
  cases h with
  | fewer hfewer _ => exact hkept.fewer hfewer
  | changed hwhole hdone => exact hkept.applyChange hwhole hdone

theorem Moved.get_other {ns other : NamespaceId} (h : Moved ns table next) (hother : other ≠ ns)
    (window : XResourceId) (property : UInt32) :
    next.get other window property = table.get other window property := by
  cases h with
  | fewer _ hothers => exact hothers _ hother
  | changed _ hdone =>
    obtain ⟨-, -, -, -, -, -, -, rfl⟩ := XPropertyTable.applyChange_eq_ok hdone
    rw [XPropertyTable.get_insert, if_neg]
    rintro he
    cases he
    exact hother rfl

theorem moved_change {ns : NamespaceId} {change : XPropertyChange}
    (hwhole : WholeItems change.format change.bytes) :
    Moved ns table (table.change ns change).2 := by
  unfold XPropertyTable.change
  split
  · exact .same _ _
  · rename_i hdone
    exact .changed hwhole hdone

theorem moved_removeWindow (ns : NamespaceId) (window : XResourceId) :
    Moved ns table (table.removeWindow ns window) := by
  have hswept := Ordered.swept_filter (m := table.records)
    fun key _ => key.namespaceId ≠ ns || key.window ≠ window
  refine .fewer (fun key record hget => ((hswept key record).mp hget).1) fun key hkey => ?_
  exact hswept.getElem?_eq fun record => by simp [hkey]

theorem moved_remove (ns : NamespaceId) (window : XResourceId) (property : UInt32) :
    Moved ns table (table.remove ns window property).2 := by
  have hswept := Ordered.swept_erase (m := table.records) (⟨ns, window, property⟩ : PropertyKey)
  refine .fewer (fun key record hget => ((hswept key record).mp hget).1) fun key hkey => ?_
  refine hswept.getElem?_eq fun record he => hkey ?_
  rw [he]

/-- The clipboard's values are whole items: three atoms, or bytes. -/
theorem whole_convertedValue {pending : PendingClipboardSelection} {payload bytes : List UInt8}
    {atoms next : XAtomTable} {propertyType : UInt32} {format : UInt8}
    (h : convertedValue pending payload atoms = (.value propertyType format bytes, next)) :
    WholeItems format bytes := by
  unfold convertedValue at h
  dsimp only at h
  split at h
  · split at h
    · cases h
    · rename_i htargets
      cases h
      have hlength := length_targetAtoms htargets
      exact ⟨3, hlength⟩
  · split at h
    · split at h
      · cases h
      · cases h
        exact ⟨_, (Nat.one_mul _).symm⟩
    · cases h

theorem moved_installValue {pending : PendingClipboardSelection} {transfer : PortalTransferId}
    {converted : ConvertedValue × XAtomTable}
    (h : ∀ propertyType format bytes, converted.1 = .value propertyType format bytes →
      WholeItems format bytes) :
    Moved pending.namespaceId table (installValue pending transfer table converted).2.2 := by
  obtain ⟨value, atoms⟩ := converted
  cases value with
  | broken error => exact .same _ _
  | refused error => exact .same _ _
  | value propertyType format bytes =>
    simp only [installValue]
    split
    · exact .same _ _
    · rename_i hdone
      exact .changed (h propertyType format bytes rfl) hdone

theorem moved_executePending {selections : XSelectionMonitor} {pending : PendingClipboardSelection}
    {transfer : PortalTransferId} {grant : PortalGrant} {payload : List UInt8}
    {atoms : XAtomTable} :
    Moved pending.namespaceId table
      (executePending selections pending transfer grant payload atoms table).2.2 := by
  have hconverted : ∀ propertyType format bytes,
      (convertedValue pending payload atoms).1 = .value propertyType format bytes →
        WholeItems format bytes := by
    intro propertyType format bytes he
    have hpair : convertedValue pending payload atoms =
        (.value propertyType format bytes, (convertedValue pending payload atoms).2) :=
      Prod.ext he rfl
    exact whole_convertedValue hpair
  unfold executePending
  dsimp only
  split
  · exact .same _ _
  split
  · exact .same _ _
  split
  · exact .same _ _
  split
  · exact .same _ _
  split
  · exact .same _ _
  split
  · exact .same _ _
  exact moved_installValue hconverted

theorem moved_capturedPayload (proxy : ClipboardSelectionProxy) (property : UInt32) :
    Moved proxy.namespaceId table (capturedPayload proxy property table).2 := by
  unfold capturedPayload
  split
  · exact moved_removeWindow _ _
  · split
    · exact .same _ _
    · exact moved_removeWindow _ _

theorem moved_step (table : XPropertyTable) (call : PropertyCall) :
    Moved call.namespaceId table (PropertyCall.step table call) := by
  cases call with
  | changeProperty context bytes access =>
    simp only [PropertyCall.step]
    split
    · exact .same _ _
    · rename_i change hdecoded
      split
      · exact moved_change (whole_decodeChangeProperty hdecoded)
      · exact .same _ _
  | deleteProperty ns window property access =>
    simp only [PropertyCall.step]
    split
    · exact moved_remove _ _ _
    · exact .same _ _
  | getProperty ns read => exact .same _ _
  | executePayload selections pending transfer grant payload atoms => exact moved_executePending
  | capturePayload proxy property => exact moved_capturedPayload _ _
  | removeWindow ns window => exact moved_removeWindow _ _

theorem kept_after (calls : List PropertyCall) : (PropertyCall.after calls).Kept :=
  Run.invariant XPropertyTable.kept_new (fun table call _ h => (moved_step table call).kept h)
    Run.guarded_true

/-- The laws of the store, in every state its uses lead to: stored properties are lawful and not too
many; a change replaces, appends or prepends, and a refused one does nothing; no namespace touches
another's properties; and a value is read back in pieces of any length that is served. -/
theorem property_store_laws (calls : List PropertyCall) :
    (∀ ns window property record,
      (PropertyCall.after calls).get ns window property = some record → record.Lawful) ∧
    (∀ ns, (PropertyCall.after calls).namespaceLen ns ≤ xPropertyMaxTableBytes) ∧
    (∀ ns change record next,
      (PropertyCall.after calls).change ns change = (.ok record, next) →
        next.get ns change.window change.property = some record ∧
          record.bytes = change.joined
            ((PropertyCall.after calls).get ns change.window change.property)) ∧
    (∀ ns change error next, (PropertyCall.after calls).change ns change = (.error error, next) →
      next = PropertyCall.after calls) ∧
    (∀ call : PropertyCall, ∀ ns ≠ call.namespaceId, ∀ window property,
      (PropertyCall.after (calls ++ [call])).get ns window property =
        (PropertyCall.after calls).get ns window property) ∧
    (∀ ns window property record,
      (PropertyCall.after calls).get ns window property = some record →
        ∀ read : XPropertyRead, read.window = window → read.property = property →
          read.longOffset = 0 → 0 < read.longLength → XPropertyTable.Accepts record read →
            ∃ fuel chunks, (PropertyCall.after calls).readChunks ns fuel read = some (.ok chunks) ∧
              chunks.flatten = record.bytes) := by
  have hkept := kept_after calls
  refine ⟨hkept.lawful, ?_, ?_, ?_, ?_, ?_⟩
  · intro ns
    exact (XPropertyTable.namespaceLen_le _ ns).trans hkept.fits
  · intro ns change record next hchange
    unfold XPropertyTable.change at hchange
    split at hchange
    · cases hchange
    · rename_i hdone
      cases hchange
      obtain ⟨-, -, -, hlength, hvalue, -, -, rfl⟩ := XPropertyTable.applyChange_eq_ok hdone
      refine ⟨?_, (XPropertyTable.value_eq_ok hvalue hlength).1⟩
      rw [XPropertyTable.get_insert, if_pos rfl]
  · intro ns change error next hchange
    unfold XPropertyTable.change at hchange
    split at hchange
    · cases hchange
      rfl
    · cases hchange
  · intro call ns hother window property
    unfold PropertyCall.after
    rw [Run.exec_snoc]
    exact (moved_step _ call).get_other hother window property
  · rintro ns _ _ record hget read rfl rfl hoffset hlength haccepts
    obtain ⟨chunks, hchunks, hflat⟩ := XPropertyTable.readChunks_from hkept hget haccepts
      (UInt32.lt_iff_toNat_lt.mp hlength) (by rw [hoffset]; exact Nat.zero_le _)
      (Nat.lt_succ_self _)
    refine ⟨_, chunks, hchunks, ?_⟩
    rw [hflat, hoffset]
    rfl

/-- A client of the first namespace stores five bytes under its window. -/
def storeRequest : PropertyCall :=
  .changeProperty ⟨.littleEndian, ⟨1⟩, ⟨1⟩, none⟩
    [18, 0, 8, 0, 1, 0, 64, 0, 39, 0, 0, 0, 31, 0, 0, 0, 8, 0, 0, 0, 5, 0, 0, 0,
      104, 101, 108, 108, 111, 0, 0, 0] true

/-- They are read back, four and then one. -/
theorem property_store_laws_stored :
    ∃ fuel chunks, (PropertyCall.after [storeRequest]).readChunks ⟨1⟩ fuel
        ⟨false, .new 0x400001 1, 39, 0, 0, 1⟩ = some (.ok chunks) ∧
      chunks.flatten = [104, 101, 108, 108, 111] := by
  have hget : (PropertyCall.after [storeRequest]).get ⟨1⟩ (.new 0x400001 1) 39 =
      some ⟨⟨1⟩, .new 0x400001 1, 39, 31, 8, [104, 101, 108, 108, 111], 1⟩ := by decide +kernel
  have hlaws := property_store_laws [storeRequest]
  exact hlaws.2.2.2.2.2 _ _ _ _ hget ⟨false, .new 0x400001 1, 39, 0, 0, 1⟩ rfl rfl rfl (by decide)
    ⟨.inl rfl, by decide⟩

end Reachable
end Sophia.Frontend
