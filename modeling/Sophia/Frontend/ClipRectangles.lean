import Sophia.Authority.ClipLaws
import Sophia.Frontend.PolyText

/-! The clip of a graphics context, from the request that sets it to the draws it is used for. -/
namespace Sophia.Frontend

open Std Protocol Authority

def xSetClipRectangles : UInt8 := 59
def xSetClipRectanglesReqLen : ℕ := 12

structure XSetClipRectangles where
  gc : XResourceId
  rectangles : List Rect
  deriving DecidableEq

def XWireClientContext.rectangle (context : XWireClientContext) (bytes : List UInt8)
    (offset : ℕ) : Rect :=
  copyRect (context.i16 bytes offset) (context.i16 bytes (offset + 2))
    (context.u16 bytes (offset + 4)) (context.u16 bytes (offset + 6))

-- The bytes from eight to twelve, the origin of the rectangles, are not read.
def decodeSetClipRectangles (context : XWireClientContext) (bytes : List UInt8) :
    Except XWireParseError XSetClipRectangles :=
  if bytes.length < xSetClipRectanglesReqLen then
    .error (.invalidLength xSetClipRectangles xSetClipRectanglesReqLen bytes.length)
  else
    let rectangleBytes := bytes.drop xSetClipRectanglesReqLen
    if rectangleBytes.length % 8 ≠ 0 then
      .error (.invalidLength xSetClipRectangles
        (xSetClipRectanglesReqLen + (rectangleBytes.length + 7) / 8 * 8) bytes.length)
    else .ok {
      gc := context.resource bytes 4
      rectangles := (List.range (rectangleBytes.length / 8)).map fun i =>
        context.rectangle rectangleBytes (8 * i) }

/-- The origin a request names. -/
def clipOrigin (context : XWireClientContext) (bytes : List UInt8) : Int16 × Int16 :=
  (context.i16 bytes 8, context.i16 bytes 10)

/-- The requests that reach the table of graphics contexts. -/
inductive GcCall where
  | create (ns : NamespaceId) (id drawable : XResourceId) (values : XGraphicsContextValues)
  | change (ns : NamespaceId) (id : XResourceId) (mask : UInt32) (values : XGraphicsContextValues)
  | setClipRectangles (ns : NamespaceId) (id : XResourceId) (rectangles : List Rect)
  | remove (ns : NamespaceId) (id : XResourceId)

namespace GcCall

def apply (table : XGraphicsContextTable) :
    GcCall → Except XAuthorityAccessError XGraphicsContextTable
  | create ns id drawable values => XGraphicsContextTable.create table ns id drawable values
  | change ns id mask values => XGraphicsContextTable.change table ns id mask values
  | .setClipRectangles ns id rectangles =>
    XGraphicsContextTable.setClipRectangles table ns id rectangles
  | remove ns id => XGraphicsContextTable.remove table ns id

/-- The table after a request; one that fails leaves it as it is. -/
def step (table : XGraphicsContextTable) (call : GcCall) : XGraphicsContextTable :=
  match call.apply table with
  | .ok table => table
  | .error _ => table

/-- The request makes the context anew, gives it other rectangles or takes it away. -/
def Resets (id : XResourceId) : GcCall → Prop
  | create _ other _ _ | .setClipRectangles _ other _ | remove _ other => other = id
  | change _ _ _ _ => False

end GcCall

section Decoding

variable {context : XWireClientContext}

end Decoding

section Table

variable {table table' : XGraphicsContextTable} {ns : NamespaceId} {id : XResourceId}
  {record : XGraphicsContextRecord} {rectangles : List Rect}

/-- The context is in the table, with these rectangles as its clip. -/
def Clips (table : XGraphicsContextTable) (id : XResourceId) (rectangles : List Rect) : Prop :=
  ∃ record, table.records[id]? = some record ∧ record.values.clipRectangles = rectangles

theorem getElem?_put {other : XGraphicsContextRecord} :
    (table.put other).records[id]? = if other.id = id then some other else table.records[id]? := by
  simp only [ObjectTable.put, ExtTreeMap.getElem?_insert, Std.compare_eq_iff_eq]
  rfl

/-- A change of one context puts its record in the place of the old one. -/
theorem modify_eq_ok {other : XResourceId} {f : XGraphicsContextValues → XGraphicsContextValues}
    (h : table.modify ns other f = .ok table') :
    ∃ found, table.records[other]? = some found ∧
      ∀ id : XResourceId, table'.records[id]? = if other = id then
        some { found with values := f found.values } else table.records[id]? := by
  unfold XGraphicsContextTable.modify at h
  obtain ⟨found, hfound, rfl⟩ := Fallible.map_eq_ok.mp h
  have hat := (ObjectTable.get_eq_ok.mp hfound).1
  have hid : found.id = other := table.keyed other found hat
  refine ⟨found, hat, fun id => ?_⟩
  rw [getElem?_put]
  exact if_congr (by rw [hid]) rfl rfl

theorem clips_setClipRectangles (h : table.setClipRectangles ns id rectangles = .ok table') :
    Clips table' id rectangles := by
  obtain ⟨found, -, hnext⟩ := modify_eq_ok h
  exact ⟨_, by rw [hnext, if_pos rfl], rfl⟩

theorem Clips.apply (h : Clips table id rectangles) {call : GcCall} (hcall : ¬ call.Resets id)
    (happly : call.apply table = .ok table') : Clips table' id rectangles := by
  obtain ⟨record, hget, hclip⟩ := h
  cases call with
  | create ns other drawable values =>
    have hne : other ≠ id := hcall
    simp only [GcCall.apply, XGraphicsContextTable.create] at happly
    split at happly
    · cases happly
    split at happly
    · cases happly
    cases happly
    exact ⟨record, by rw [getElem?_put, if_neg hne, hget], hclip⟩
  | setClipRectangles ns other rectangles' =>
    have hne : other ≠ id := hcall
    obtain ⟨found, -, hnext⟩ :=
      modify_eq_ok (f := ({ · with clipRectangles := rectangles' })) happly
    exact ⟨record, by rw [hnext, if_neg hne, hget], hclip⟩
  | remove ns other =>
    have hne : other ≠ id := hcall
    obtain ⟨found, -, rfl⟩ := Fallible.map_eq_ok.mp happly
    exact ⟨record, by rw [ObjectTable.getElem?_erase, if_neg hne, hget], hclip⟩
  | change ns other mask values =>
    obtain ⟨found, hfound, hnext⟩ := modify_eq_ok (f := (·.change mask values)) happly
    by_cases he : other = id
    · subst he
      rw [hfound] at hget
      cases hget
      exact ⟨{ record with values := record.values.change mask values },
        by rw [hnext, if_pos rfl], hclip⟩
    · exact ⟨record, by rw [hnext, if_neg he, hget], hclip⟩

/-- A context keeps its clip until a request resets it. -/
theorem Clips.step (h : Clips table id rectangles) {call : GcCall} (hcall : ¬ call.Resets id) :
    Clips (call.step table) id rectangles := by
  unfold GcCall.step
  split
  · rename_i next happly
    exact h.apply hcall happly
  · exact h

theorem Clips.exec (h : Clips table id rectangles) {later : List GcCall}
    (hlater : ∀ call ∈ later, ¬ call.Resets id) :
    Clips (Run.exec GcCall.step table later) id rectangles := by
  induction later generalizing table with
  | nil => exact h
  | cons call later ih =>
    exact ih (h.step (hlater call List.mem_cons_self))
      fun other hother => hlater other (List.mem_cons_of_mem call hother)

/-- For every context and all rectangles accepted as its clip, a later draw through it obeys the
clip law on all buffers of a size exactly when the clip agrees with the request's origin there. -/
theorem set_clip_rectangles_iff {size : Size}
    (hset : table.setClipRectangles ns id rectangles = .ok table') (later : List GcCall)
    (hlater : ∀ call ∈ later, ¬ call.Resets id)
    (hget : (Run.exec GcCall.step table' later).get ns id = .ok record) (hsize : Sized size)
    (xOrigin yOrigin : Int16) (draw : GcDraw) :
    (∀ buffer : XAuthorityCpuBufferSnapshot, buffer.size = size →
      ClipLaw record.values rectangles xOrigin yOrigin draw buffer) ↔
      ClipAgrees record.values rectangles xOrigin yOrigin draw size := by
  obtain ⟨found, hfound, hclip⟩ := (clips_setClipRectangles hset).exec hlater
  have hat := (ObjectTable.get_eq_ok.mp hget).1
  rw [hfound] at hat
  cases hat
  exact clip_law_iff hclip hsize

section Origins

def gcContext : XWireClientContext := ⟨.littleEndian, ⟨1⟩, ⟨1⟩, none⟩

/-- A table with one context, of default values. -/
def oneGc : XGraphicsContextTable :=
  GcCall.step .new (.create ⟨1⟩ (.new 1 1) (.new 2 1) {})

/-- A fill of two pixels through a clip of one. -/
theorem set_clip_rectangles_one :
    ∃ table' record, oneGc.setClipRectangles ⟨1⟩ (.new 1 1) [⟨0, 0, 1, 1⟩] = .ok table' ∧
      (Run.exec GcCall.step table' []).get ⟨1⟩ (.new 1 1) = .ok record ∧
      ∀ buffer : XAuthorityCpuBufferSnapshot, buffer.size = ⟨2, 1⟩ →
        ClipLaw record.values [⟨0, 0, 1, 1⟩] 0 0 (.fill [⟨0, 0, 2, 1⟩]) buffer := by
  obtain ⟨table', record, hset, hget, hvalues⟩ : ∃ table' record,
      oneGc.setClipRectangles ⟨1⟩ (.new 1 1) [⟨0, 0, 1, 1⟩] = .ok table' ∧
        (Run.exec GcCall.step table' []).get ⟨1⟩ (.new 1 1) = .ok record ∧
        record.values = { clipRectangles := [⟨0, 0, 1, 1⟩] } := ⟨_, _, rfl, rfl, rfl⟩
  refine ⟨table', record, hset, hget, ?_⟩
  refine (set_clip_rectangles_iff hset [] (by simp) hget (by decide) 0 0 _).mpr ?_
  rw [hvalues]
  refine clipAgrees_of_origin (by simp) rfl rfl fun p => ?_
  rw [sourcesOn, List.length_map]
  exact List.length_filter_le _ _

/-- A clip of one pixel at the origin one to the right: the pixel to its left is painted. -/
def shiftedClip : List UInt8 := [59, 0, 5, 0, 1, 0, 0, 0, 1, 0, 0, 0, 0, 0, 0, 0, 1, 0, 1, 0]

theorem clip_origin_lost :
    ∃ clip table' record, decodeSetClipRectangles gcContext shiftedClip = .ok clip ∧
      oneGc.setClipRectangles gcContext.namespaceId clip.gc clip.rectangles = .ok table' ∧
      table'.get gcContext.namespaceId clip.gc = .ok record ∧
      ¬ ∀ buffer : XAuthorityCpuBufferSnapshot, buffer.size = ⟨2, 1⟩ →
        ClipLaw record.values clip.rectangles (clipOrigin gcContext shiftedClip).1
          (clipOrigin gcContext shiftedClip).2 (.fill [⟨0, 0, 2, 1⟩]) buffer := by
  refine ⟨_, _, _, rfl, rfl, rfl, fun h => ?_⟩
  have hagrees := (clip_law_iff rfl (by decide)).mp h (0, 0) (by decide) 0 (by decide)
  have hout := hagrees.1.mpr (by decide)
  revert hout
  decide

end Origins
end Table
end Sophia.Frontend
