import Mathlib.Algebra.GroupWithZero.Nat
import Mathlib.Algebra.Order.BigOperators.Group.List
import Mathlib.Algebra.Order.Group.Nat
import Sophia.Frontend.OutputFraming

/-! Which replies tell their own length. -/
namespace Sophia.Frontend

open Protocol Authority

section Bodies

variable {order : XByteOrder} {low high length offset n : ℕ} {value : UInt16}

theorem le_paddedLen (n : ℕ) : n ≤ paddedLen n := by
  unfold paddedLen
  omega

theorem paddedLen_mod (n : ℕ) : paddedLen n % 4 = 0 := by
  unfold paddedLen
  omega

/-- Padding behind words pads what comes after them. -/
theorem paddedLen_add (hn : n % 4 = 0) (m : ℕ) : paddedLen (n + m) = n + paddedLen m := by
  unfold paddedLen
  omega

@[simp] theorem length_pushU16 : (pushU16 order value).length = 2 := length_bytes

@[simp] theorem length_pushU32 {value : UInt32} : (pushU32 order value).length = 4 := length_bytes

@[simp] theorem length_pushI64 {value : Int64} : (pushI64 order value).length = 8 := length_bytes

/-- Items of one size are as long as their number says. -/
theorem length_flatMap_of_eq {α β : Type} {items : List α} {bytes : α → List β} {size : ℕ}
    (h : ∀ item ∈ items, (bytes item).length = size) :
    (items.flatMap bytes).length = size * items.length := by
  rw [List.length_flatMap, List.map_congr_left h, List.map_const', List.sum_replicate_nat,
    Nat.mul_comm]

theorem length_pushAll (values : List UInt32) :
    (values.flatMap (pushU32 order)).length = 4 * values.length :=
  length_flatMap_of_eq fun _ _ => length_pushU32

end Bodies

section Places

variable {order : XByteOrder} {low high length offset : ℕ} {values : List UInt8}
  {field : Layout.Field UInt8}

theorem inPlace_of_within (h : field.Within offset high) (hlow : low ≤ offset)
    (hhigh : high ≤ length) : InPlace low length field :=
  ⟨Or.inr (Nat.le_trans hlow h.1), Nat.le_trans h.2 hhigh⟩

/-- A field of bytes behind the header. -/
@[simp] theorem inPlace_bytes :
    InPlace 8 length ⟨offset + 8, values⟩ ↔ offset + 8 + values.length ≤ length := by
  refine ⟨fun h => h.2, fun h => ⟨Or.inr ?_, h⟩⟩
  show 8 ≤ offset + 8
  omega

/-- Fields of one item after the other are in their places when there is room for them all. -/
theorem inPlace_each {α : Type} {size : α → ℕ} {fields : ℕ → α → List (Layout.Field UInt8)}
    {items : List α} (hitems : ∀ offset, ∀ item ∈ items, ∀ field ∈ fields offset item,
      field.Within offset (offset + size item)) (hlow : low ≤ offset)
    (hroom : offset + (items.map size).sum ≤ length) :
    ∀ field ∈ Layout.each size fields offset items, InPlace low length field :=
  fun field hm => inPlace_of_within (Layout.within_each hitems field hm) hlow hroom

theorem sum_map_const {α : Type} (size : ℕ) (items : List α) :
    (items.map fun _ => size).sum = size * items.length := by
  rw [List.map_const', List.sum_replicate_nat, Nat.mul_comm]

@[simp] theorem within_putU8 {value : UInt8} :
    (putU8 offset value).Within low high ↔ low ≤ offset ∧ offset + 1 ≤ high := Iff.rfl

@[simp] theorem within_putU16 {value : UInt16} :
    (putU16 order offset value).Within low high ↔ low ≤ offset ∧ offset + 2 ≤ high := by
  rw [Layout.Field.Within, stop_putU16]
  rfl

@[simp] theorem within_putI16 {value : Int16} :
    (putI16 order offset value).Within low high ↔ low ≤ offset ∧ offset + 2 ≤ high :=
  within_putU16

@[simp] theorem within_putU32 {value : UInt32} :
    (putU32 order offset value).Within low high ↔ low ≤ offset ∧ offset + 4 ≤ high := by
  rw [Layout.Field.Within, stop_putU32]
  rfl

@[simp] theorem within_putU64 {value : UInt64} :
    (putU64 order offset value).Within low high ↔ low ≤ offset ∧ offset + 8 ≤ high := by
  rw [Layout.Field.Within, stop_putU64]
  rfl

theorem within_putIds (ids : List UInt32) :
    ∀ field ∈ putIds order offset ids, field.Within offset (offset + 4 * ids.length) := by
  rw [← sum_map_const]
  refine Layout.within_each fun offset id _ => ?_
  simp

theorem inPlace_putIds {ids : List UInt32} (hlow : low ≤ offset)
    (hroom : offset + 4 * ids.length ≤ length) :
    ∀ field ∈ putIds order offset ids, InPlace low length field :=
  fun field hm => inPlace_of_within (within_putIds ids field hm) hlow hroom

theorem inPlace_putPairs {pairs : List (UInt32 × UInt32)} (hlow : low ≤ offset)
    (hroom : offset + 8 * pairs.length ≤ length) :
    ∀ field ∈ putPairs order offset pairs, InPlace low length field := by
  rw [← sum_map_const] at hroom
  refine inPlace_each (fun offset pair _ => ?_) hlow hroom
  simp

theorem inPlace_putFontNames {names : List String}
    (hroom : 32 + (names.map fun name => 1 + name.utf8ByteSize).sum ≤ length) :
    ∀ field ∈ putFontNames names, InPlace 8 length field := by
  refine inPlace_each (fun offset name _ => ?_) (by omega) hroom
  simp [Layout.Field.Within, Layout.Field.stop, Codec.length_utf8Bytes, putU8]
  omega

theorem inPlace_putModifiers {modifiers : List UInt64}
    (hroom : 32 + 8 * modifiers.length ≤ length) :
    ∀ field ∈ putModifiers order modifiers, InPlace 8 length field := by
  rw [← sum_map_const] at hroom
  refine inPlace_each (fun offset modifier _ => ?_) (by omega) hroom
  simp

theorem inPlace_putColors {pixels : List UInt32} (hroom : 32 + 8 * pixels.length ≤ length) :
    ∀ field ∈ putColors order pixels, InPlace 8 length field := by
  rw [← sum_map_const] at hroom
  refine inPlace_each (fun offset pixel _ => ?_) (by omega) hroom
  simp

theorem inPlace_putScreenResources {ids : List UInt32} {modes : List XRandrModeInfo}
    (hroom : 32 + (4 * ids.length + 32 * modes.length +
      (modes.map fun mode => mode.name.length).sum) ≤ length) :
    ∀ field ∈ putScreenResources order ids modes, InPlace 8 length field := by
  have hmodes : (modes.map fun _ => 32).sum = 32 * modes.length := sum_map_const 32 modes
  simp only [putScreenResources, List.forall_mem_append]
  refine ⟨⟨inPlace_putIds (by omega) (by omega), ?_⟩, ?_⟩
  · refine inPlace_each (fun offset mode _ => ?_) (by omega) (by omega)
    simp [putMode]
  · refine inPlace_each (fun offset mode _ => ?_) (by omega) (by omega)
    simp [Layout.Field.Within, Layout.Field.stop]

theorem inPlace_putMonitors {monitors : List XRandrMonitorInfo}
    (hroom : 32 + (monitors.map fun monitor => 24 + monitor.outputs.length * 4).sum ≤ length) :
    ∀ field ∈ Layout.each (fun monitor => 24 + monitor.outputs.length * 4) (putMonitor order) 32
      monitors, InPlace 8 length field := by
  refine inPlace_each (fun offset monitor _ => ?_) (by omega) hroom
  have houtputs : ∀ field ∈ putIds order (offset + 24) monitor.outputs,
      field.Within (offset + 24) (offset + 24 + 4 * monitor.outputs.length) :=
    within_putIds monitor.outputs
  simp only [putMonitor, List.forall_mem_append]
  refine ⟨?_, fun field hm => ?_⟩
  · simp
    omega
  · obtain ⟨hlow, hhigh⟩ := houtputs field hm
    exact ⟨by omega, by omega⟩

end Places

section Lengths

/-- How many bytes a class of a device takes. -/
def XXiDeviceClass.len : XXiDeviceClass → ℕ
  | .key _ keys => 8 + 4 * keys.length
  | .button _ buttonCount => 12 + 4 * buttonCount.toNat
  | .valuator _ _ _ _ => 44

/-- The words of a class with buttons are counted in 16 bits. -/
def XXiDeviceClass.Countable : XXiDeviceClass → Prop
  | .button _ buttonCount => 3 + buttonCount.toNat < UInt16.size
  | _ => True

def XXiDeviceInfo.len (device : XXiDeviceInfo) : ℕ :=
  12 + paddedLen device.name.utf8ByteSize + (device.classes.map XXiDeviceClass.len).sum

/-- How many bytes a reply has beyond the ones that every reply of its kind has. -/
def XClientReplyContent.variableLen : XClientReplyContent → ℕ
  | .getAtomName name => paddedLen name.utf8ByteSize
  | .getImage _ _ data => paddedLen data.length
  | .queryTree _ _ children => children.length * 4
  | .listFonts names => paddedLen (names.map fun name => 1 + name.utf8ByteSize).sum
  | .dri3GetSupportedModifiers windowModifiers screenModifiers =>
    (windowModifiers.length + screenModifiers.length) * 8
  | .randrGetScreenResources _ crtcs outputs modes =>
    paddedLen (crtcs.length * 4 + outputs.length * 4 + modes.length * 32 +
      (modes.map fun mode => mode.name.length).sum)
  | .randrGetOutputInfo _ _ _ _ crtcs modes name =>
    4 + paddedLen (crtcs.length * 4 + modes.length * 4 + name.length)
  | .randrGetOutputProperty _ _ _ data => paddedLen data.length
  | .randrGetCrtcInfo _ _ _ _ _ _ outputs => outputs.length * 8
  | .randrGetMonitors _ monitors =>
    (monitors.map fun monitor => 24 + monitor.outputs.length * 4).sum
  | .glxString value => paddedLen (value.utf8ByteSize + 1)
  | .glxVisualConfigs configs => configs.length * 18 * 4
  | .glxFbConfigs configs => configs.flatten.length * 8
  | .glxDrawableAttributes attributes => attributes.length * 8
  | .xkbGetMap present keysyms modifierMap =>
    8 + (if present &&& 1 ≠ 0 then 64 else 0) +
      (if present &&& 2 ≠ 0 then 16 * keysyms.length else 0) +
      (if present &&& 0x10 ≠ 0 then paddedLen keysyms.length else 0) +
      (if present &&& 4 ≠ 0 then paddedLen (2 * modifierMap.length) else 0)
  | .xkbGetNames which _ _ componentAtoms typeAtoms keyNames =>
    4 * componentAtoms.length + (if which &&& 0x40 ≠ 0 then 4 * typeAtoms.length else 0) +
      (if which &&& 0x80 ≠ 0 then paddedLen typeAtoms.length + 8 * typeAtoms.length else 0) +
      (if which &&& 0x200 ≠ 0 then 4 * keyNames.length else 0)
  | .xiQueryDevice devices => (devices.map XXiDeviceInfo.len).sum
  | .getModifierMapping _ keycodes => paddedLen keycodes.length
  | .getKeyboardMapping _ keysyms => keysyms.length * 4
  | .getProperty _ _ _ _ bytes => paddedLen bytes.length
  | .listProperties atoms => atoms.length * 4
  | .queryColors pixels => pixels.length * 8
  | _ => 0

/-- A reply that its length field can tell the words of. -/
def XClientReplyContent.Representable : XClientReplyContent → Prop
  | .listFontsWithInfo names => ∀ name ∈ names, 28 + paddedLen name.utf8ByteSize < 4 * UInt32.size
  | .xiQueryDevice devices =>
    (devices.map XXiDeviceInfo.len).sum < 4 * UInt32.size ∧
      ∀ device ∈ devices, ∀ kind ∈ device.classes, kind.Countable
  | content => content.variableLen < 4 * UInt32.size

end Lengths

section Replies

variable {order : XByteOrder} {sequence : UInt16} {n : ℕ} {fields : List (Layout.Field UInt8)}

theorem frames_tryU32_iff {default : UInt32} (hn : n % 4 = 0)
    (h : ∀ field ∈ fields, InPlace 8 (32 + n) field) :
    Frames order sequence (reply order sequence (tryU32 (n / 4 : ℕ) default) (32 + n) fields) ↔
      n < 4 * UInt32.size := by
  rw [frames_reply_iff (by omega) h, tells_tryU32 hn]

theorem frames_ofNat_iff (hn : n % 4 = 0) (h : ∀ field ∈ fields, InPlace 8 (32 + n) field) :
    Frames order sequence (reply order sequence (.ofNat (n / 4)) (32 + n) fields) ↔
      n < 4 * UInt32.size := by
  rw [frames_reply_iff (by omega) h, tells_ofNat hn]

theorem frames_fontInfo_iff (fontAscent fontDescent : Int16) (name : Option (List UInt8)) :
    Frames order sequence (encodeFontInfoReply order sequence fontAscent fontDescent name) ↔
      28 + paddedLen (name.getD []).length < 4 * UInt32.size := by
  have hmod := paddedLen_mod (name.getD []).length
  have hname := le_paddedLen (name.getD []).length
  have hunits : 7 + paddedLen (name.getD []).length / 4 =
      (28 + paddedLen (name.getD []).length) / 4 := by omega
  have hlength : 60 + paddedLen (name.getD []).length =
      32 + (28 + paddedLen (name.getD []).length) := by omega
  unfold encodeFontInfoReply
  simp only [hunits, hlength]
  refine frames_tryU32_iff (by omega) ?_
  simp
  omega

/-- Bytes padded behind a body of words make it longer by as many words. -/
theorem length_padded {body bytes : List UInt8} (hbody : body.length % 4 = 0) :
    ((body ++ bytes).takeD (paddedLen (body ++ bytes).length) 0).length =
      body.length + paddedLen bytes.length := by
  rw [List.takeD_length, List.length_append, paddedLen_add hbody]

theorem length_ite {p : Prop} [Decidable p] {body next : List UInt8} {k : ℕ}
    (h : next.length = body.length + k) :
    (if p then next else body).length = body.length + if p then k else 0 := by
  split
  · exact h
  · rfl

theorem length_xkbMapBody (present : UInt16) (keysyms : List (Vector UInt32 2))
    (modifierMap : List (UInt8 × UInt8)) :
    8 + (xkbMapBody order present keysyms modifierMap).length =
      (XClientReplyContent.xkbGetMap present keysyms modifierMap).variableLen := by
  unfold xkbMapBody
  extract_lets types listed counted acted mapped
  have htypes : types.length = if present &&& 1 ≠ 0 then 64 else 0 := by
    refine (length_ite ?_).trans (Nat.zero_add _)
    rw [List.length_flatten, List.map_replicate, List.sum_replicate_nat]
    simp
  have hlisted : listed.length = types.length +
      if present &&& 2 ≠ 0 then 16 * keysyms.length else 0 := by
    refine length_ite (List.length_append.trans (congrArg _ (length_flatMap_of_eq ?_)))
    simp
  have hmod : listed.length % 4 = 0 := by
    rw [hlisted, htypes]
    split <;> split <;> omega
  have hacted : acted.length = listed.length +
      if present &&& 0x10 ≠ 0 then paddedLen keysyms.length else 0 := by
    refine length_ite ?_
    rw [List.takeD_length, List.takeD_length, paddedLen_add hmod]
  have hpairs : (modifierMap.flatMap fun entry => [entry.1, entry.2]).length =
      2 * modifierMap.length := length_flatMap_of_eq fun _ _ => rfl
  have hacted_mod : acted.length % 4 = 0 := by
    have hpadded := paddedLen_mod keysyms.length
    rw [hacted]
    split <;> omega
  rw [length_ite (length_padded hacted_mod), hpairs, hacted, hlisted, htypes]
  simp only [← Nat.add_assoc]
  rfl

theorem length_xkbNamesBody (which : UInt32) (minKeycode maxKeycode : UInt8)
    (componentAtoms typeAtoms : List UInt32) (keyNames : List (Vector UInt8 4)) :
    (xkbNamesBody order which componentAtoms typeAtoms keyNames).length =
      (XClientReplyContent.xkbGetNames which minKeycode maxKeycode componentAtoms typeAtoms
        keyNames).variableLen := by
  unfold xkbNamesBody
  extract_lets components types counted levels
  have hcomponents : components.length = 4 * componentAtoms.length := length_pushAll componentAtoms
  have htypes : types.length = components.length +
      if which &&& 0x40 ≠ 0 then 4 * typeAtoms.length else 0 :=
    length_ite (List.length_append.trans (congrArg _ (length_pushAll typeAtoms)))
  have hmod : types.length % 4 = 0 := by
    rw [htypes]
    split <;> omega
  have hlevels : levels.length = types.length +
      if which &&& 0x80 ≠ 0 then paddedLen typeAtoms.length + 8 * typeAtoms.length else 0 := by
    refine length_ite ?_
    have hnone : ((List.replicate (typeAtoms.length * 2) (pushU32 order 0)).flatten).length =
        8 * typeAtoms.length := by
      rw [List.length_flatten, List.map_replicate, List.sum_replicate_nat, length_pushU32]
      omega
    rw [List.length_append, hnone, length_padded hmod, List.length_replicate, Nat.add_assoc]
  have hkeys : (keyNames.flatMap Vector.toList).length = 4 * keyNames.length :=
    length_flatMap_of_eq fun name _ => name.length_toList
  rw [length_ite (List.length_append.trans (congrArg _ hkeys)), hlevels, htypes, hcomponents]
  rfl

theorem sum_mod {α : Type} {items : List α} {len : α → ℕ}
    (h : ∀ item ∈ items, len item % 4 = 0) : (items.map len).sum % 4 = 0 := by
  induction items with
  | nil => rfl
  | cons item items ih =>
    obtain ⟨hitem, hitems⟩ := List.forall_mem_cons.mp h
    have hrest := ih hitems
    rw [List.map_cons, List.sum_cons]
    omega

theorem XXiDeviceInfo.len_mod (device : XXiDeviceInfo) : device.len % 4 = 0 := by
  have hname := paddedLen_mod device.name.utf8ByteSize
  have hclasses : (device.classes.map XXiDeviceClass.len).sum % 4 = 0 := by
    refine sum_mod fun kind _ => ?_
    cases kind <;> simp only [XXiDeviceClass.len] <;> omega
  unfold XXiDeviceInfo.len
  omega

/-- Whatever it has, it has whole words. -/
theorem variableLen_mod (content : XClientReplyContent) : content.variableLen % 4 = 0 := by
  cases content with
  | xiQueryDevice devices => exact sum_mod fun device _ => device.len_mod
  | randrGetMonitors timestamp monitors =>
    refine sum_mod fun monitor _ => ?_
    omega
  | xkbGetMap present keysyms modifierMap =>
    have hactions := paddedLen_mod keysyms.length
    have hmodifiers := paddedLen_mod (2 * modifierMap.length)
    simp only [XClientReplyContent.variableLen]
    split_ifs <;> omega
  | xkbGetNames which minKeycode maxKeycode componentAtoms typeAtoms keyNames =>
    have htypes := paddedLen_mod typeAtoms.length
    simp only [XClientReplyContent.variableLen]
    split_ifs <;> omega
  | _ =>
    first
    | rfl
    | simp only [XClientReplyContent.variableLen, paddedLen]
      omega

theorem frames_xkbMap_iff (present : UInt16) (keysyms : List (Vector UInt32 2))
    (modifierMap : List (UInt8 × UInt8)) :
    Frames order sequence (encodeXkbMap order sequence present keysyms modifierMap) ↔
      (XClientReplyContent.xkbGetMap present keysyms modifierMap).variableLen <
        4 * UInt32.size := by
  have hmod := variableLen_mod (.xkbGetMap present keysyms modifierMap)
  unfold encodeXkbMap
  extract_lets types syms actions modmap body replyUnits
  have hlength : 8 + body.length =
      (XClientReplyContent.xkbGetMap present keysyms modifierMap).variableLen :=
    length_xkbMapBody present keysyms modifierMap
  rw [← hlength] at hmod ⊢
  have hunits : 8 + body.length = 4 * replyUnits := by
    show 8 + body.length = 4 * ((8 + body.length) / 4)
    omega
  by_cases hfits : replyUnits < UInt32.size
  · rw [if_pos hfits, frames_append_iff (by omega) (by simp), UInt32.toNat_ofNat_of_lt' hfits]
    exact iff_of_true (by omega) (by omega)
  · rw [if_neg hfits]
    exact iff_of_false not_frames_none (by omega)

/-- The beginning of a record stays the same while only what is behind it changes. -/
theorem Begins.of_kept {kind : UInt8} {words units : ℕ} {record next : List UInt8}
    (h : Begins order kind sequence words record) (hkept : ∀ i < 4, next[i]? = record[i]?)
    (hwords : (Blit.slice? next 4 8).map order.number = some units) :
    Begins order kind sequence units next := by
  have hkind : Blit.slice? next 0 (0 + 1) = Blit.slice? record 0 (0 + 1) :=
    Blit.slice?_congr Nat.one_pos fun i hi => hkept (0 + i) (by omega)
  have hsequence : Blit.slice? next 2 (2 + 2) = Blit.slice? record 2 (2 + 2) :=
    Blit.slice?_congr Nat.two_pos fun i hi => hkept (2 + i) (by omega)
  exact ⟨hkind.trans h.kind_eq, hsequence.trans h.sequence_eq, hwords⟩

theorem Begins.of_unchanged {kind : UInt8} {words : ℕ} {record next : List UInt8}
    (h : Begins order kind sequence words record) (hkept : ∀ i < 8, next[i]? = record[i]?) :
    Begins order kind sequence words next := by
  refine h.of_kept (fun i hi => hkept i (by omega)) ?_
  have hslice : Blit.slice? next 4 (4 + 4) = Blit.slice? record 4 (4 + 4) :=
    Blit.slice?_congr (by omega) fun i hi => hkept (4 + i) (by omega)
  exact (congrArg (Option.map order.number) hslice).trans h.words_eq

/-- A reply whose length field is written again tells the length that is written last. -/
theorem frames_patched_iff {words units : ℕ} {record : List UInt8}
    (h : Begins order 1 sequence words record) (hlength : record.length = 32 + 4 * units) :
    Frames order sequence (Layout.write record [putU32 order 4 (.ofNat units)]) ↔
      units < UInt32.size := by
  have hstop : (putU32 order 4 (.ofNat units)).stop = 8 := stop_putU32 _
  have hin : ∀ field ∈ [putU32 order 4 (.ofNat units)], field.stop ≤ record.length := by
    rw [List.forall_mem_singleton]
    omega
  obtain ⟨next, hnext, hsize, hkept⟩ := Layout.exists_write hin
  have hwritten : Layout.write record ([] ++ putU32 order 4 (.ofNat units) :: []) = some next :=
    hnext
  have hbegins : Begins order 1 sequence (UInt32.ofNat units).toNat next := by
    have hnone : ∀ field ∈ ([] : List (Layout.Field UInt8)), InPlace 8 8 field :=
      List.forall_mem_nil _
    refine h.of_kept (fun i hi => hkept i ?_) (words_of_write hwritten hin hnone)
    exact List.forall_mem_singleton.mpr (Or.inl hi)
  have hcomplete : CompleteRecord order sequence next ↔
      next.length = 32 + 4 * (UInt32.ofNat units).toNat := hbegins.complete_iff
  have htells := tells_ofNat (n := 4 * units) (by omega)
  rw [Nat.mul_div_cancel_left units (by omega)] at htells
  rw [hnext, frames_some_iff, hcomplete, hsize, hlength, htells]
  omega

theorem frames_outputInfo_iff (timestamp crtc mmWidth mmHeight : UInt32) (crtcs modes : List UInt32)
    (name : List UInt8) :
    Frames order sequence
        (encodeOutputInfo order sequence timestamp crtc mmWidth mmHeight crtcs modes name) ↔
      (XClientReplyContent.randrGetOutputInfo timestamp crtc mmWidth mmHeight crtcs modes
        name).variableLen < 4 * UInt32.size := by
  have hmod := paddedLen_mod (crtcs.length * 4 + modes.length * 4 + name.length)
  show _ ↔ 4 + paddedLen (crtcs.length * 4 + modes.length * 4 + name.length) < 4 * UInt32.size
  unfold encodeOutputInfo
  generalize paddedLen (crtcs.length * 4 + modes.length * 4 + name.length) = padded at hmod ⊢
  have hfields : ∀ field ∈ [putU8 1 0, putU32 order 8 timestamp, putU32 order 12 crtc,
      putU32 order 16 mmWidth, putU32 order 20 mmHeight, putU8 24 0, putU8 25 0,
      putU16 order 26 (.ofNat crtcs.length), putU16 order 28 (.ofNat modes.length),
      putU16 order 30 (!modes.isEmpty).toUInt16], InPlace 8 (32 + padded) field := by
    simp
    omega
  obtain ⟨header, hheader, hsize, hbegins⟩ : ∃ record, reply order sequence
      (.ofNat (padded / 4)) (32 + padded) _ = some record ∧ record.length = 32 + padded ∧
        Begins order 1 sequence (UInt32.ofNat (padded / 4)).toNat record :=
    exists_reply (by omega) hfields
  have hroom : (header ++ [0, 0, 0, 0]).length = 36 + padded := by
    rw [List.length_append, hsize, List.length_cons, List.length_cons, List.length_cons,
      List.length_singleton]
    omega
  have hin : ∀ field ∈ [putU16 order 34 (.ofNat name.length)],
      field.stop ≤ (header ++ [0, 0, 0, 0]).length := by
    rw [List.forall_mem_singleton, stop_putU16]
    omega
  obtain ⟨named, hnamed, hnamed_length, hkept⟩ := Layout.exists_write hin
  simp only [hheader, Option.bind_eq_bind, Option.bind_some, hnamed]
  have hpayload := List.takeD_length padded ((crtcs ++ modes).flatMap (pushU32 order) ++ name) 0
  generalize ((crtcs ++ modes).flatMap (pushU32 order) ++ name).takeD padded 0 = payload
    at hpayload ⊢
  have htake : (named.take 36).length = 36 := by
    rw [List.length_take]
    omega
  have hwhole : (named.take 36 ++ payload).length = 32 + 4 * (1 + padded / 4) := by
    rw [List.length_append, htake, hpayload]
    omega
  have hunits : ((named.take 36 ++ payload).length - 32 + 3) / 4 = 1 + padded / 4 := by omega
  have hall : (named.take 36 ++ payload).takeD (32 + (1 + padded / 4) * 4) 0 =
      named.take 36 ++ payload := by
    rw [List.takeD_eq_take _ (by omega), List.take_of_length_le (by omega)]
  have hunchanged : ∀ i < 8, (named.take 36 ++ payload)[i]? = (header ++ [0, 0, 0, 0])[i]? := by
    intro i hi
    rw [List.getElem?_append_left (by omega), List.getElem?_take_of_lt (by omega)]
    refine hkept i (List.forall_mem_singleton.mpr (Or.inl ?_))
    show i < 34
    omega
  rw [hunits, hall, frames_patched_iff ((hbegins.append [0, 0, 0, 0]).of_unchanged hunchanged) hwhole]
  omega

theorem xiClassBytes_of_countable {kind : XXiDeviceClass} (h : kind.Countable) :
    ∃ bytes, xiClassBytes order kind = some bytes := by
  cases kind with
  | key sourceId keys => exact ⟨_, rfl⟩
  | button sourceId buttonCount => exact ⟨_, if_pos h⟩
  | valuator sourceId number min max => exact ⟨_, rfl⟩

theorem xiClassBytes_eq_some {kind : XXiDeviceClass} {bytes : List UInt8}
    (h : xiClassBytes order kind = some bytes) : kind.Countable ∧ bytes.length = kind.len := by
  cases kind with
  | key sourceId keys =>
    cases h
    refine ⟨trivial, ?_⟩
    simp [XXiDeviceClass.len]
    omega
  | button sourceId buttonCount =>
    obtain ⟨hcount, hbytes⟩ := Option.ite_none_right_eq_some.mp h
    cases hbytes
    refine ⟨hcount, ?_⟩
    simp [XXiDeviceClass.len]
    omega
  | valuator sourceId number min max =>
    cases h
    refine ⟨trivial, ?_⟩
    simp [XXiDeviceClass.len]

theorem xiPushDevice_of_countable {body : List UInt8} {device : XXiDeviceInfo}
    (h : ∀ kind ∈ device.classes, kind.Countable) :
    ∃ next, xiPushDevice order body device = some next := by
  have hclasses : (device.classes.mapM (xiClassBytes order)).isSome :=
    Fallible.mapM_isSome.mpr fun kind hm =>
      Option.isSome_iff_exists.mpr (xiClassBytes_of_countable (h kind hm))
  obtain ⟨classes, hclasses⟩ := Option.isSome_iff_exists.mp hclasses
  unfold xiPushDevice
  rw [hclasses]
  exact ⟨_, rfl⟩

theorem xiPushDevice_eq_some {body next : List UInt8} {device : XXiDeviceInfo}
    (hbody : body.length % 4 = 0) (h : xiPushDevice order body device = some next) :
    (∀ kind ∈ device.classes, kind.Countable) ∧ next.length = body.length + device.len := by
  unfold xiPushDevice at h
  obtain ⟨classes, hclasses, h⟩ := Option.bind_eq_some_iff.mp h
  cases h
  constructor
  · intro kind hm
    have hall := Fallible.mapM_isSome.mp (Option.isSome_iff_exists.mpr ⟨classes, hclasses⟩)
    obtain ⟨bytes, hbytes⟩ := Option.isSome_iff_exists.mp (hall kind hm)
    exact (xiClassBytes_eq_some hbytes).1
  · have hlengths : classes.map List.length = device.classes.map XXiDeviceClass.len :=
      Fallible.map_of_mapM_eq_some (fun _ _ hbytes => (xiClassBytes_eq_some hbytes).2) hclasses
    have hnamed := paddedLen_add (n := body.length + 12) (by omega) device.name.utf8ByteSize
    rw [List.length_append, List.takeD_length, List.length_flatten, hlengths]
    simp only [List.length_append, length_pushU16, Codec.length_utf8Bytes, List.length_cons,
      List.length_nil, XXiDeviceInfo.len]
    have hfixed : body.length + 2 + 2 + 2 + 2 + 2 + (0 + 1 + 1) = body.length + 12 := by omega
    rw [hfixed, hnamed]
    omega

theorem xiBody_of_countable {devices : List XXiDeviceInfo} {body : List UInt8}
    (h : ∀ device ∈ devices, ∀ kind ∈ device.classes, kind.Countable) :
    ∃ out, devices.foldlM (xiPushDevice order) body = some out := by
  induction devices generalizing body with
  | nil => exact ⟨body, rfl⟩
  | cons device devices ih =>
    obtain ⟨hdevice, hdevices⟩ := List.forall_mem_cons.mp h
    obtain ⟨next, hnext⟩ : ∃ next, xiPushDevice order body device = some next :=
      xiPushDevice_of_countable hdevice
    rw [List.foldlM_cons, hnext]
    exact ih hdevices

theorem xiBody_eq_some {devices : List XXiDeviceInfo} {body out : List UInt8}
    (hbody : body.length % 4 = 0) (h : devices.foldlM (xiPushDevice order) body = some out) :
    (∀ device ∈ devices, ∀ kind ∈ device.classes, kind.Countable) ∧
      out.length = body.length + (devices.map XXiDeviceInfo.len).sum := by
  induction devices generalizing body with
  | nil =>
    cases h
    exact ⟨List.forall_mem_nil _, rfl⟩
  | cons device devices ih =>
    rw [List.foldlM_cons] at h
    obtain ⟨next, hnext, h⟩ := Option.bind_eq_some_iff.mp h
    obtain ⟨hdevice, hlength⟩ := xiPushDevice_eq_some hbody hnext
    have hmod := device.len_mod
    obtain ⟨hdevices, hout⟩ := ih (by omega) h
    refine ⟨List.forall_mem_cons.mpr ⟨hdevice, hdevices⟩, ?_⟩
    rw [hout, hlength, List.map_cons, List.sum_cons]
    omega

theorem frames_xiQueryDevice_iff (devices : List XXiDeviceInfo) :
    Frames order sequence (encodeXClientReply order ⟨sequence, .xiQueryDevice devices⟩) ↔
      (XClientReplyContent.xiQueryDevice devices).Representable := by
  have hmod := variableLen_mod (.xiQueryDevice devices)
  unfold encodeXClientReply XClientReplyContent.Representable
  simp only [Option.bind_eq_bind]
  cases hbody : devices.foldlM (xiPushDevice order) [] with
  | none =>
    refine iff_of_false not_frames_none fun hrep => ?_
    obtain ⟨body, hsome⟩ : ∃ body, devices.foldlM (xiPushDevice order) [] = some body :=
      xiBody_of_countable hrep.2
    cases hbody.symm.trans hsome
  | some body =>
    obtain ⟨hcountable, hlength⟩ := xiBody_eq_some rfl hbody
    rw [List.length_nil, Nat.zero_add] at hlength
    have hunits := tells_tryU32 (n := body.length) (by rw [hlength]; exact hmod) 0
    have hframes : Frames order sequence ((reply order sequence
        (tryU32 (body.length / 4 : ℕ) 0) 32
        [putU8 1 48, putU16 order 8 (tryU16 devices.length 0)]).map (· ++ body)) ↔
          body.length < 4 * UInt32.size :=
      (frames_append_iff (by omega) (by simp)).trans hunits
    rw [← hlength]
    rw [Option.map_eq_bind] at hframes
    exact hframes.trans (and_iff_left hcountable).symm

/-- Numbers whose sum fits are added without overflow. -/
theorem exists_sumU32 {values : List UInt32}
    (h : (values.map UInt32.toNat).sum < UInt32.size) : ∃ sum, sumU32 values = some sum := by
  have hsum : ∀ start : UInt32, start.toNat + (values.map UInt32.toNat).sum < UInt32.size →
      ∃ sum, values.foldlM (fun sum value =>
        if sum.toNat + value.toNat < UInt32.size then some (sum + value) else none) start =
          some sum := by
    clear h
    induction values with
    | nil => exact fun start _ => ⟨start, rfl⟩
    | cons value values ih =>
      intro start hstart
      rw [List.map_cons, List.sum_cons] at hstart
      have hadd : (start + value).toNat = start.toNat + value.toNat := by
        rw [UInt32.toNat_add]
        exact Nat.mod_eq_of_lt (Nat.lt_of_le_of_lt (by omega) hstart)
      rw [List.foldlM_cons, if_pos (by omega)]
      exact ih (start + value) (by omega)
  exact hsum 0 (by simpa using h)

theorem sum_outputs_le (monitors : List XRandrMonitorInfo) :
    4 * ((monitors.map fun monitor => UInt32.ofNat monitor.outputs.length).map
      UInt32.toNat).sum ≤ (monitors.map fun monitor => 24 + monitor.outputs.length * 4).sum := by
  induction monitors with
  | nil => exact Nat.le_refl 0
  | cons monitor monitors ih =>
    have hle : (UInt32.ofNat monitor.outputs.length).toNat ≤ monitor.outputs.length := by
      rw [UInt32.toNat_ofNat']
      exact Nat.mod_le _ _
    simp only [List.map_cons, List.sum_cons] at ih ⊢
    omega

theorem frames_monitors_iff (timestamp : UInt32) (monitors : List XRandrMonitorInfo) :
    Frames order sequence
        (encodeXClientReply order ⟨sequence, .randrGetMonitors timestamp monitors⟩) ↔
      (XClientReplyContent.randrGetMonitors timestamp monitors).Representable := by
  have hmod := variableLen_mod (.randrGetMonitors timestamp monitors)
  unfold encodeXClientReply
  simp only [Option.bind_eq_bind]
  cases hsum : sumU32 (monitors.map fun monitor => .ofNat monitor.outputs.length) with
  | none =>
    refine iff_of_false not_frames_none fun hrep => ?_
    have hlt : (monitors.map fun monitor => 24 + monitor.outputs.length * 4).sum <
        4 * UInt32.size := hrep
    have houtputs := sum_outputs_le monitors
    obtain ⟨sum, hsome⟩ : ∃ sum, sumU32 (monitors.map fun monitor =>
      .ofNat monitor.outputs.length) = some sum := exists_sumU32 (by omega)
    cases hsum.symm.trans hsome
  | some sum =>
    refine frames_ofNat_iff hmod (List.forall_mem_append.mpr
      ⟨?_, inPlace_putMonitors (Nat.le_refl _)⟩)
    simp
    omega

/-- The rows of a table are as long as each other. -/
def XClientReplyContent.RowsEqual : XClientReplyContent → Prop
  | .glxFbConfigs configs => ∀ row ∈ configs, ∀ other ∈ configs, row.length = other.length
  | _ => True

theorem frames_fbConfigs_iff (configs : List (List (UInt32 × UInt32)))
    (hrows : (XClientReplyContent.glxFbConfigs configs).RowsEqual) :
    Frames order sequence (encodeXClientReply order ⟨sequence, .glxFbConfigs configs⟩) ↔
      (XClientReplyContent.glxFbConfigs configs).Representable := by
  have hmod := variableLen_mod (.glxFbConfigs configs)
  have hcount : configs.flatten.length =
      configs.length * (configs.head?.map List.length).getD 0 := by
    cases configs with
    | nil => rfl
    | cons row rows =>
      have hlengths : (row :: rows).map List.length = (row :: rows).map fun _ => row.length :=
        List.map_congr_left fun other hm => hrows other hm row List.mem_cons_self
      rw [List.length_flatten, hlengths, sum_map_const]
      exact Nat.mul_comm _ _
  unfold encodeXClientReply
  simp only [← hcount]
  refine frames_ofNat_iff hmod (List.forall_mem_append.mpr ⟨?_, inPlace_putPairs ?_ ?_⟩)
  · simp
    omega
  · omega
  · omega

/-- Every reply but a list of fonts is one record. -/
theorem frames_content_iff {content : XClientReplyContent} (hrows : content.RowsEqual)
    (hfonts : ∀ names, content ≠ .listFontsWithInfo names) :
    Frames order sequence (encodeXClientReply order ⟨sequence, content⟩) ↔
      content.Representable := by
  have hmod := variableLen_mod content
  have hnone : 0 < 4 * UInt32.size := by decide
  cases content with
  | listFontsWithInfo names => exact absurd rfl (hfonts names)
  | xiQueryDevice devices => exact frames_xiQueryDevice_iff devices
  | randrGetMonitors timestamp monitors => exact frames_monitors_iff timestamp monitors
  | glxFbConfigs configs => exact frames_fbConfigs_iff configs hrows
  | randrGetOutputInfo timestamp crtc mmWidth mmHeight crtcs modes name =>
    exact frames_outputInfo_iff timestamp crtc mmWidth mmHeight crtcs modes name
  | xkbGetMap present keysyms modifierMap =>
    exact frames_xkbMap_iff present keysyms modifierMap
  | xkbGetNames which minKeycode maxKeycode componentAtoms typeAtoms keyNames =>
    have hlength : (xkbNamesBody order which componentAtoms typeAtoms keyNames).length =
        (XClientReplyContent.xkbGetNames which minKeycode maxKeycode componentAtoms typeAtoms
          keyNames).variableLen :=
      length_xkbNamesBody which minKeycode maxKeycode componentAtoms typeAtoms keyNames
    rw [← hlength] at hmod
    refine (frames_append_iff (by omega) (by simp)).trans ?_
    rw [tells_tryU32 hmod, hlength]
    rfl
  | getAtomName name =>
    have hname := le_paddedLen name.utf8ByteSize
    refine frames_tryU32_iff hmod ?_
    simp [Codec.length_utf8Bytes]
    omega
  | getImage depth visual data =>
    have hdata := le_paddedLen data.length
    refine frames_tryU32_iff hmod ?_
    simp
    omega
  | queryTree root parent children =>
    refine frames_tryU32_iff hmod (List.forall_mem_append.mpr ⟨?_, inPlace_putIds ?_ ?_⟩)
    · simp
      omega
    · omega
    · rw [List.length_map]
      omega
  | listFonts names =>
    have hnames := le_paddedLen (names.map fun name => 1 + name.utf8ByteSize).sum
    refine frames_tryU32_iff hmod (List.forall_mem_cons.mpr ⟨?_, inPlace_putFontNames ?_⟩)
    · simp
      omega
    · exact Nat.add_le_add_left hnames 32
  | dri3GetSupportedModifiers windowModifiers screenModifiers =>
    have hunits : (windowModifiers.length + screenModifiers.length) * 2 =
        (windowModifiers.length + screenModifiers.length) * 8 / 4 := by omega
    unfold encodeXClientReply
    simp only [hunits]
    refine frames_tryU32_iff hmod (List.forall_mem_append.mpr ⟨?_, inPlace_putModifiers ?_⟩)
    · simp
      omega
    · rw [List.length_append]
      omega
  | randrGetScreenResources timestamp crtcs outputs modes =>
    refine frames_tryU32_iff hmod (List.forall_mem_append.mpr ⟨?_, inPlace_putScreenResources ?_⟩)
    · simp
      omega
    · have hpayload := le_paddedLen (crtcs.length * 4 + outputs.length * 4 + modes.length * 32 +
        (modes.map fun mode => mode.name.length).sum)
      rw [List.length_append]
      omega
  | randrGetOutputProperty propertyType bytesAfter format data =>
    have hdata := le_paddedLen data.length
    refine frames_ofNat_iff hmod ?_
    simp
    omega
  | randrGetCrtcInfo timestamp x y width height mode outputs =>
    refine frames_ofNat_iff hmod (List.forall_mem_append.mpr ⟨?_, inPlace_putIds ?_ ?_⟩)
    · simp
      omega
    · omega
    · rw [List.length_append]
      omega
  | glxString value =>
    have hlength : (Codec.utf8Bytes value ++ [0]).length = value.utf8ByteSize + 1 :=
      List.length_append
    have hvalue := le_paddedLen (value.utf8ByteSize + 1)
    unfold encodeXClientReply
    simp only [hlength]
    refine frames_tryU32_iff hmod ?_
    simp [hlength]
    omega
  | glxVisualConfigs configs =>
    have hconfigs : (configs.flatMap Vector.toList).length = 18 * configs.length :=
      length_flatMap_of_eq fun config _ => config.length_toList
    refine frames_ofNat_iff hmod (List.forall_mem_append.mpr ⟨?_, inPlace_putIds ?_ ?_⟩)
    · simp
      omega
    · omega
    · rw [hconfigs]
      omega
  | glxDrawableAttributes attributes =>
    refine frames_ofNat_iff hmod (List.forall_mem_cons.mpr ⟨?_, inPlace_putPairs ?_ ?_⟩)
    · simp
      omega
    · omega
    · omega
  | getModifierMapping keycodesPerModifier keycodes =>
    have hkeycodes := le_paddedLen keycodes.length
    refine frames_tryU32_iff hmod ?_
    simp
    omega
  | getKeyboardMapping keysymsPerKeycode keysyms =>
    refine frames_tryU32_iff hmod (List.forall_mem_cons.mpr ⟨?_, inPlace_putIds ?_ ?_⟩)
    · simp
      omega
    · omega
    · omega
  | getProperty propertyType format bytesAfter itemCount bytes =>
    have hbytes := le_paddedLen bytes.length
    refine frames_tryU32_iff hmod ?_
    simp
    omega
  | listProperties atoms =>
    have hunits := tells_tryU32 hmod 0
    rw [XClientReplyContent.variableLen, Nat.mul_div_cancel _ (by omega)] at hunits
    refine (frames_reply_iff (by omega) (List.forall_mem_cons.mpr ⟨?_, inPlace_putIds ?_ ?_⟩)).trans
      hunits
    · simp
      omega
    · omega
    · omega
  | queryColors pixels =>
    refine frames_tryU32_iff hmod (List.forall_mem_cons.mpr ⟨?_, inPlace_putColors ?_⟩)
    · simp
      omega
    · omega
  | getWindowAttributes visual colormap mapState overrideRedirect =>
    exact iff_of_true ((frames_reply_iff (by omega) (by simp)).mpr rfl) hnone
  | xkbGetControls =>
    exact iff_of_true ((frames_reply_iff (by omega) (by simp)).mpr rfl) hnone
  | xkbGetDeviceInfo deviceId supported unsupported =>
    exact iff_of_true ((frames_reply_iff (by omega) (by simp)).mpr rfl) hnone
  | xiQueryPointer root child =>
    exact iff_of_true ((frames_reply_iff (by omega) (by simp)).mpr rfl) hnone
  | getKeyboardControl =>
    exact iff_of_true ((frames_reply_iff (by omega) (by simp)).mpr rfl) hnone
  | queryFont fontAscent fontDescent =>
    exact iff_of_true ((frames_fontInfo_iff fontAscent fontDescent none).mpr (by decide))
      hnone
  | _ => exact iff_of_true (frames_short (by simp)) hnone

end Replies

end Sophia.Frontend
