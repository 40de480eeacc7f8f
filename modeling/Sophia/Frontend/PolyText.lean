import Mathlib.Data.FinEnum
import Sophia.Frontend.RequestDescriptors
import Sophia.Lib.Blit

/-! The text items of a `PolyText8` request, read from its bytes one after another. -/
namespace Sophia.Frontend

open Protocol Authority

def xPolyText8 : UInt8 := 74
def xPolyText8ReqLen : ℕ := 16
def xPolyText8MaxBytes : ℕ := 64 * 1024

structure XPolyText8 where
  drawable : XResourceId
  gc : XResourceId
  x : Int16
  y : Int16
  text : List UInt8
  deriving DecidableEq

def XWireClientContext.i16 (context : XWireClientContext) (bytes : List UInt8) (offset : ℕ) :
    Int16 := (context.u16 bytes offset).toInt16

/-- What one turn of the item loop ends in. -/
inductive ItemStep where
  | ended
  | rejected (error : XWireParseError)
  | next (offset : ℕ) (text : List UInt8)
  deriving DecidableEq

/-- Whether the bytes behind a length are padding. They are looked at only behind a zero. -/
def isPadding (itemBytes : List UInt8) (len : UInt8) (offset : ℕ) : Option Bool :=
  if len = 0 then (Blit.slice? itemBytes offset itemBytes.length).map (·.all (· = 0))
  else some false

/-- Read the item at the offset. A read outside the bytes, which panics, has no result. -/
def polyTextItem (itemBytes : List UInt8) (requestLen offset : ℕ) : Option ItemStep := do
  let len ← itemBytes[offset]?
  let offset := offset + 1
  let padding ← isPadding itemBytes len offset
  if padding then return .ended
  if len = 255 then
    if itemBytes.length - offset < 4 then
      return .rejected (.invalidLength xPolyText8 (xPolyText8ReqLen + offset + 4) requestLen)
    return .next (offset + 4) []
  let remaining := itemBytes.length - offset
  let glyphLen := len.toNat
  if 1 + glyphLen ≤ remaining then
    let string ← Blit.slice? itemBytes (offset + 1) (offset + 1 + glyphLen)
    return .next (offset + 1 + glyphLen) string
  -- A compact item: its length counts the byte of the delta.
  if remaining = glyphLen ∧ 0 < glyphLen then
    let string ← Blit.slice? itemBytes (offset + 1) (offset + 1 + glyphLen - 1)
    return .next (offset + 1 + (glyphLen - 1)) string
  let itemLen := 1 + glyphLen
  if remaining < itemLen then
    return .rejected (.invalidLength xPolyText8 (xPolyText8ReqLen + offset + itemLen) requestLen)
  return .next offset []

/-- The loop over the items; without fuel it has not come to an end. -/
def polyTextItems (itemBytes : List UInt8) (requestLen : ℕ) :
    ℕ → ℕ → List UInt8 → Option (Except XWireParseError (List UInt8))
  | 0, _, _ => none
  | fuel + 1, offset, text =>
    if offset < itemBytes.length then
      match polyTextItem itemBytes requestLen offset with
      | none => none
      | some .ended => some (.ok text)
      | some (.rejected error) => some (.error error)
      | some (.next offset string) =>
        polyTextItems itemBytes requestLen fuel offset (text ++ string)
    else some (.ok text)

/-- The request around a text. -/
def XPolyText8.read (context : XWireClientContext) (bytes text : List UInt8) : XPolyText8 where
  drawable := context.resource bytes 4
  gc := context.resource bytes 8
  x := context.i16 bytes 12
  y := context.i16 bytes 14
  text := text

def decodePolyText8 (context : XWireClientContext) (bytes : List UInt8) :
    Option (Except XWireParseError XPolyText8) :=
  if bytes.length < xPolyText8ReqLen then
    some (.error (.invalidLength xPolyText8 xPolyText8ReqLen bytes.length))
  else
    let itemBytes := bytes.drop xPolyText8ReqLen
    if xPolyText8MaxBytes < itemBytes.length then
      some (.error (.propertyValueTooLarge itemBytes.length xPolyText8MaxBytes))
    else
      (polyTextItems itemBytes bytes.length (itemBytes.length + 1) 0 []).map fun read =>
        read.map (XPolyText8.read context bytes)

/-- An item as the protocol has it: a string drawn after a shift, or a change of the font. -/
inductive TextItem8 where
  | text (delta : UInt8) (string : List UInt8) (h : string.length ≤ 254)
  | fontShift (font : Vector UInt8 4)

namespace TextItem8

def string : TextItem8 → List UInt8
  | .text _ string _ => string
  | .fontShift _ => []

def encode : TextItem8 → List UInt8
  | .text delta string _ => .ofNat string.length :: delta :: string
  | .fontShift font => 255 :: font.toList

/-- All but the last byte of a string's item: with the length taken to count the delta, it is the
item of a string shorter by one. -/
def Compact (item : TextItem8) (count : ℕ) : Prop :=
  match item with
  | .text _ string _ => count = string.length + 1
  | .fontShift _ => False

instance : ∀ (item : TextItem8) (count : ℕ), Decidable (item.Compact count)
  | .text _ string _, count => inferInstanceAs (Decidable (count = string.length + 1))
  | .fontShift _, _ => isFalse id

end TextItem8

/-- A request from its header and its items, with zeros up to a multiple of four. -/
def padded (itemBytes : List UInt8) : List UInt8 :=
  itemBytes ++ List.replicate ((4 - itemBytes.length % 4) % 4) 0

section Items

variable {itemBytes rest first : List UInt8} {requestLen offset fuel : ℕ} {text : List UInt8}

theorem slice?_of_drop {start stop : ℕ} (rest : List UInt8) (hstart : start ≤ itemBytes.length)
    (h : itemBytes.drop start = first ++ rest) (hstop : stop = start + first.length) :
    Blit.slice? itemBytes start stop = some first := by
  have hlength := congrArg List.length h
  rw [List.length_drop, List.length_append] at hlength
  unfold Blit.slice?
  rw [if_pos ⟨by omega, by omega⟩, h, hstop, Nat.add_sub_cancel_left, List.take_left]

/-- The bytes from an offset on, where there are any. -/
theorem at_offset {byte : UInt8} (h : itemBytes.drop offset = byte :: rest) :
    itemBytes[offset]? = some byte ∧ itemBytes.drop (offset + 1) = rest ∧
      itemBytes.length = offset + 1 + rest.length := by
  have hlength := congrArg List.length h
  rw [List.length_drop, List.length_cons] at hlength
  refine ⟨?_, ?_, by omega⟩
  · rw [← List.head?_drop, h]
    rfl
  · rw [← List.drop_drop, h]
    rfl

/-- One turn of the loop, as it depends on a length and the bytes behind it: it never leaves the
bytes. -/
theorem polyTextItem_eq {len : UInt8} (h : itemBytes.drop offset = len :: rest) :
    polyTextItem itemBytes requestLen offset = some (
      if len = 0 ∧ ∀ byte ∈ rest, byte = 0 then .ended
      else if len = 255 then
        if rest.length < 4 then
          .rejected (.invalidLength xPolyText8 (xPolyText8ReqLen + (offset + 1) + 4) requestLen)
        else .next (offset + 1 + 4) []
      else if 1 + len.toNat ≤ rest.length then
        .next (offset + 1 + 1 + len.toNat) (rest.tail.take len.toNat)
      else if rest.length = len.toNat ∧ 0 < len.toNat then
        .next (offset + 1 + 1 + (len.toNat - 1)) rest.tail
      else .rejected (.invalidLength xPolyText8 (xPolyText8ReqLen + (offset + 1) + (1 + len.toNat))
        requestLen)) := by
  obtain ⟨hbyte, hdrop, hlength⟩ := at_offset h
  have hremaining : itemBytes.length - (offset + 1) = rest.length := by omega
  have hpadding : isPadding itemBytes len (offset + 1) =
      some (decide (len = 0 ∧ ∀ byte ∈ rest, byte = 0)) := by
    unfold isPadding
    have hslice : Blit.slice? itemBytes (offset + 1) itemBytes.length = some rest :=
      slice?_of_drop [] (by omega) (by simpa using hdrop) (by omega)
    by_cases hlen : len = 0
    · rw [if_pos hlen, hslice, Option.map_some]
      congr 1
      rw [Bool.eq_iff_iff]
      simp [hlen]
    · simp [hlen]
  have htail : itemBytes.drop (offset + 1 + 1) = rest.tail := by
    rw [← List.drop_drop, hdrop, List.drop_one]
  unfold polyTextItem
  simp only [hbyte, hremaining, hpadding, Option.bind_eq_bind, Option.bind_some, Option.pure_def]
  by_cases hzeros : len = 0 ∧ ∀ byte ∈ rest, byte = 0
  · rw [if_pos hzeros, decide_eq_true hzeros, if_pos rfl]
  rw [if_neg hzeros, decide_eq_false hzeros, if_neg Bool.false_ne_true]
  by_cases hshift : len = 255
  · rw [if_pos hshift, if_pos hshift]
    split <;> rfl
  rw [if_neg hshift, if_neg hshift]
  by_cases hfull : 1 + len.toNat ≤ rest.length
  · rw [if_pos hfull, if_pos hfull]
    have hslice : Blit.slice? itemBytes (offset + 1 + 1) (offset + 1 + 1 + len.toNat) =
        some (rest.tail.take len.toNat) := by
      apply slice?_of_drop (rest.tail.drop len.toNat) (by omega)
      · rw [htail, List.take_append_drop]
      · rw [List.length_take, List.length_tail]
        omega
    rw [hslice, Option.bind_some]
  rw [if_neg hfull, if_neg hfull]
  by_cases hcompact : rest.length = len.toNat ∧ 0 < len.toNat
  · rw [if_pos hcompact, if_pos hcompact]
    have hslice : Blit.slice? itemBytes (offset + 1 + 1) (offset + 1 + 1 + len.toNat - 1) =
        some rest.tail := by
      apply slice?_of_drop [] (by omega)
      · rw [htail, List.append_nil]
      · rw [List.length_tail]
        omega
    rw [hslice, Option.bind_some]
  rw [if_neg hcompact, if_neg hcompact, if_pos (by omega)]

/-- The loop comes to an end within the bytes: every turn goes on by one at least. -/
theorem polyTextItems_isSome (hfuel : itemBytes.length < offset + fuel) (hpos : 0 < fuel) :
    (polyTextItems itemBytes requestLen fuel offset text).isSome := by
  induction fuel generalizing offset text with
  | zero => omega
  | succ fuel ih =>
    rw [polyTextItems]
    split
    · rename_i hoffset
      rw [polyTextItem_eq (List.drop_eq_getElem_cons hoffset)]
      split
      · rename_i hnone
        cases hnone
      · rfl
      · rfl
      · rename_i next string hnext
        have hgoes : offset < next := by
          simp only [Option.some.injEq] at hnext
          split at hnext
          · cases hnext
          split at hnext
          · split at hnext <;> cases hnext
            omega
          split at hnext
          · cases hnext
            omega
          split at hnext <;> cases hnext
          omega
        exact ih (by omega) (by omega)
    · rfl

/-- Zeros up to the end are padding. -/
theorem polyTextItems_zeros (h : itemBytes.drop offset = rest) (hzeros : ∀ byte ∈ rest, byte = 0) :
    polyTextItems itemBytes requestLen (fuel + 1) offset text = some (.ok text) := by
  rw [polyTextItems]
  split
  · rename_i hoffset
    have hdrop := List.drop_eq_getElem_cons hoffset
    rw [hdrop] at h
    subst h
    rw [polyTextItem_eq hdrop]
    rw [if_pos ⟨hzeros _ List.mem_cons_self,
      fun byte hbyte => hzeros byte (List.mem_cons_of_mem _ hbyte)⟩]
  · rfl

theorem toNat_length {string : List UInt8} (h : string.length ≤ 254) :
    (UInt8.ofNat string.length).toNat = string.length := by
  rw [UInt8.toNat_ofNat']
  omega

theorem length_ne_max {string : List UInt8} (h : string.length ≤ 254) :
    UInt8.ofNat string.length ≠ 255 := by
  intro he
  have hnat := congrArg UInt8.toNat he
  rw [toNat_length h] at hnat
  have hmax : (255 : UInt8).toNat = 255 := rfl
  omega

/-- An item that does not look like padding is read, and its string added to the text. -/
theorem polyTextItems_item (item : TextItem8) (h : itemBytes.drop offset = item.encode ++ rest)
    (hbyte : ∃ byte ∈ item.encode ++ rest, byte ≠ 0) :
    polyTextItems itemBytes requestLen (fuel + 1) offset text =
      polyTextItems itemBytes requestLen fuel (offset + item.encode.length)
        (text ++ item.string) := by
  cases item with
  | text delta string hstring =>
    simp only [TextItem8.encode, List.cons_append] at h hbyte
    have hoffset : offset < itemBytes.length := by
      have hlength := congrArg List.length h
      simp only [List.length_drop, List.length_cons] at hlength
      omega
    have hnot : ¬ (UInt8.ofNat string.length = 0 ∧ ∀ byte ∈ delta :: (string ++ rest), byte = 0) := by
      rintro ⟨hlen, hzeros⟩
      obtain ⟨byte, hmem, hne⟩ := hbyte
      rcases List.mem_cons.mp hmem with rfl | hmem
      · exact hne hlen
      · exact hne (hzeros byte hmem)
    have hfits : 1 + (UInt8.ofNat string.length).toNat ≤ (delta :: (string ++ rest)).length := by
      rw [toNat_length hstring, List.length_cons, List.length_append]
      omega
    rw [polyTextItems, if_pos hoffset, polyTextItem_eq h, if_neg hnot,
      if_neg (length_ne_max hstring), if_pos hfits]
    simp only [toNat_length hstring, List.tail_cons, List.take_left, TextItem8.encode,
      TextItem8.string, List.length_cons]
    congr 1
    omega
  | fontShift font =>
    simp only [TextItem8.encode, List.cons_append] at h
    have hoffset : offset < itemBytes.length := by
      have hlength := congrArg List.length h
      simp only [List.length_drop, List.length_cons] at hlength
      omega
    have hnot : ¬ ((255 : UInt8) = 0 ∧ ∀ byte ∈ font.toList ++ rest, byte = 0) := by
      rintro ⟨hlen, -⟩
      cases hlen
    have hfits : ¬ (font.toList ++ rest).length < 4 := by
      rw [List.length_append, Vector.length_toList]
      omega
    rw [polyTextItems, if_pos hoffset, polyTextItem_eq h, if_neg hnot, if_pos rfl, if_neg hfits]
    simp only [TextItem8.encode, TextItem8.string, List.length_cons, Vector.length_toList]

theorem string_of_zeros (item : TextItem8) (h : ∀ byte ∈ item.encode, byte = 0) :
    item.string = [] := by
  cases item with
  | text delta string hstring =>
    have hlen := h _ List.mem_cons_self
    have hnat := toNat_length hstring
    rw [hlen] at hnat
    exact List.length_eq_zero_iff.mp hnat.symm
  | fontShift font => rfl

/-- Whole items are read one after another, whatever comes of the bytes behind them. -/
theorem polyTextItems_flatMap {tail : List UInt8}
    (out : List UInt8 → Option (Except XWireParseError (List UInt8)))
    (htail : ∀ fuel offset text, itemBytes.drop offset = tail → tail.length < fuel →
      polyTextItems itemBytes requestLen fuel offset text = out text)
    (hzeros : (∀ byte ∈ tail, byte = 0) → ∀ text, out text = some (.ok text))
    (items : List TextItem8) (h : itemBytes.drop offset = items.flatMap TextItem8.encode ++ tail)
    (hfuel : (items.flatMap TextItem8.encode ++ tail).length < fuel) :
    polyTextItems itemBytes requestLen fuel offset text =
      out (text ++ items.flatMap TextItem8.string) := by
  induction items generalizing offset text fuel with
  | nil =>
    rw [List.flatMap_nil, List.append_nil]
    exact htail fuel offset text h hfuel
  | cons item items ih =>
    obtain ⟨fuel, rfl⟩ := Nat.exists_eq_add_one_of_ne_zero (n := fuel) (by omega)
    rw [List.flatMap_cons, List.append_assoc] at h hfuel
    have hdrop : itemBytes.drop (offset + item.encode.length) =
        items.flatMap TextItem8.encode ++ tail := by
      rw [← List.drop_drop, h, List.drop_left]
    by_cases hbyte : ∃ byte ∈ item.encode ++ (items.flatMap TextItem8.encode ++ tail), byte ≠ 0
    · have hitem : 0 < item.encode.length := by
        cases item <;> simp [TextItem8.encode]
      rw [polyTextItems_item item h hbyte, ih hdrop, List.flatMap_cons, List.append_assoc]
      rw [List.length_append] at hfuel
      omega
    · -- The items that are left have no strings, like the padding they are taken for.
      push Not at hbyte
      have hnone : ∀ found ∈ item :: items, TextItem8.string found = [] := by
        intro found hfound
        apply string_of_zeros
        intro byte hmem
        apply hbyte
        rw [← List.append_assoc, ← List.flatMap_cons]
        exact List.mem_append_left _ (List.mem_flatMap.mpr ⟨found, hfound, hmem⟩)
      rw [polyTextItems_zeros h hbyte, List.flatMap_eq_nil_iff.mpr hnone, List.append_nil, hzeros]
      intro byte hmem
      exact hbyte byte (List.mem_append_right _ (List.mem_append_right _ hmem))

/-- An item that is cut short is refused, unless it is taken for a compact one. -/
theorem polyTextItems_cut (item : TextItem8) {count : ℕ} (hpos : 0 < count)
    (hcount : count < item.encode.length) (h : itemBytes.drop offset = item.encode.take count) :
    polyTextItems itemBytes requestLen (fuel + 1 + 1) offset text = some (
      if item.Compact count then .ok (text ++ item.string.dropLast)
      else .error (.invalidLength xPolyText8 (xPolyText8ReqLen + offset + item.encode.length)
        requestLen)) := by
  obtain ⟨count, rfl⟩ := Nat.exists_eq_add_one_of_ne_zero (n := count) (by omega)
  have hoffset : offset < itemBytes.length := by
    have hlength := congrArg List.length h
    rw [List.length_drop, List.length_take] at hlength
    omega
  cases item with
  | text delta string hstring =>
    simp only [TextItem8.encode, List.take_succ_cons, List.length_cons] at h hcount
    have hlength : ((delta :: string).take count).length = count := by
      rw [List.length_take, List.length_cons]
      omega
    by_cases hempty : string = []
    · subst hempty
      obtain rfl : count = 0 := by
        rw [List.length_nil] at hcount
        omega
      have hcompact : (TextItem8.text delta [] hstring).Compact (0 + 1) := rfl
      rw [polyTextItems_zeros h (by simp), if_pos hcompact]
      simp [TextItem8.string]
    · have hsome : 0 < string.length := List.length_pos_iff.mpr hempty
      have hnot : ¬ (UInt8.ofNat string.length = 0 ∧
          ∀ byte ∈ (delta :: string).take count, byte = 0) := by
        rintro ⟨hlen, -⟩
        have hnat := congrArg UInt8.toNat hlen
        rw [toNat_length hstring] at hnat
        have hzero : (0 : UInt8).toNat = 0 := rfl
        omega
      rw [polyTextItems, if_pos hoffset, polyTextItem_eq h, if_neg hnot,
        if_neg (length_ne_max hstring)]
      simp only [toNat_length hstring, hlength, TextItem8.encode, TextItem8.string,
        List.length_cons]
      rw [if_neg (by omega : ¬ 1 + string.length ≤ count)]
      by_cases hcompact : count = string.length
      · subst hcompact
        have htail : ((delta :: string).take string.length).tail = string.dropLast := by
          obtain ⟨n, hn⟩ := Nat.exists_eq_add_one_of_ne_zero hsome.ne'
          rw [hn, List.take_succ_cons, List.tail_cons, List.dropLast_eq_take, hn]
          rfl
        have hend : itemBytes.drop (offset + 1 + 1 + (string.length - 1)) = [] := by
          have htotal := congrArg List.length h
          rw [List.length_drop, List.length_cons, hlength] at htotal
          exact List.drop_eq_nil_of_le (by omega)
        have hcut : (TextItem8.text delta string hstring).Compact (string.length + 1) := rfl
        simp only [hsome, hcut, and_self, if_true]
        rw [polyTextItems_zeros hend (by simp), htail]
      · have hcut : ¬ (TextItem8.text delta string hstring).Compact (count + 1) :=
          fun he => hcompact (Nat.succ.inj he)
        rw [if_neg fun h => hcompact h.1, if_neg hcut]
        have hoffsets : xPolyText8ReqLen + (offset + 1) + (1 + string.length) =
            xPolyText8ReqLen + offset + (string.length + 1 + 1) := by omega
        rw [hoffsets]
  | fontShift font =>
    simp only [TextItem8.encode, List.take_succ_cons, List.length_cons, Vector.length_toList]
      at h hcount
    have hnot : ¬ ((255 : UInt8) = 0 ∧ ∀ byte ∈ font.toList.take count, byte = 0) := by
      rintro ⟨hlen, -⟩
      cases hlen
    have hshort : (font.toList.take count).length < 4 := by
      rw [List.length_take]
      omega
    rw [polyTextItems, if_pos hoffset, polyTextItem_eq h, if_neg hnot, if_pos rfl, if_pos hshort]
    simp [TextItem8.Compact, TextItem8.encode, Nat.add_assoc]

end Items

section Requests

variable (context : XWireClientContext) (header : Vector UInt8 16)

def textRequest (itemBytes : List UInt8) : List UInt8 := header.toList ++ itemBytes

/-- The answer to a request whose items are read in this way; too many of them are not read. -/
def textAnswer (itemBytes : List UInt8) (read : Except XWireParseError (List UInt8)) :
    Except XWireParseError XPolyText8 :=
  if xPolyText8MaxBytes < itemBytes.length then
    .error (.propertyValueTooLarge itemBytes.length xPolyText8MaxBytes)
  else read.map (XPolyText8.read context (textRequest header itemBytes))

theorem decodePolyText8_eq {itemBytes : List UInt8} {read : Except XWireParseError (List UInt8)}
    (hread : polyTextItems itemBytes (textRequest header itemBytes).length (itemBytes.length + 1) 0
      [] = some read) :
    decodePolyText8 context (textRequest header itemBytes) =
      some (textAnswer context header itemBytes read) := by
  have hlength : ¬ (textRequest header itemBytes).length < xPolyText8ReqLen := by
    rw [textRequest, List.length_append, Vector.length_toList, xPolyText8ReqLen]
    omega
  have hdrop : (textRequest header itemBytes).drop xPolyText8ReqLen = itemBytes :=
    List.drop_left' (by rw [Vector.length_toList, xPolyText8ReqLen])
  unfold decodePolyText8 textAnswer
  rw [if_neg hlength, hdrop]
  dsimp only
  rw [hread]
  split <;> rfl

theorem decode_padded (items : List TextItem8) :
    decodePolyText8 context (textRequest header (padded (items.flatMap TextItem8.encode))) =
      some (textAnswer context header (padded (items.flatMap TextItem8.encode))
        (.ok (items.flatMap TextItem8.string))) := by
  apply decodePolyText8_eq
  refine polyTextItems_flatMap (fun text => some (.ok text)) ?_ (fun _ _ => rfl) items rfl
    (Nat.lt_succ_self _)
  intro fuel offset text hdrop hfuel
  obtain ⟨fuel, rfl⟩ := Nat.exists_eq_add_one_of_ne_zero (n := fuel) (by omega)
  exact polyTextItems_zeros hdrop fun byte hbyte => List.eq_of_mem_replicate hbyte

/-- Where all that is left of an item is zeros, it is an item without a string. -/
theorem compact_of_zeros (item : TextItem8) {count : ℕ} (hpos : 0 < count)
    (hcount : count < item.encode.length) (hzeros : ∀ byte ∈ item.encode.take count, byte = 0) :
    item.Compact count ∧ item.string = [] := by
  obtain ⟨count, rfl⟩ := Nat.exists_eq_add_one_of_ne_zero hpos.ne'
  cases item with
  | text delta string hstring =>
    have hlen : UInt8.ofNat string.length = 0 := hzeros _ List.mem_cons_self
    have hnat := toNat_length hstring
    rw [hlen] at hnat
    have hempty : string = [] := List.length_eq_zero_iff.mp hnat.symm
    subst hempty
    simp only [TextItem8.encode, List.length_cons, List.length_nil] at hcount
    obtain rfl : count = 0 := by omega
    exact ⟨rfl, rfl⟩
  | fontShift font =>
    have hlen : (255 : UInt8) = 0 := hzeros _ List.mem_cons_self
    cases hlen

theorem decode_cut (items : List TextItem8) (last : TextItem8) {count : ℕ} (hpos : 0 < count)
    (hcount : count < last.encode.length) :
    decodePolyText8 context
        (textRequest header (items.flatMap TextItem8.encode ++ last.encode.take count)) =
      some (textAnswer context header (items.flatMap TextItem8.encode ++ last.encode.take count)
        (if last.Compact count then .ok (items.flatMap TextItem8.string ++ last.string.dropLast)
        else .error (.invalidLength xPolyText8
          (xPolyText8ReqLen + (items.flatMap TextItem8.encode ++ last.encode).length)
          (textRequest header
            (items.flatMap TextItem8.encode ++ last.encode.take count)).length))) := by
  apply decodePolyText8_eq
  generalize hbytes : items.flatMap TextItem8.encode ++ last.encode.take count = itemBytes
  have hlength : itemBytes.length = (items.flatMap TextItem8.encode).length + count := by
    rw [← hbytes, List.length_append, List.length_take]
    omega
  refine polyTextItems_flatMap (fun text => some (
    if last.Compact count then .ok (text ++ last.string.dropLast)
    else .error (.invalidLength xPolyText8
      (xPolyText8ReqLen + (items.flatMap TextItem8.encode ++ last.encode).length)
      (textRequest header itemBytes).length))) ?_ ?_ items hbytes.symm ?_
  · intro fuel offset text hdrop hfuel
    rw [List.length_take] at hfuel
    obtain ⟨fuel, rfl⟩ : ∃ n, fuel = n + 1 + 1 := ⟨fuel - 2, by omega⟩
    have hoffset : offset = (items.flatMap TextItem8.encode).length := by
      have htotal := congrArg List.length hdrop
      rw [List.length_drop, List.length_take] at htotal
      omega
    rw [polyTextItems_cut last hpos hcount hdrop, hoffset, List.length_append, Nat.add_assoc]
  · intro hzeros text
    obtain ⟨hcompact, hempty⟩ := compact_of_zeros last hpos hcount hzeros
    rw [if_pos hcompact, hempty, List.dropLast_nil, List.append_nil]
  · rw [hbytes]
    exact Nat.lt_succ_self _

theorem decode_isSome (bytes : List UInt8) : (decodePolyText8 context bytes).isSome := by
  unfold decodePolyText8
  split
  · rfl
  · dsimp only
    split
    · rfl
    · rw [Option.isSome_map]
      exact polyTextItems_isSome (by omega) (by omega)

/-- Items with their padding are decoded to their strings, as far as a request of their size is
taken; an item that is cut short is refused, unless it is taken for a compact one; and no bytes lead
the decoder outside of them or keep it in its loop. -/
theorem poly_text8_decoded (items : List TextItem8) (last : TextItem8) (count : ℕ)
    (hcount : 0 < count ∧ count < last.encode.length) (bytes : List UInt8) :
    decodePolyText8 context (textRequest header (padded (items.flatMap TextItem8.encode))) =
        some (textAnswer context header (padded (items.flatMap TextItem8.encode))
          (.ok (items.flatMap TextItem8.string))) ∧
      decodePolyText8 context
          (textRequest header (items.flatMap TextItem8.encode ++ last.encode.take count)) =
        some (textAnswer context header (items.flatMap TextItem8.encode ++ last.encode.take count)
          (if last.Compact count then .ok (items.flatMap TextItem8.string ++ last.string.dropLast)
          else .error (.invalidLength xPolyText8
            (xPolyText8ReqLen + (items.flatMap TextItem8.encode ++ last.encode).length)
            (textRequest header
              (items.flatMap TextItem8.encode ++ last.encode.take count)).length))) ∧
      (decodePolyText8 context bytes).isSome :=
  ⟨decode_padded context header items, decode_cut context header items last hcount.1 hcount.2,
    decode_isSome context bytes⟩

end Requests

/-- A client of the little endian kind, with the header of a request for one of its windows. -/
def textContext : XWireClientContext := ⟨.littleEndian, ⟨1⟩, ⟨1⟩, none⟩
def textHeader : Vector UInt8 16 := #v[74, 0, 5, 0, 1, 0, 64, 0, 2, 0, 64, 0, 5, 0, 16, 0]

/-- The string of an item is decoded, and the item cut after its second byte is refused. -/
theorem poly_text8_decoded_string :
    decodePolyText8 textContext (textRequest textHeader [2, 0, 72, 105]) =
        some (.ok ⟨.new 0x400001 1, .new 0x400002 1, 5, 16, [72, 105]⟩) ∧
      decodePolyText8 textContext (textRequest textHeader [2, 0]) =
        some (.error (.invalidLength 74 20 18)) := by
  have h := poly_text8_decoded textContext textHeader [.text 0 [72, 105] (by decide)]
    (.text 0 [72, 105] (by decide)) 2 (by decide) []
  have h' := poly_text8_decoded textContext textHeader [] (.text 0 [72, 105] (by decide)) 2
    (by decide) []
  exact ⟨h.1.trans (by decide), h'.2.1.trans (by decide)⟩

/-- The item of three bytes is cut short by one, and decoded to a string of two. -/
theorem cut_item_accepted :
    decodePolyText8 textContext (textRequest textHeader
        ((TextItem8.text 0 [72, 105, 33] (by decide)).encode.take 4)) =
      some (.ok ⟨.new 0x400001 1, .new 0x400002 1, 5, 16, [72, 105]⟩) := by
  decide

end Sophia.Frontend
