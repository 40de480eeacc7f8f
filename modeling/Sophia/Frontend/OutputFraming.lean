import Sophia.Frontend.ClientOutput

/-! Which outputs are records whose end the client can find. -/
namespace Sophia.Frontend

open Protocol Authority

/-- How long the record is that begins with these bytes: a reply begins with 1, a generic event is
of type 35, and both tell how many words they have beyond the first eight. -/
def recordLength (order : XByteOrder) (bytes : List UInt8) : Option ℕ := do
  let kind ← bytes.head?
  let words ← Blit.slice? bytes 4 8
  return if kind = 1 ∨ kind &&& 0x7f = 35 then 32 + 4 * order.number words else 32

structure CompleteRecord (order : XByteOrder) (sequence : UInt16) (record : List UInt8) : Prop
    where
  length_eq : recordLength order record = some record.length
  sequence_eq : (Blit.slice? record 2 4).map order.number = some sequence.toNat

/-- The program does not stop, and what it writes is one record. -/
def Frames (order : XByteOrder) (sequence : UInt16) (encoded : Option (List UInt8)) : Prop :=
  ∃ record, encoded = some record ∧ CompleteRecord order sequence record

section Numbers

variable {order : XByteOrder} {width value n : ℕ}

@[simp] theorem length_bytes : (order.bytes width value).length = width := by
  cases order with
  | littleEndian => exact Codec.length_toLe width value
  | bigEndian => exact List.length_reverse.trans (Codec.length_toLe width value)

theorem number_bytes (h : value < 256 ^ width) :
    order.number (order.bytes width value) = value := by
  cases order with
  | littleEndian => exact Codec.fromLe_toLe h
  | bigEndian =>
    show Codec.fromLe (Codec.toLe width value).reverse.reverse = value
    rw [List.reverse_reverse]
    exact Codec.fromLe_toLe h

theorem toNat_tryU32 (n : ℕ) (default : UInt32) :
    (tryU32 n default).toNat = if n < UInt32.size then n else default.toNat := by
  unfold tryU32
  by_cases h : n < UInt32.size
  · rw [if_pos ⟨by omega, by simpa using h⟩, if_pos h]
    exact UInt32.toNat_ofNat_of_lt' h
  · rw [if_neg (by simp only [UInt32.size] at h; omega), if_neg h]

/-- A length field that falls back on a number of its own tells the length while it fits. -/
theorem tells_tryU32 (hn : n % 4 = 0) (default : UInt32) :
    32 + n = 32 + 4 * (tryU32 (n / 4 : ℕ) default).toNat ↔ n < 4 * UInt32.size := by
  have hdefault := default.toNat_lt
  rw [toNat_tryU32]
  split
  · omega
  · simp only [UInt32.size] at *
    omega

/-- So does one that is cut off. -/
theorem tells_ofNat (hn : n % 4 = 0) :
    32 + n = 32 + 4 * (UInt32.ofNat (n / 4)).toNat ↔ n < 4 * UInt32.size := by
  rw [UInt32.toNat_ofNat']
  simp only [UInt32.size]
  omega

end Numbers

section Records

variable {order : XByteOrder} {sequence : UInt16} {kind : UInt8} {words : ℕ}
  {record rest out : List UInt8}

/-- What a client reads at the beginning of a record. -/
structure Begins (order : XByteOrder) (kind : UInt8) (sequence : UInt16) (words : ℕ)
    (record : List UInt8) : Prop where
  kind_eq : Blit.slice? record 0 1 = some [kind]
  sequence_eq : Blit.slice? record 2 4 = some (order.bytes 2 sequence.toNat)
  words_eq : (Blit.slice? record 4 8).map order.number = some words

theorem slice?_append {start stop : ℕ} {field : List UInt8}
    (h : Blit.slice? record start stop = some field) :
    Blit.slice? (record ++ rest) start stop = some field := by
  unfold Blit.slice? at h ⊢
  split at h
  · rename_i hin
    rw [if_pos ⟨hin.1, by rw [List.length_append]; omega⟩, List.drop_append_of_le_length (by omega),
      List.take_append_of_le_length (by rw [List.length_drop]; omega)]
    exact h
  · cases h

theorem Begins.append (h : Begins order kind sequence words record) (rest : List UInt8) :
    Begins order kind sequence words (record ++ rest) := by
  obtain ⟨bytes, hbytes, hwords⟩ := Option.map_eq_some_iff.mp h.words_eq
  refine ⟨slice?_append h.kind_eq, slice?_append h.sequence_eq, ?_⟩
  rw [slice?_append hbytes, Option.map_some, hwords]

theorem head?_of_slice? (h : Blit.slice? record 0 1 = some [kind]) : record.head? = some kind := by
  cases record with
  | nil => cases h
  | cons first rest =>
    unfold Blit.slice? at h
    split at h
    · cases h
      rfl
    · cases h

/-- A record is complete when it is as long as its beginning tells. -/
theorem Begins.complete_iff (h : Begins order kind sequence words record) :
    CompleteRecord order sequence record ↔
      record.length = if kind = 1 ∨ kind &&& 0x7f = 35 then 32 + 4 * words else 32 := by
  obtain ⟨bytes, hbytes, hwords⟩ := Option.map_eq_some_iff.mp h.words_eq
  have hlength : recordLength order record =
      some (if kind = 1 ∨ kind &&& 0x7f = 35 then 32 + 4 * words else 32) := by
    unfold recordLength
    rw [head?_of_slice? h.kind_eq, hbytes, ← hwords]
    rfl
  have hsequence : (Blit.slice? record 2 4).map order.number = some sequence.toNat := by
    rw [h.sequence_eq, Option.map_some, number_bytes sequence.toNat_lt]
  constructor
  · rintro ⟨hcomplete, -⟩
    exact (Option.some.inj (hlength.symm.trans hcomplete)).symm
  · intro heq
    exact ⟨hlength.trans (congrArg some heq.symm), hsequence⟩

/-- The client finds the end of a complete record whatever comes behind it. -/
theorem CompleteRecord.recordLength_append (h : CompleteRecord order sequence record)
    (rest : List UInt8) : recordLength order (record ++ rest) = some record.length := by
  rw [← h.length_eq]
  have hlength := h.length_eq
  cases record with
  | nil => cases hlength
  | cons first bytes =>
    unfold recordLength at hlength ⊢
    cases hwords : Blit.slice? (first :: bytes) 4 8 with
    | none => cases (hwords ▸ hlength : none = some _)
    | some words =>
      rw [slice?_append hwords]
      rfl

end Records

section Writing

variable {order : XByteOrder} {sequence : UInt16} {units : UInt32} {kind detail : UInt8}
  {length low high offset : ℕ} {out body : List UInt8} {field : Layout.Field UInt8}
  {fields : List (Layout.Field UInt8)}

/-- The field is behind the first `low` bytes of the record, or else the byte that each kind has
for itself, and the record has room for it. -/
def InPlace (low length : ℕ) (field : Layout.Field UInt8) : Prop :=
  (field.offset = 1 ∧ field.values.length = 1 ∨ low ≤ field.offset) ∧ field.stop ≤ length

@[simp] theorem stop_putU8 (value : UInt8) : (putU8 offset value).stop = offset + 1 := rfl

@[simp] theorem stop_putU16 (value : UInt16) : (putU16 order offset value).stop = offset + 2 :=
  congrArg (offset + ·) length_bytes

@[simp] theorem stop_putU32 (value : UInt32) : (putU32 order offset value).stop = offset + 4 :=
  congrArg (offset + ·) length_bytes

@[simp] theorem stop_putU64 (value : UInt64) : (putU64 order offset value).stop = offset + 8 :=
  congrArg (offset + ·) length_bytes

@[simp] theorem inPlace_putU8 {value : UInt8} :
    InPlace low length (putU8 offset value) ↔
      (offset = 1 ∨ low ≤ offset) ∧ offset + 1 ≤ length := by
  simp [InPlace, putU8, Layout.Field.stop]

/-- A field of more than one byte is behind the beginning. -/
theorem inPlace_iff (hvalues : field.values.length ≠ 1) :
    InPlace low length field ↔ low ≤ field.offset ∧ field.stop ≤ length := by
  simp [InPlace, hvalues]

@[simp] theorem inPlace_putU16 {value : UInt16} :
    InPlace low length (putU16 order offset value) ↔ low ≤ offset ∧ offset + 2 ≤ length := by
  rw [inPlace_iff (by simp [putU16]), stop_putU16]
  rfl

@[simp] theorem inPlace_putI16 {value : Int16} :
    InPlace low length (putI16 order offset value) ↔ low ≤ offset ∧ offset + 2 ≤ length :=
  inPlace_putU16

@[simp] theorem inPlace_putU32 {value : UInt32} :
    InPlace low length (putU32 order offset value) ↔ low ≤ offset ∧ offset + 4 ≤ length := by
  rw [inPlace_iff (by simp [putU32]), stop_putU32]
  rfl

@[simp] theorem inPlace_putU64 {value : UInt64} :
    InPlace low length (putU64 order offset value) ↔ low ≤ offset ∧ offset + 8 ≤ length := by
  rw [inPlace_iff (by simp [putU64]), stop_putU64]
  rfl

@[simp] theorem inPlace_putResource {resource : XResourceId} :
    InPlace low length (putResource order offset resource) ↔ low ≤ offset ∧ offset + 4 ≤ length :=
  inPlace_putU32

theorem InPlace.apart {other : Layout.Field UInt8} (h : InPlace low length other)
    (hstop : field.stop ≤ low) (hone : field.stop ≤ 1 ∨ 2 ≤ field.offset) : field.Apart other := by
  obtain ⟨hplace, -⟩ := h
  have hother : other.stop = other.offset + other.values.length := rfl
  unfold Layout.Field.Apart
  omega

/-- The kind and the sequence number stay as the header has them. -/
theorem exists_header (order : XByteOrder) (kind : UInt8) (sequence : UInt16)
    {before : List (Layout.Field UInt8)} (hout : 4 ≤ out.length)
    (hbefore : ∀ field ∈ before, field.Within 1 2)
    (h : ∀ field ∈ fields, InPlace 4 out.length field) :
    ∃ record, Layout.write out (putU8 0 kind :: before ++ putU16 order 2 sequence :: fields) =
        some record ∧ record.length = out.length ∧ Blit.slice? record 0 1 = some [kind] ∧
      Blit.slice? record 2 4 = some (order.bytes 2 sequence.toNat) ∧
      ∀ i, 4 ≤ i → (∀ field ∈ fields, i < field.offset ∨ field.stop ≤ i) →
        record[i]? = out[i]? := by
  have hsequence : 0 < (putU16 order 2 sequence).values.length := by
    rw [putU16, length_bytes]
    omega
  have hstop : (putU16 order 2 sequence).stop = 4 := stop_putU16 sequence
  have hin : ∀ field ∈ putU8 0 kind :: before ++ putU16 order 2 sequence :: fields,
      field.stop ≤ out.length := by
    simp only [List.forall_mem_append, List.forall_mem_cons, stop_putU8]
    refine ⟨⟨by omega, fun field hm => ?_⟩, by omega, fun field hm => (h field hm).2⟩
    have hfield := (hbefore field hm).2
    omega
  have hafter : ∀ field ∈ before ++ putU16 order 2 sequence :: fields,
      (putU8 0 kind).Apart field := by
    simp only [List.forall_mem_append, List.forall_mem_cons]
    refine ⟨fun field hm => Or.inr (hbefore field hm).1, Or.inr (show 1 ≤ 2 by omega), ?_⟩
    intro field hm
    exact (h field hm).apart (show 1 ≤ 4 by omega) (Or.inl (Nat.le_refl 1))
  obtain ⟨record, hrecord, hsize, hkept⟩ := Layout.exists_write hin
  have hkind : Layout.write out ([] ++ putU8 0 kind :: (before ++ putU16 order 2 sequence ::
      fields)) = some record := hrecord
  refine ⟨record, hrecord, hsize, Layout.slice?_write hkind hin Nat.one_pos hafter, ?_, ?_⟩
  · have hslice := Layout.slice?_write hrecord hin hsequence fun field hm =>
      (h field hm).apart (Nat.le_of_eq hstop) (Or.inr (Nat.le_refl 2))
    rwa [hstop] at hslice
  · intro i hi hfields
    refine hkept i ?_
    simp only [List.forall_mem_append, List.forall_mem_cons, stop_putU8]
    refine ⟨⟨by omega, fun field hm => ?_⟩, by omega, hfields⟩
    have hfield := (hbefore field hm).2
    omega

/-- The length field stays as it was written. -/
theorem words_of_write {before : List (Layout.Field UInt8)} {record : List UInt8}
    (hrecord : Layout.write out (before ++ putU32 order 4 units :: fields) = some record)
    (hin : ∀ field ∈ before ++ putU32 order 4 units :: fields, field.stop ≤ out.length)
    (h : ∀ field ∈ fields, InPlace 8 length field) :
    (Blit.slice? record 4 8).map order.number = some units.toNat := by
  have hunits : 0 < (putU32 order 4 units).values.length := by
    rw [putU32, length_bytes]
    omega
  have hstop : (putU32 order 4 units).stop = 8 := stop_putU32 units
  have hslice := Layout.slice?_write hrecord hin hunits fun field hm =>
    (h field hm).apart (Nat.le_of_eq hstop) (Or.inr (show 2 ≤ 4 by omega))
  rw [hstop] at hslice
  have hnumber : order.number (order.bytes 4 units.toNat) = units.toNat :=
    number_bytes units.toNat_lt
  exact (congrArg (Option.map order.number) hslice).trans (congrArg some hnumber)

theorem InPlace.mono (h : InPlace 8 length field) : InPlace 4 length field :=
  ⟨h.1.imp_right (Nat.le_trans (by omega)), h.2⟩

/-- A reply whose fields are in their places begins as its header says. -/
theorem exists_reply (hlength : 8 ≤ length) (h : ∀ field ∈ fields, InPlace 8 length field) :
    ∃ record, reply order sequence units length fields = some record ∧ record.length = length ∧
      Begins order 1 sequence units.toNat record := by
  have hzeros : (List.replicate length (0 : UInt8)).length = length := List.length_replicate
  have hunits : (putU32 order 4 units).stop = 8 := stop_putU32 units
  have hplaced : ∀ field ∈ putU32 order 4 units :: fields,
      InPlace 4 (List.replicate length (0 : UInt8)).length field := by
    rw [hzeros]
    exact List.forall_mem_cons.mpr ⟨⟨Or.inr (Nat.le_refl 4), by omega⟩,
      fun field hm => (h field hm).mono⟩
  have hnone : ∀ field ∈ ([] : List (Layout.Field UInt8)), field.Within 1 2 := by
    simp only [List.not_mem_nil, false_imp_iff, implies_true]
  obtain ⟨record, hrecord, hsize, hkind, hsequence, -⟩ :=
    exists_header order 1 sequence (by omega) hnone hplaced
  have hwritten : Layout.write (List.replicate length 0) ([putU8 0 1, putU16 order 2 sequence] ++
      putU32 order 4 units :: fields) = some record := hrecord
  refine ⟨record, hrecord, hsize.trans hzeros, hkind, hsequence, words_of_write hwritten ?_ h⟩
  rw [hzeros]
  simp only [List.forall_mem_append, List.forall_mem_cons, stop_putU8, stop_putU16, hunits]
  refine ⟨⟨by omega, by omega, ?_⟩, hlength, fun field hm => (h field hm).2⟩
  simp only [List.not_mem_nil, false_imp_iff, implies_true]

theorem frames_some_iff {record : List UInt8} :
    Frames order sequence (some record) ↔ CompleteRecord order sequence record := by
  constructor
  · rintro ⟨_, ⟨⟩, hframed⟩
    exact hframed
  · intro hframed
    exact ⟨record, rfl, hframed⟩

theorem not_frames_none : ¬ Frames order sequence none := by
  rintro ⟨_, ⟨⟩, -⟩

theorem frames_reply_iff (hlength : 8 ≤ length) (h : ∀ field ∈ fields, InPlace 8 length field) :
    Frames order sequence (reply order sequence units length fields) ↔
      length = 32 + 4 * units.toNat := by
  obtain ⟨record, hrecord, hsize, hbegins⟩ := exists_reply hlength h
  have hcomplete : CompleteRecord order sequence record ↔ record.length = 32 + 4 * units.toNat :=
    hbegins.complete_iff
  rw [hrecord, frames_some_iff, hcomplete, hsize]

/-- A reply whose body is put behind it is complete when its header counts both. -/
theorem frames_append_iff (hlength : 8 ≤ length) (h : ∀ field ∈ fields, InPlace 8 length field) :
    Frames order sequence ((reply order sequence units length fields).map (· ++ body)) ↔
      length + body.length = 32 + 4 * units.toNat := by
  obtain ⟨record, hrecord, hsize, hbegins⟩ := exists_reply hlength h
  have hcomplete : CompleteRecord order sequence (record ++ body) ↔
      (record ++ body).length = 32 + 4 * units.toNat := (hbegins.append body).complete_iff
  rw [hrecord, Option.map_some, frames_some_iff, hcomplete, List.length_append, hsize]

/-- A reply of the usual length tells that it has no more words. -/
theorem frames_short (h : ∀ field ∈ fields, InPlace 8 32 field) :
    Frames order sequence (reply order sequence 0 32 fields) :=
  (frames_reply_iff (by omega) h).mpr rfl

theorem within_detail (detail : UInt8) : ∀ field ∈ [putU8 1 detail], field.Within 1 2 :=
  List.forall_mem_singleton.mpr ⟨Nat.le_refl 1, Nat.le_refl 2⟩

/-- Whatever its fields are, a record as long as they need begins with its kind. -/
theorem exists_event (kind detail : UInt8) (sequence : UInt16) (hout : 8 ≤ out.length)
    (h : ∀ field ∈ fields, InPlace 4 out.length field) :
    ∃ record words, Layout.write out (writeEventHeader order kind detail sequence ++ fields) =
        some record ∧ record.length = out.length ∧ Begins order kind sequence words record := by
  obtain ⟨record, hrecord, hsize, hkind, hsequence, -⟩ :=
    exists_header order kind sequence (by omega) (within_detail detail) h
  have hwords : Blit.slice? record 4 8 = some ((record.drop 4).take 4) :=
    if_pos ⟨by omega, by omega⟩
  exact ⟨record, order.number ((record.drop 4).take 4), hrecord, hsize, hkind, hsequence,
    congrArg (Option.map order.number) hwords⟩

/-- An event of a kind that tells no length is complete at the usual one. -/
theorem frames_plainEvent (hkind : ¬ (kind = 1 ∨ kind &&& 0x7f = 35))
    (h : ∀ field ∈ fields, InPlace 4 32 field) :
    Frames order sequence (plainEvent order sequence kind detail fields) := by
  have hzeros : (List.replicate 32 (0 : UInt8)).length = 32 := List.length_replicate
  rw [← hzeros] at h
  obtain ⟨record, words, hrecord, hsize, hbegins⟩ :=
    exists_event kind detail sequence (by rw [hzeros]; omega) h
  rw [plainEvent, hrecord, frames_some_iff, hbegins.complete_iff, if_neg hkind, hsize, hzeros]

end Writing

section Events

variable {order : XByteOrder}

/-- An event sent by a client is one its decoder accepts. -/
def XClientEvent.Sendable (event : XClientEvent) : Prop :=
  match event.content with
  | .clientMessage bytes => ∃ context request sent,
      decodeSendEvent context request = .ok sent ∧ sent.event.content = .clientMessage bytes
  | _ => True

/-- An event sent by a client is no generic event that says it is longer. -/
def XClientEvent.Representable (order : XByteOrder) (event : XClientEvent) : Prop :=
  match event.content with
  | .clientMessage bytes =>
    bytes[0] &&& 0x7f = 35 → order.number ((bytes.toList.drop 4).take 4) = 0
  | _ => True

/-- Replies and errors are not sent by clients. -/
theorem kind_of_decodeSendEvent {context : XWireClientContext} {request : List UInt8}
    {sent : SendSelectionNotify} {bytes : Vector UInt8 32}
    (h : decodeSendEvent context request = .ok sent)
    (hsent : sent.event.content = .clientMessage bytes) : ¬ bytes[0] &&& 0x7f < 9 := by
  unfold decodeSendEvent at h
  simp only [Fallible.bind_eq_ok, Fallible.throw_if_eq_ok, Fallible.pure_eq_ok] at h
  obtain ⟨-, -, hkind, rfl⟩ := h
  by_cases hselection : request.getD 12 0 &&& 0x7f = 31
  · rw [if_neg (not_not.mpr hselection)] at hsent
    cases hsent
  · rw [if_pos hselection] at hsent
    have hbytes := XClientEventContent.clientMessage.inj hsent
    subst hbytes
    rw [Vector.getElem_ofFn]
    exact hkind

theorem frames_clientMessage (sequence : UInt16) (bytes : Vector UInt8 32) (hkind : bytes[0] ≠ 1) :
    Frames order sequence (Layout.write bytes.toList [putU16 order 2 sequence]) ↔
      (bytes[0] &&& 0x7f = 35 → order.number ((bytes.toList.drop 4).take 4) = 0) := by
  have hsize : bytes.toList.length = 32 := bytes.length_toList
  have hstop : (putU16 order 2 sequence).stop = 4 := stop_putU16 sequence
  have hvalues : 0 < (putU16 order 2 sequence).values.length := by
    rw [putU16, length_bytes]
    omega
  have hin : ∀ field ∈ [putU16 order 2 sequence], field.stop ≤ bytes.toList.length := by
    rw [List.forall_mem_singleton]
    omega
  obtain ⟨record, hrecord, hlength, hkept⟩ := Layout.exists_write hin
  have hkept : ∀ i, i < 2 ∨ 4 ≤ i → record[i]? = bytes.toList[i]? := by
    intro i hi
    refine hkept i (List.forall_mem_singleton.mpr ?_)
    rwa [hstop]
  have hbegins : Begins order bytes[0] sequence (order.number ((bytes.toList.drop 4).take 4))
      record := by
    refine ⟨?_, ?_, ?_⟩
    · have hhead : Blit.slice? record 0 (0 + 1) = Blit.slice? bytes.toList 0 (0 + 1) :=
        Blit.slice?_congr Nat.one_pos fun i hi => hkept (0 + i) (by omega)
      have hfirst : bytes.toList.head? = some bytes[0] := by
        rw [List.head?_eq_getElem?, Vector.getElem?_toList, Vector.getElem?_eq_getElem]
      have htake : (bytes.toList.drop 0).take (0 + 1 - 0) = [bytes[0]] := by
        rw [List.drop_zero, Nat.zero_add, Nat.sub_zero, List.take_one, hfirst]
        rfl
      exact hhead.trans ((if_pos ⟨by omega, by omega⟩).trans (congrArg some htake))
    · have hwritten : Layout.write bytes.toList ([] ++ putU16 order 2 sequence :: []) =
          some record := hrecord
      have hslice := Layout.slice?_write hwritten hin hvalues (List.forall_mem_nil _)
      rwa [hstop] at hslice
    · have hword : Blit.slice? record 4 (4 + 4) = Blit.slice? bytes.toList 4 (4 + 4) :=
        Blit.slice?_congr (by omega) fun i hi => hkept (4 + i) (by omega)
      have hslice : Blit.slice? bytes.toList 4 (4 + 4) = some ((bytes.toList.drop 4).take 4) :=
        if_pos ⟨by omega, by omega⟩
      exact congrArg (Option.map order.number) (hword.trans hslice)
  rw [hrecord, frames_some_iff, hbegins.complete_iff, hlength, hsize]
  by_cases hgeneric : bytes[0] &&& 0x7f = 35
  · rw [if_pos (Or.inr hgeneric)]
    constructor
    · intro hlong hsame
      omega
    · intro hzero
      rw [hzero hgeneric]
  · rw [if_neg (not_or.mpr ⟨hkind, hgeneric⟩)]
    exact iff_of_true rfl fun h => absurd h hgeneric

/-- A generic event that tells how many words it has beyond the usual ones. -/
theorem frames_genericEvent (sequence : UInt16) (detail : UInt8) (units : UInt32)
    {fields : List (Layout.Field UInt8)}
    (h : ∀ field ∈ fields, InPlace 8 (32 + 4 * units.toNat) field) :
    Frames order sequence (Layout.write (List.replicate (32 + 4 * units.toNat) 0)
      (writeEventHeader order 35 detail sequence ++ putU32 order 4 units :: fields)) := by
  have hzeros : (List.replicate (32 + 4 * units.toNat) (0 : UInt8)).length =
      32 + 4 * units.toNat := List.length_replicate
  have hunits : (putU32 order 4 units).stop = 8 := stop_putU32 units
  have hplaced : ∀ field ∈ putU32 order 4 units :: fields,
      InPlace 4 (List.replicate (32 + 4 * units.toNat) (0 : UInt8)).length field := by
    rw [hzeros]
    exact List.forall_mem_cons.mpr ⟨⟨Or.inr (Nat.le_refl 4), by omega⟩,
      fun field hm => (h field hm).mono⟩
  obtain ⟨record, hrecord, hsize, hkind, hsequence, -⟩ :=
    exists_header order 35 sequence (by omega) (within_detail detail) hplaced
  have hwords : (Blit.slice? record 4 8).map order.number = some units.toNat := by
    have hwritten : Layout.write (List.replicate (32 + 4 * units.toNat) 0)
        (writeEventHeader order 35 detail sequence ++ putU32 order 4 units :: fields) =
          some record := hrecord
    refine words_of_write hwritten ?_ h
    rw [hzeros]
    simp only [writeEventHeader, List.forall_mem_append, List.forall_mem_cons, stop_putU8,
      stop_putU16, hunits]
    refine ⟨⟨by omega, by omega, by omega, ?_⟩, by omega, fun field hm => (h field hm).2⟩
    simp only [List.not_mem_nil, false_imp_iff, implies_true]
  have hbegins : Begins order 35 sequence units.toNat record := ⟨hkind, hsequence, hwords⟩
  have hcomplete : CompleteRecord order sequence record ↔
      record.length = 32 + 4 * units.toNat := hbegins.complete_iff
  exact ⟨record, hrecord, hcomplete.mpr (hsize.trans hzeros)⟩

theorem number_zeros : order.number [0, 0, 0, 0] = 0 := by
  cases order <;> decide

/-- A generic event whose length field is never written. -/
theorem frames_shortGenericEvent (sequence : UInt16) (detail : UInt8)
    {fields : List (Layout.Field UInt8)} (h : ∀ field ∈ fields, InPlace 8 32 field) :
    Frames order sequence (Layout.write (List.replicate 32 0)
      (writeEventHeader order 35 detail sequence ++ fields)) := by
  have hzeros : (List.replicate 32 (0 : UInt8)).length = 32 := List.length_replicate
  have hplaced : ∀ field ∈ fields, InPlace 4 (List.replicate 32 (0 : UInt8)).length field := by
    rw [hzeros]
    exact fun field hm => (h field hm).mono
  obtain ⟨record, hrecord, hsize, hkind, hsequence, hkept⟩ :=
    exists_header order 35 sequence (by omega) (within_detail detail) hplaced
  have hslice : Blit.slice? record 4 (4 + 4) =
      Blit.slice? (List.replicate 32 (0 : UInt8)) 4 (4 + 4) := by
    refine Blit.slice?_congr (by omega) fun i hi => hkept (4 + i) (by omega) fun field hm => ?_
    obtain ⟨hplace, -⟩ := h field hm
    unfold Layout.Field.stop
    omega
  have hwords : (Blit.slice? record 4 8).map order.number = some 0 :=
    (congrArg (Option.map order.number) hslice).trans (congrArg some number_zeros)
  have hbegins : Begins order 35 sequence 0 record := ⟨hkind, hsequence, hwords⟩
  have hcomplete : CompleteRecord order sequence record ↔ record.length = 32 :=
    hbegins.complete_iff
  exact ⟨record, hrecord, hcomplete.mpr (hsize.trans hzeros)⟩

theorem frames_event_iff (event : XClientEvent) (hsendable : event.Sendable) :
    Frames order event.sequence (encodeXClientEvent order event) ↔ event.Representable order := by
  obtain ⟨sequence, content⟩ := event
  cases content with
  | clientMessage bytes =>
    obtain ⟨context, request, sent, hdecode, hsent⟩ := hsendable
    refine frames_clientMessage sequence bytes ?_
    intro hone
    have hkind := kind_of_decodeSendEvent hdecode hsent
    rw [hone] at hkind
    exact hkind (by decide)
  | presentCompleteNotify eventId window serial ust msc mode =>
    exact iff_of_true (frames_genericEvent sequence xPresentMajorOpcode 2 (by simp)) trivial
  | presentIdleNotify eventId window serial pixmap idleFence =>
    exact iff_of_true (frames_shortGenericEvent sequence xPresentMajorOpcode (by simp)) trivial
  | key pressed keycode time root event state =>
    exact iff_of_true (frames_plainEvent (by cases pressed <;> decide) (by simp)) trivial
  | focus focused detail event mode =>
    exact iff_of_true (frames_plainEvent (by cases focused <;> decide) (by simp)) trivial
  | pointerButton pressed button time root event rootX rootY eventX eventY state =>
    exact iff_of_true
      (frames_plainEvent (by cases pressed <;> decide) (by simp [pointerEvent])) trivial
  | pointerMotion time root event rootX rootY eventX eventY state =>
    exact iff_of_true (frames_plainEvent (by decide) (by simp [pointerEvent])) trivial
  | _ => exact iff_of_true (frames_plainEvent (by decide) (by simp)) trivial

end Events

end Sophia.Frontend
