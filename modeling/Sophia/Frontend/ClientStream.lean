import Sophia.Frontend.ReplyFraming

/-! The stream of records that a client reads. -/
namespace Sophia.Frontend

open Protocol Authority

variable {order : XByteOrder} {sequence : UInt16} {record rest : List UInt8}
  {stream : List (List UInt8)}

section Reading

/-- The client takes one record off what it has received. -/
def nextRecord (order : XByteOrder) (bytes : List UInt8) : Option (List UInt8 × List UInt8) := do
  let length ← recordLength order bytes
  if length ≤ bytes.length then some (bytes.splitAt length) else none

def readRecords (order : XByteOrder) : ℕ → List UInt8 → Option (List (List UInt8) × List UInt8)
  | 0, bytes => some ([], bytes)
  | count + 1, bytes => do
    let (record, rest) ← nextRecord order bytes
    let (records, rest) ← readRecords order count rest
    return (record :: records, rest)

theorem CompleteRecord.nextRecord_append (h : CompleteRecord order sequence record)
    (rest : List UInt8) : nextRecord order (record ++ rest) = some (record, rest) := by
  have hle : record.length ≤ (record ++ rest).length := by
    rw [List.length_append]
    omega
  rw [nextRecord, h.recordLength_append, Option.bind_eq_bind, Option.bind_some, if_pos hle,
    List.splitAt_eq, List.take_left, List.drop_left]

/-- Complete records are read as they were written, whatever comes behind them. -/
theorem readRecords_flatten
    (h : ∀ record ∈ stream, ∃ sequence, CompleteRecord order sequence record)
    (rest : List UInt8) :
    readRecords order stream.length (stream.flatten ++ rest) = some (stream, rest) := by
  induction stream with
  | nil => rfl
  | cons record stream ih =>
    obtain ⟨⟨sequence, hrecord⟩, hstream⟩ := List.forall_mem_cons.mp h
    rw [List.flatten_cons, List.append_assoc, List.length_cons, readRecords,
      hrecord.nextRecord_append, Option.bind_eq_bind, Option.bind_some]
    simp only [ih hstream]
    rfl

end Reading

section Outputs

/-- A list of fonts is a record for each and one more; any other reply is one record. -/
def XClientReply.records (order : XByteOrder) (r : XClientReply) : Option (List (List UInt8)) :=
  match r.content with
  | .listFontsWithInfo names => do
    let infos ← names.mapM fun name =>
      encodeFontInfoReply order r.sequence 8 2 (some (Codec.utf8Bytes name))
    let last ← encodeFontInfoReply order r.sequence 0 0 none
    return infos ++ [last]
  | _ => (encodeXClientReply order r).map ([·])

def XClientOutput.records (order : XByteOrder) : XClientOutput → Option (List (List UInt8))
  | .error e => (encodeXClientError order e).map ([·])
  | .event e => (encodeXClientEvent order e).map ([·])
  | .reply r => r.records order

/-- The output is complete records that bear its sequence number, and a client reads them. -/
def Framed (order : XByteOrder) (output : XClientOutput) : Prop :=
  ∃ records, output.records order = some records ∧
    encodeXClientOutput order output = some records.flatten ∧
    (∀ record ∈ records, CompleteRecord order output.sequence record) ∧
    ∀ rest, readRecords order records.length (records.flatten ++ rest) = some (records, rest)

def XClientOutput.RowsEqual : XClientOutput → Prop
  | .reply r => r.content.RowsEqual
  | _ => True

def XClientOutput.Sendable : XClientOutput → Prop
  | .event e => e.Sendable
  | _ => True

/-- An output whose length its length field can tell. -/
def XClientOutput.Representable (order : XByteOrder) : XClientOutput → Prop
  | .error _ => True
  | .event e => e.Representable order
  | .reply r => r.content.Representable

theorem flatten_one (encoded : Option (List UInt8)) :
    (encoded.map ([·])).map List.flatten = encoded := by
  cases encoded with
  | none => rfl
  | some record => exact congrArg some (List.flatten_singleton)

theorem records_of_ne {content : XClientReplyContent}
    (hfonts : ∀ names, content ≠ .listFontsWithInfo names) :
    XClientReply.records order ⟨sequence, content⟩ =
      (encodeXClientReply order ⟨sequence, content⟩).map ([·]) := by
  unfold XClientReply.records
  split
  · rename_i names hcontent
    exact absurd hcontent (hfonts names)
  · rfl

theorem flatten_fonts (names : List String) :
    (XClientReply.records order ⟨sequence, .listFontsWithInfo names⟩).map List.flatten =
      encodeXClientReply order ⟨sequence, .listFontsWithInfo names⟩ := by
  show ((names.mapM fun name =>
      encodeFontInfoReply order sequence 8 2 (some (Codec.utf8Bytes name))).bind fun infos =>
        (encodeFontInfoReply order sequence 0 0 none).bind fun last =>
          some (infos ++ [last])).map List.flatten =
    (names.mapM fun name =>
      encodeFontInfoReply order sequence 8 2 (some (Codec.utf8Bytes name))).bind fun infos =>
        (encodeFontInfoReply order sequence 0 0 none).bind fun last => some (infos.flatten ++ last)
  simp [Option.map_bind]

/-- The bytes of an output are those of its records. -/
theorem encodeXClientOutput_eq (output : XClientOutput) :
    encodeXClientOutput order output = (output.records order).map List.flatten := by
  cases output with
  | error e => exact (flatten_one _).symm
  | event e => exact (flatten_one _).symm
  | reply r =>
    obtain ⟨sequence, content⟩ := r
    by_cases hfonts : ∀ names, content ≠ .listFontsWithInfo names
    · show encodeXClientReply order ⟨sequence, content⟩ =
        (XClientReply.records order ⟨sequence, content⟩).map List.flatten
      rw [records_of_ne hfonts, flatten_one]
    · obtain ⟨names, hnames⟩ := not_forall.mp hfonts
      obtain rfl := not_not.mp hnames
      exact (flatten_fonts names).symm

theorem framed_iff {output : XClientOutput} :
    Framed order output ↔ ∃ records, output.records order = some records ∧
      ∀ record ∈ records, CompleteRecord order output.sequence record := by
  constructor
  · rintro ⟨records, hrecords, -, hall, -⟩
    exact ⟨records, hrecords, hall⟩
  · rintro ⟨records, hrecords, hall⟩
    refine ⟨records, hrecords, ?_, hall, ?_⟩
    · rw [encodeXClientOutput_eq, hrecords, Option.map_some]
    · exact readRecords_flatten fun record hm => ⟨output.sequence, hall record hm⟩

/-- An output that is one record is framed when the record is complete. -/
theorem framed_one_iff {output : XClientOutput} {encoded : Option (List UInt8)}
    (h : output.records order = encoded.map ([·])) :
    Framed order output ↔ Frames order output.sequence encoded := by
  rw [framed_iff, h]
  constructor
  · rintro ⟨records, hrecords, hall⟩
    obtain ⟨record, hrecord, rfl⟩ := Option.map_eq_some_iff.mp hrecords
    exact ⟨record, hrecord, hall record List.mem_cons_self⟩
  · rintro ⟨record, hrecord, hcomplete⟩
    exact ⟨[record], by rw [hrecord, Option.map_some], List.forall_mem_singleton.mpr hcomplete⟩

theorem frames_error (e : XClientError) :
    Frames order e.sequence (encodeXClientError order e) := by
  show Frames order e.sequence (plainEvent order e.sequence 0 e.code.wireCode
    [putU32 order 4 e.resourceId, putU16 order 8 e.minorCode, putU8 10 e.majorCode])
  exact frames_plainEvent (by decide) (by simp)

theorem framed_fonts_iff (names : List String) :
    Framed order (.reply ⟨sequence, .listFontsWithInfo names⟩) ↔
      (XClientReplyContent.listFontsWithInfo names).Representable := by
  have hall : (∀ name ∈ names, ∃ info,
      encodeFontInfoReply order sequence 8 2 (some (Codec.utf8Bytes name)) = some info ∧
        CompleteRecord order sequence info) ↔
      (XClientReplyContent.listFontsWithInfo names).Representable :=
    forall₂_congr fun name _ => frames_fontInfo_iff 8 2 (some (Codec.utf8Bytes name))
  obtain ⟨last, hlast, hcomplete⟩ : Frames order sequence
      (encodeFontInfoReply order sequence 0 0 none) :=
    (frames_fontInfo_iff 0 0 none).mpr (by decide)
  rw [framed_iff, ← hall, ← Fallible.mapM_forall_iff]
  constructor
  · rintro ⟨records, hrecords, hframed⟩
    obtain ⟨infos, hsome, hrest⟩ := Option.bind_eq_some_iff.mp hrecords
    obtain ⟨_, -, hrest⟩ := Option.bind_eq_some_iff.mp hrest
    cases hrest
    exact ⟨infos, hsome, (List.forall_mem_append.mp hframed).1⟩
  · rintro ⟨infos, hsome, hframed⟩
    refine ⟨infos ++ [last], ?_, List.forall_mem_append.mpr
      ⟨hframed, List.forall_mem_singleton.mpr hcomplete⟩⟩
    show (names.mapM fun name => encodeFontInfoReply order sequence 8 2
      (some (Codec.utf8Bytes name))).bind _ = _
    rw [hsome, Option.bind_some, hlast]
    rfl

/-- Exactly the outputs whose length their length field can tell are framed, in either byte order:
a client finds the end of each record, and its sequence number in it. -/
theorem framed_iff_representable (order : XByteOrder) (output : XClientOutput)
    (hrows : output.RowsEqual) (hsendable : output.Sendable) :
    Framed order output ↔ output.Representable order := by
  cases output with
  | error e => exact iff_of_true ((framed_one_iff rfl).mpr (frames_error e)) trivial
  | event e => exact (framed_one_iff rfl).trans (frames_event_iff e hsendable)
  | reply r =>
    obtain ⟨sequence, content⟩ := r
    by_cases hfonts : ∀ names, content ≠ .listFontsWithInfo names
    · have hone : (XClientOutput.reply ⟨sequence, content⟩).records order =
          (encodeXClientReply order ⟨sequence, content⟩).map ([·]) := records_of_ne hfonts
      exact (framed_one_iff hone).trans (frames_content_iff hrows hfonts)
    · obtain ⟨names, hnames⟩ := not_forall.mp hfonts
      obtain rfl := not_not.mp hnames
      exact framed_fonts_iff names

/-- A request to send an event of some type, with a one where the length of a reply would be. -/
def sendEventRequest (kind : UInt8) : List UInt8 :=
  [25, 0, 11, 0, 1, 0, 0, 0, 0, 0, 0, 0, kind, 0, 0, 0, 1] ++ List.replicate 27 0

/-- The event of that request as the client it is sent to gets it. -/
def sentEvent (kind : UInt8) : XClientOutput :=
  .event ⟨7, .clientMessage (Vector.ofFn fun i => (sendEventRequest kind).getD (12 + i) 0)⟩

theorem sentMessage_framed : Framed .littleEndian (sentEvent 33) :=
  (framed_iff_representable .littleEndian (sentEvent 33) trivial
    ⟨⟨.littleEndian, ⟨1⟩, ⟨1⟩, none⟩, sendEventRequest 33, _, rfl, rfl⟩).mpr
    fun h => absurd h (by decide)

theorem sentGenericEvent_not_framed : (sentEvent 35).RowsEqual ∧ (sentEvent 35).Sendable ∧
    ¬ Framed .littleEndian (sentEvent 35) := by
  refine ⟨trivial, ⟨⟨.littleEndian, ⟨1⟩, ⟨1⟩, none⟩, sendEventRequest 35, _, rfl, rfl⟩, ?_⟩
  intro hframed
  have hone : (sentEvent 35).records .littleEndian =
      (Layout.write (Vector.ofFn fun i : Fin 32 => (sendEventRequest 35).getD (12 + i) 0).toList
        [putU16 .littleEndian 2 7]).map ([·]) := rfl
  have hzero := (frames_clientMessage 7 _ (by decide)).mp ((framed_one_iff hone).mp hframed)
    (by decide)
  exact absurd hzero (by decide)

end Outputs

end Sophia.Frontend
