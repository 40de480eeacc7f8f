import Sophia.Lib.Codec
import Sophia.Protocol
import Sophia.Protocol.Wm

/-! The frame around every IPC message, and the words it is written in. -/
namespace Sophia.Ipc

open Sophia.Protocol Sophia.Codec Sophia.Fallible

def ipcMagic : UInt32 := 0x48504f53
def ipcVersion : UInt16 := 1
def ipcHeaderLen : ℕ := 24
def ipcMaxPayloadLen : ℕ := 64 * 1024
def ipcMaxItems : ℕ := 1024

inductive IpcMessageKind where
  | wmRequest
  | wmResponse
  | brokerHealth
  | xAuthorityRequest
  | xAuthorityResponse
  | portalBrokerRequest
  | portalBrokerResponse
  | wmHello
  | wmSessionDescriptor
  | portalClipboardPayload
  deriving DecidableEq, Repr

/-- The discriminant of the message kind. -/
def IpcMessageKind.code : IpcMessageKind → UInt16
  | .wmRequest => 1
  | .wmResponse => 2
  | .brokerHealth => 3
  | .xAuthorityRequest => 4
  | .xAuthorityResponse => 5
  | .portalBrokerRequest => 6
  | .portalBrokerResponse => 7
  | .wmHello => 9
  | .wmSessionDescriptor => 10
  | .portalClipboardPayload => 8

structure IpcFrameHeader where
  messageKind : IpcMessageKind
  transaction : TransactionId
  payloadLen : UInt32
  deriving DecidableEq, Repr

inductive IpcCodecError where
  | truncated
  | badMagic
  | unsupportedVersion (version : UInt16)
  | unknownMessageKind (kind : UInt16)
  | payloadTooLarge (len : ℕ)
  | reservedNonZero (reserved : UInt32)
  | trailingBytes (count : ℕ)
  | countTooLarge (count max : ℕ)
  | textTooLarge (field : String) (len max : ℕ)
  | invalidUtf8 (field : String)
  | invalidEnum (field : String) (value : UInt32)
  | invalidBool (field : String) (value : UInt8)
  deriving DecidableEq, Repr

def pushU8 (value : UInt8) : List UInt8 := [value]
def pushU16 (value : UInt16) : List UInt8 := toLe 2 value.toNat
def pushU32 (value : UInt32) : List UInt8 := toLe 4 value.toNat
def pushU64 (value : UInt64) : List UInt8 := toLe 8 value.toNat
def pushI32 (value : Int32) : List UInt8 := pushU32 value.toUInt32

/-- A reader over the bytes that are left. -/
abbrev Cursor := Decoder IpcCodecError

namespace Cursor

def u8 : Cursor UInt8 := do return UInt8.ofNat (← word .truncated 1)
def u16 : Cursor UInt16 := do return UInt16.ofNat (← word .truncated 2)
def u32 : Cursor UInt32 := do return UInt32.ofNat (← word .truncated 4)
def u64 : Cursor UInt64 := do return UInt64.ofNat (← word .truncated 8)
def i32 : Cursor Int32 := do return (← u32).toInt32

def slice (len : ℕ) : Cursor (List UInt8) := take .truncated len

/-- The whole payload is read and nothing is left over. -/
def finish {α : Type} (d : Cursor α) (payload : List UInt8) : Except IpcCodecError α := do
  let (packet, rest) ← d.run payload
  require (rest.length = 0) (.trailingBytes rest.length)
  return packet

variable {α : Type} {d : Cursor α} {payload : List UInt8} {a : α}

theorem inverts_u8 : Inverts u8 pushU8 := by
  intro input v rest
  have hpush : pushU8 v = toLe 1 v.toNat := by simp [pushU8, toLe]
  rw [hpush]
  exact inverts_word (fun w => w.toNat_lt) (fun _ => UInt8.ofNat_toNat)
    (fun n hn => UInt8.toNat_ofNat_of_lt' hn) input v rest

theorem inverts_u16 : Inverts u16 pushU16 :=
  inverts_word (fun w => w.toNat_lt) (fun _ => UInt16.ofNat_toNat)
    fun _ hn => UInt16.toNat_ofNat_of_lt' hn

theorem inverts_u32 : Inverts u32 pushU32 :=
  inverts_word (fun w => w.toNat_lt) (fun _ => UInt32.ofNat_toNat)
    fun _ hn => UInt32.toNat_ofNat_of_lt' hn

theorem inverts_u64 : Inverts u64 pushU64 :=
  inverts_word (fun w => w.toNat_lt) (fun _ => UInt64.ofNat_toNat)
    fun _ hn => UInt64.toNat_ofNat_of_lt' hn

theorem inverts_i32 : Inverts i32 pushI32 := by
  intro input v rest
  simp only [i32, bind_run_eq_ok, inverts_u32 _ _ _, pure_run_eq_ok]
  constructor
  · rintro ⟨bits, mid, rfl, rfl, rfl⟩
    rfl
  · rintro rfl
    exact ⟨v.toUInt32, rest, rfl, rfl, rfl⟩

theorem finish_eq_ok : finish d payload = .ok a ↔ d.run payload = .ok (a, []) := by
  simp only [finish, bind_eq_ok, require_eq_ok, pure_eq_ok, Prod.exists]
  constructor
  · rintro ⟨packet, rest, hrun, -, hrest, rfl⟩
    rwa [List.length_eq_zero_iff.mp hrest] at hrun
  · intro hrun
    exact ⟨a, [], hrun, (), rfl, rfl⟩

end Cursor

def encodeFrame (messageKind : IpcMessageKind) (transaction : TransactionId)
    (payload : List UInt8) : Except IpcCodecError (List UInt8) :=
  if ipcMaxPayloadLen < payload.length then .error (.payloadTooLarge payload.length)
  else .ok (pushU32 ipcMagic ++ pushU16 ipcVersion ++ pushU16 messageKind.code ++
    pushU64 transaction.raw ++ pushU32 (UInt32.ofNat payload.length) ++ pushU32 0 ++ payload)

def messageKinds : List (ℕ × IpcMessageKind) :=
  [(1, .wmRequest), (2, .wmResponse), (3, .brokerHealth), (4, .xAuthorityRequest),
    (5, .xAuthorityResponse), (6, .portalBrokerRequest), (7, .portalBrokerResponse),
    (8, .portalClipboardPayload), (9, .wmHello), (10, .wmSessionDescriptor)]

def decodeMessageKind (code : UInt16) : Except IpcCodecError IpcMessageKind :=
  match messageKinds.lookup code.toNat with
  | some messageKind => .ok messageKind
  | none => .error (.unknownMessageKind code)

/-- The fields before the payload, up to the checks that look at them alone. -/
def decodeHeader : Cursor IpcFrameHeader := do
  let magic ← Cursor.u32
  require (magic = ipcMagic) IpcCodecError.badMagic
  let version ← Cursor.u16
  require (version = ipcVersion) (IpcCodecError.unsupportedVersion version)
  let messageKind ← decodeMessageKind (← Cursor.u16)
  let transaction : TransactionId := .fromRaw (← Cursor.u64)
  let payloadLen ← Cursor.u32
  let reserved ← Cursor.u32
  require (reserved = 0) (IpcCodecError.reservedNonZero reserved)
  require (payloadLen.toNat ≤ ipcMaxPayloadLen) (IpcCodecError.payloadTooLarge payloadLen.toNat)
  return { messageKind, transaction, payloadLen }

def decodeFrame (frame : List UInt8) : Except IpcCodecError (IpcFrameHeader × List UInt8) := do
  require (ipcHeaderLen ≤ frame.length) IpcCodecError.truncated
  let (header, _) ← decodeHeader.run frame
  let expectedLen := ipcHeaderLen + header.payloadLen.toNat
  require (expectedLen ≤ frame.length) IpcCodecError.truncated
  require (frame.length ≤ expectedLen) (IpcCodecError.trailingBytes (frame.length - expectedLen))
  return (header, (frame.take expectedLen).drop ipcHeaderLen)

def expectMessageKind (actual expected : IpcMessageKind) : Except IpcCodecError Unit :=
  require (actual = expected) (.invalidEnum "message_kind" actual.code.toUInt32)

/-- A frame of the expected kind whose payload is read to its end. -/
def decodeMessage {α : Type} (expected : IpcMessageKind) (d : TransactionId → Cursor α)
    (frame : List UInt8) : Except IpcCodecError α := do
  let (header, payload) ← decodeFrame frame
  expectMessageKind header.messageKind expected
  Cursor.finish (d header.transaction) payload

section Frames

variable {input rest frame payload : List UInt8} {messageKind : IpcMessageKind}
  {transaction : TransactionId} {header : IpcFrameHeader} {code : UInt16}

theorem tags_messageKinds : Tags (fun kind => kind.code.toNat) messageKinds := by
  refine ⟨?_, by decide⟩
  intro kind
  cases kind <;> rfl

theorem decodeMessageKind_eq_ok :
    decodeMessageKind code = .ok messageKind ↔ code = messageKind.code := by
  rw [← UInt16.toNat_inj, ← tags_messageKinds.lookup_eq_some, decodeMessageKind]
  cases messageKinds.lookup code.toNat <;> simp

/-- The header as it is written. -/
def headerBytes (header : IpcFrameHeader) : List UInt8 :=
  pushU32 ipcMagic ++ pushU16 ipcVersion ++ pushU16 header.messageKind.code ++
    pushU64 header.transaction.raw ++ pushU32 header.payloadLen ++ pushU32 0

theorem length_headerBytes (header : IpcFrameHeader) :
    (headerBytes header).length = ipcHeaderLen := by
  simp only [headerBytes, List.length_append, pushU32, pushU16, pushU64, length_toLe]
  rfl

theorem decodeHeader_run_eq_ok : decodeHeader.run input = .ok (header, rest) ↔
    header.payloadLen.toNat ≤ ipcMaxPayloadLen ∧ input = headerBytes header ++ rest := by
  simp only [decodeHeader, bind_run_eq_ok, lift_run_eq_ok, require_eq_ok, pure_run_eq_ok,
    Cursor.inverts_u16 _ _ _, Cursor.inverts_u32 _ _ _, Cursor.inverts_u64 _ _ _,
    decodeMessageKind_eq_ok]
  constructor
  · rintro ⟨_, _, rfl, _, _, ⟨rfl, rfl⟩, _, _, rfl, _, _, ⟨rfl, rfl⟩, _, _, rfl, _, _, ⟨rfl, rfl⟩,
      _, _, rfl, _, _, rfl, _, _, rfl, _, _, ⟨rfl, rfl⟩, _, _, ⟨hlen, rfl⟩, rfl, rfl⟩
    exact ⟨hlen, by simp [headerBytes, SimpleId.fromRaw]⟩
  · rintro ⟨hlen, rfl⟩
    simp only [headerBytes, List.append_assoc]
    exact ⟨_, _, rfl, (), _, ⟨rfl, rfl⟩, _, _, rfl, (), _, ⟨rfl, rfl⟩, _, _, rfl, _, _, ⟨rfl, rfl⟩,
      _, _, rfl, _, _, rfl, _, _, rfl, (), _, ⟨rfl, rfl⟩, (), _, ⟨hlen, rfl⟩, rfl, rfl⟩

/-- A frame is accepted exactly when it is the encoding of its header and payload. -/
theorem decodeFrame_eq_ok : decodeFrame frame = .ok (header, payload) ↔
    encodeFrame header.messageKind header.transaction payload = .ok frame ∧
      header.payloadLen = UInt32.ofNat payload.length := by
  simp only [decodeFrame, bind_eq_ok, require_eq_ok, pure_eq_ok, Prod.exists,
    decodeHeader_run_eq_ok]
  constructor
  · rintro ⟨_, hshort, found, rest, ⟨hmax, rfl⟩, _, hle, _, hge, he⟩
    cases he
    rw [List.length_append, length_headerBytes] at hle hge
    have hlen : rest.length = header.payloadLen.toNat := by omega
    have hpayload : ((headerBytes header ++ rest).take
        (ipcHeaderLen + header.payloadLen.toNat)).drop ipcHeaderLen = rest := by
      rw [← hlen, ← length_headerBytes header, ← List.length_append, List.take_length,
        List.drop_left]
    rw [hpayload]
    have hword : header.payloadLen = UInt32.ofNat rest.length := by
      rw [hlen, UInt32.ofNat_toNat]
    refine ⟨?_, hword⟩
    rw [encodeFrame, if_neg (by omega), ← hword]
    simp [headerBytes]
  · rintro ⟨hencode, hword⟩
    unfold encodeFrame at hencode
    split at hencode
    · cases hencode
    · rename_i hmax
      cases hencode
      have hlen : header.payloadLen.toNat = payload.length := by
        rw [hword, UInt32.toNat_ofNat_of_lt']
        simp only [ipcMaxPayloadLen] at hmax
        show payload.length < 2 ^ 32
        omega
      have hframe : pushU32 ipcMagic ++ pushU16 ipcVersion ++ pushU16 header.messageKind.code ++
          pushU64 header.transaction.raw ++ pushU32 (UInt32.ofNat payload.length) ++ pushU32 0 ++
          payload = headerBytes header ++ payload := by
        rw [headerBytes, hword]
      have htotal : (headerBytes header ++ payload).length = ipcHeaderLen + payload.length := by
        rw [List.length_append, length_headerBytes]
      rw [hframe]
      refine ⟨(), by omega, header, payload, ⟨by omega, rfl⟩, (), by omega, (), by omega, ?_⟩
      rw [hlen, ← htotal, List.take_length, ← length_headerBytes header, List.drop_left]

/-- A message is accepted exactly when it is a frame of its kind around a payload that is read to
its end. -/
theorem decodeMessage_eq_ok {α : Type} {d : TransactionId → Cursor α} {a : α} :
    decodeMessage messageKind d frame = .ok a ↔ ∃ transaction payload,
      encodeFrame messageKind transaction payload = .ok frame ∧
        (d transaction).run payload = .ok (a, []) := by
  simp only [decodeMessage, expectMessageKind, bind_eq_ok, require_eq_ok, Cursor.finish_eq_ok,
    Prod.exists, decodeFrame_eq_ok]
  constructor
  · rintro ⟨header, payload, ⟨hframe, -⟩, _, rfl, hrun⟩
    exact ⟨header.transaction, payload, hframe, hrun⟩
  · rintro ⟨transaction, payload, hframe, hrun⟩
    exact ⟨⟨messageKind, transaction, UInt32.ofNat payload.length⟩, payload, ⟨hframe, rfl⟩, (),
      rfl, hrun⟩

end Frames
end Sophia.Ipc

/-! The parts that IPC payloads are built from. -/
namespace Sophia.Ipc

open Sophia.Protocol Sophia.Codec Sophia.Fallible

section Counts

variable {α : Type} {d : Cursor α} {encode : α → List UInt8} {items : List α}
  {input rest : List UInt8}

def checkCount (count : ℕ) : Except IpcCodecError Unit :=
  require (count ≤ ipcMaxItems) (.countTooLarge count ipcMaxItems)

def decodeCount : Cursor ℕ := do
  let count := (← Cursor.u32).toNat
  checkCount count
  return count

def encodeList (encode : α → List UInt8) (items : List α) : List UInt8 :=
  pushU32 (UInt32.ofNat items.length) ++ items.flatMap encode

def decodeList (d : Cursor α) : Cursor (List α) := do
  let count ← decodeCount
  readMany d count

theorem toNat_count {count : ℕ} (h : count ≤ ipcMaxItems) :
    (UInt32.ofNat count).toNat = count := by
  apply UInt32.toNat_ofNat_of_lt'
  show count < 2 ^ 32
  simp only [ipcMaxItems] at h
  omega

theorem decodeCount_run_eq_ok {count : ℕ} : decodeCount.run input = .ok (count, rest) ↔
    count ≤ ipcMaxItems ∧ input = pushU32 (UInt32.ofNat count) ++ rest := by
  simp only [decodeCount, checkCount, bind_run_eq_ok, lift_run_eq_ok, require_eq_ok,
    pure_run_eq_ok, Cursor.inverts_u32 _ _ _]
  constructor
  · rintro ⟨bits, _, rfl, _, _, ⟨hle, rfl⟩, rfl, rfl⟩
    exact ⟨hle, by rw [UInt32.ofNat_toNat]⟩
  · rintro ⟨hle, rfl⟩
    have hcount := toNat_count hle
    exact ⟨_, rest, rfl, (), rest, ⟨by rw [hcount]; exact hle, rfl⟩, hcount, rfl⟩

/-- A counted list that is not too long is read back. -/
theorem reads_decodeList (h : Reads d encode) (hlen : items.length ≤ ipcMaxItems) :
    (decodeList d).run (encodeList encode items ++ rest) = .ok (items, rest) := by
  rw [decodeList, bind_run_eq_ok]
  refine ⟨items.length, items.flatMap encode ++ rest, ?_, reads_readMany h items rest⟩
  rw [decodeCount_run_eq_ok, encodeList, List.append_assoc]
  exact ⟨hlen, rfl⟩

theorem decodeList_run_eq_ok (h : Inverts d encode) :
    (decodeList d).run input = .ok (items, rest) ↔
      items.length ≤ ipcMaxItems ∧ input = encodeList encode items ++ rest := by
  constructor
  · simp only [decodeList, bind_run_eq_ok, decodeCount_run_eq_ok, readMany_run_eq_ok h]
    rintro ⟨_, _, ⟨hle, rfl⟩, rfl, rfl⟩
    exact ⟨hle, by rw [encodeList, List.append_assoc]⟩
  · rintro ⟨hle, rfl⟩
    exact reads_decodeList h.reads hle

end Counts

section Choices

variable {α : Type} {d : Cursor α} {encode : α → List UInt8}

/-- One of the values of a table, by its code. -/
def decodeEnum (field : String) (table : List (ℕ × α)) (code : ℕ) : Except IpcCodecError α :=
  match table.lookup code with
  | some value => .ok value
  | none => .error (.invalidEnum field (UInt32.ofNat code))

theorem decodeEnum_eq_ok {field : String} {table : List (ℕ × α)} {code : α → ℕ} {n : ℕ} {a : α}
    (h : Tags code table) : decodeEnum field table n = .ok a ↔ n = code a := by
  rw [← h.lookup_eq_some, decodeEnum]
  cases table.lookup n <;> simp

theorem decodeEnum_u16_eq_ok (encode : α → UInt16) {field : String} {table : List (ℕ × α)}
    (h : Tags (fun a => (encode a).toNat) table) {value : UInt16} {a : α} :
    decodeEnum field table value.toNat = .ok a ↔ value = encode a := by
  rw [decodeEnum_eq_ok h, UInt16.toNat_inj]

theorem decodeEnum_u8_eq_ok (encode : α → UInt8) {field : String} {table : List (ℕ × α)}
    (h : Tags (fun a => (encode a).toNat) table) {value : UInt8} {a : α} :
    decodeEnum field table value.toNat = .ok a ↔ value = encode a := by
  rw [decodeEnum_eq_ok h, UInt8.toNat_inj]

def encodeBool (value : Bool) : List UInt8 := pushU8 (if value then 1 else 0)

def decodeBool (field : String) : Cursor Bool := do
  let tag ← Cursor.u8
  match tag.toNat with
  | 0 => return false
  | 1 => return true
  | _ => throw (IpcCodecError.invalidBool field tag)

/-- An optional part behind a byte that says whether it is there. -/
def encodeOption (encode : α → List UInt8) : Option α → List UInt8
  | some value => pushU8 1 ++ encode value
  | none => pushU8 0

def decodeOption (field : String) (d : Cursor α) : Cursor (Option α) := do
  let tag ← Cursor.u8
  match tag.toNat with
  | 0 => return none
  | 1 => return some (← d)
  | _ => throw (IpcCodecError.invalidBool field tag)

theorem inverts_decodeBool (field : String) : Inverts (decodeBool field) encodeBool := by
  intro input value rest
  simp only [decodeBool, bind_run_eq_ok, Cursor.inverts_u8 _ _ _]
  constructor
  · rintro ⟨tag, mid, rfl, hrun⟩
    split at hrun
    · rename_i htag
      obtain ⟨rfl, rfl⟩ := pure_run_eq_ok.mp hrun
      rw [show tag = 0 from UInt8.toNat_inj.mp htag]
      rfl
    · rename_i htag
      obtain ⟨rfl, rfl⟩ := pure_run_eq_ok.mp hrun
      rw [show tag = 1 from UInt8.toNat_inj.mp htag]
      rfl
    · cases hrun
  · rintro rfl
    cases value
    · exact ⟨0, rest, rfl, rfl⟩
    · exact ⟨1, rest, rfl, rfl⟩

theorem decodeOption_run_eq_ok {field : String} {value : Option α} {input rest : List UInt8} :
    (decodeOption field d).run input = .ok (value, rest) ↔
      (value = none ∧ input = pushU8 0 ++ rest) ∨
        ∃ a mid, value = some a ∧ input = pushU8 1 ++ mid ∧ d.run mid = .ok (a, rest) := by
  simp only [decodeOption, bind_run_eq_ok, Cursor.inverts_u8 _ _ _]
  constructor
  · rintro ⟨tag, mid, rfl, hrun⟩
    split at hrun
    · rename_i htag
      obtain ⟨rfl, rfl⟩ := pure_run_eq_ok.mp hrun
      rw [show tag = 0 from UInt8.toNat_inj.mp htag]
      exact Or.inl ⟨rfl, rfl⟩
    · rename_i htag
      obtain ⟨found, mid', hfound, hsome⟩ := bind_run_eq_ok.mp hrun
      obtain ⟨rfl, rfl⟩ := pure_run_eq_ok.mp hsome
      rw [show tag = 1 from UInt8.toNat_inj.mp htag]
      exact Or.inr ⟨found, mid, rfl, rfl, hfound⟩
    · cases hrun
  · rintro (⟨rfl, rfl⟩ | ⟨found, mid, rfl, rfl, hfound⟩)
    · exact ⟨0, rest, rfl, rfl⟩
    · exact ⟨1, mid, rfl, bind_run_eq_ok.mpr ⟨found, rest, hfound, rfl⟩⟩

theorem inverts_decodeOption (h : Inverts d encode) (field : String) :
    Inverts (decodeOption field d) (encodeOption encode) := by
  intro input value rest
  rw [decodeOption_run_eq_ok]
  constructor
  · rintro (⟨rfl, rfl⟩ | ⟨found, mid, rfl, rfl, hfound⟩)
    · rfl
    · rw [(h _ _ _).mp hfound, encodeOption, List.append_assoc]
  · rintro rfl
    cases value with
    | none => exact Or.inl ⟨rfl, rfl⟩
    | some found =>
      exact Or.inr ⟨found, _, rfl, by rw [encodeOption, List.append_assoc], (h _ _ _).mpr rfl⟩

end Choices

section Ids

def encodeSurfaceId (id : SurfaceId) : List UInt8 := pushU32 id.index ++ pushU32 id.generation

def decodeSurfaceId : Cursor SurfaceId := do
  let index ← Cursor.u32
  let generation ← Cursor.u32
  return { index, generation }

variable {kind : IdKind}

/-- The ids that are one word: workspaces, outputs, actions, transfers and namespaces. -/
def encodeSimpleId (id : SimpleId kind) : List UInt8 := pushU64 id.raw

def decodeSimpleId : Cursor (SimpleId kind) := do
  return .fromRaw (← Cursor.u64)

def encodeWorkspaceId : WorkspaceId → List UInt8 := encodeSimpleId
def decodeWorkspaceId : Cursor WorkspaceId := decodeSimpleId
def encodeOutputId : OutputId → List UInt8 := encodeSimpleId
def decodeOutputId : Cursor OutputId := decodeSimpleId

theorem inverts_decodeSurfaceId : Inverts decodeSurfaceId encodeSurfaceId := by
  intro input id rest
  simp only [decodeSurfaceId, bind_run_eq_ok, pure_run_eq_ok, Cursor.inverts_u32 _ _ _]
  constructor
  · rintro ⟨index, _, rfl, generation, _, rfl, rfl, rfl⟩
    simp [encodeSurfaceId]
  · rintro rfl
    exact ⟨_, _, by rw [encodeSurfaceId, List.append_assoc], _, _, rfl, rfl, rfl⟩

theorem inverts_decodeSimpleId :
    Inverts (decodeSimpleId : Cursor (SimpleId kind)) encodeSimpleId := by
  intro input id rest
  simp only [decodeSimpleId, bind_run_eq_ok, pure_run_eq_ok, Cursor.inverts_u64 _ _ _]
  constructor
  · rintro ⟨raw, _, rfl, rfl, rfl⟩
    rfl
  · rintro rfl
    exact ⟨_, rest, rfl, rfl, rfl⟩

theorem inverts_decodeWorkspaceId : Inverts decodeWorkspaceId encodeWorkspaceId :=
  inverts_decodeSimpleId

theorem inverts_decodeOutputId : Inverts decodeOutputId encodeOutputId := inverts_decodeSimpleId

end Ids

section Geometry

def encodeRect (rect : Rect) : List UInt8 :=
  pushI32 rect.x ++ pushI32 rect.y ++ pushI32 rect.width ++ pushI32 rect.height

def decodeRect : Cursor Rect := do
  let x ← Cursor.i32
  let y ← Cursor.i32
  let width ← Cursor.i32
  let height ← Cursor.i32
  return { x, y, width, height }

def encodeSize (size : Size) : List UInt8 := pushI32 size.width ++ pushI32 size.height

def decodeSize : Cursor Size := do
  let width ← Cursor.i32
  let height ← Cursor.i32
  return { width, height }

def encodeOptionSize : Option Size → List UInt8 := encodeOption encodeSize
def decodeOptionSize : Cursor (Option Size) := decodeOption "option_size" decodeSize
def encodeOptionRect : Option Rect → List UInt8 := encodeOption encodeRect
def decodeOptionRect : Cursor (Option Rect) := decodeOption "option_rect" decodeRect

def encodeConstraints (constraints : SurfaceConstraints) : List UInt8 :=
  encodeOptionSize constraints.minSize ++ encodeOptionSize constraints.maxSize

def decodeConstraints : Cursor SurfaceConstraints := do
  let minSize ← decodeOptionSize
  let maxSize ← decodeOptionSize
  return { minSize, maxSize }

/-- The coefficients of a transform as the bits of single-precision numbers. -/
abbrev TransformBits := Vector UInt32 9

def encodeTransform (transform : TransformBits) : List UInt8 := transform.toList.flatMap pushU32

def decodeTransform : Cursor TransformBits := readArray Cursor.u32 9

theorem inverts_decodeRect : Inverts decodeRect encodeRect := by
  intro input rect rest
  simp only [decodeRect, bind_run_eq_ok, pure_run_eq_ok, Cursor.inverts_i32 _ _ _]
  constructor
  · rintro ⟨x, _, rfl, y, _, rfl, width, _, rfl, height, _, rfl, rfl, rfl⟩
    simp [encodeRect]
  · rintro rfl
    simp only [encodeRect, List.append_assoc]
    exact ⟨_, _, rfl, _, _, rfl, _, _, rfl, _, _, rfl, rfl, rfl⟩

theorem inverts_decodeSize : Inverts decodeSize encodeSize := by
  intro input size rest
  simp only [decodeSize, bind_run_eq_ok, pure_run_eq_ok, Cursor.inverts_i32 _ _ _]
  constructor
  · rintro ⟨width, _, rfl, height, _, rfl, rfl, rfl⟩
    simp [encodeSize]
  · rintro rfl
    simp only [encodeSize, List.append_assoc]
    exact ⟨_, _, rfl, _, _, rfl, rfl, rfl⟩

theorem inverts_decodeOptionSize : Inverts decodeOptionSize encodeOptionSize :=
  inverts_decodeOption inverts_decodeSize "option_size"

theorem inverts_decodeOptionRect : Inverts decodeOptionRect encodeOptionRect :=
  inverts_decodeOption inverts_decodeRect "option_rect"

theorem inverts_decodeConstraints : Inverts decodeConstraints encodeConstraints := by
  intro input constraints rest
  simp only [decodeConstraints, bind_run_eq_ok, pure_run_eq_ok, inverts_decodeOptionSize _ _ _]
  constructor
  · rintro ⟨minSize, _, rfl, maxSize, _, rfl, rfl, rfl⟩
    simp [encodeConstraints]
  · rintro rfl
    simp only [encodeConstraints, List.append_assoc]
    exact ⟨_, _, rfl, _, _, rfl, rfl, rfl⟩

theorem inverts_decodeTransform : Inverts decodeTransform encodeTransform :=
  inverts_readArray Cursor.inverts_u32 9

end Geometry

section LayoutNodes

def encodeLayoutNodeKind : LayoutNodeKind → UInt16
  | .toplevel => 1
  | .dialog => 2
  | .utility => 3
  | .unknown => 4

def decodeLayoutNodeKind (value : UInt16) : Except IpcCodecError LayoutNodeKind :=
  decodeEnum "layout_node_kind" [(1, .toplevel), (2, .dialog), (3, .utility), (4, .unknown)]
    value.toNat

/-- Five flags in the low bits of a word. -/
def flagBits (a b c d e : Bool) : UInt16 :=
  a.toUInt16 ||| (b.toUInt16 <<< 1) ||| (c.toUInt16 <<< 2) ||| (d.toUInt16 <<< 3) |||
    (e.toUInt16 <<< 4)

def hasFlag (bits position : UInt16) : Bool := bits &&& (1 <<< position) ≠ 0

def encodeCapabilities (capabilities : LayoutNodeCapabilities) : UInt16 :=
  flagBits capabilities.movable capabilities.resizable capabilities.focusable
    capabilities.closable capabilities.fullscreenable

-- The bits above the flags are not looked at, here and for the node state.
def decodeCapabilities (bits : UInt16) : LayoutNodeCapabilities where
  movable := hasFlag bits 0
  resizable := hasFlag bits 1
  focusable := hasFlag bits 2
  closable := hasFlag bits 3
  fullscreenable := hasFlag bits 4

def encodeNodeState (state : LayoutNodeState) : UInt16 :=
  flagBits state.focused state.urgent state.fullscreen state.floating state.visible

def decodeNodeState (bits : UInt16) : LayoutNodeState where
  focused := hasFlag bits 0
  urgent := hasFlag bits 1
  fullscreen := hasFlag bits 2
  floating := hasFlag bits 3
  visible := hasFlag bits 4

def encodeLayoutNode (node : LayoutNodeSnapshot) : List UInt8 :=
  encodeSurfaceId node.surface ++ encodeWorkspaceId node.workspace ++
    pushU16 (encodeLayoutNodeKind node.kind) ++ pushU16 (encodeCapabilities node.capabilities) ++
    pushU16 (encodeNodeState node.state) ++ encodeConstraints node.constraints ++
    encodeRect node.geometry ++ pushU64 node.generation

def decodeLayoutNode : Cursor LayoutNodeSnapshot := do
  let surface ← decodeSurfaceId
  let workspace ← decodeWorkspaceId
  let kind ← decodeLayoutNodeKind (← Cursor.u16)
  let capabilities := decodeCapabilities (← Cursor.u16)
  let state := decodeNodeState (← Cursor.u16)
  let constraints ← decodeConstraints
  let geometry ← decodeRect
  let generation ← Cursor.u64
  return { surface, workspace, kind, capabilities, state, constraints, geometry, generation }

theorem decodeLayoutNodeKind_eq_ok {value : UInt16} {kind : LayoutNodeKind} :
    decodeLayoutNodeKind value = .ok kind ↔ value = encodeLayoutNodeKind kind :=
  decodeEnum_u16_eq_ok encodeLayoutNodeKind ⟨fun kind => by cases kind <;> rfl, by decide⟩

theorem hasFlag_flagBits (a b c d e : Bool) :
    hasFlag (flagBits a b c d e) 0 = a ∧ hasFlag (flagBits a b c d e) 1 = b ∧
      hasFlag (flagBits a b c d e) 2 = c ∧ hasFlag (flagBits a b c d e) 3 = d ∧
      hasFlag (flagBits a b c d e) 4 = e := by
  revert a b c d e
  decide

theorem decodeCapabilities_encode (capabilities : LayoutNodeCapabilities) :
    decodeCapabilities (encodeCapabilities capabilities) = capabilities := by
  obtain ⟨a, b, c, d, e⟩ := capabilities
  obtain ⟨ha, hb, hc, hd, he⟩ := hasFlag_flagBits a b c d e
  simp only [decodeCapabilities, encodeCapabilities, ha, hb, hc, hd, he]

theorem decodeNodeState_encode (state : LayoutNodeState) :
    decodeNodeState (encodeNodeState state) = state := by
  obtain ⟨a, b, c, d, e⟩ := state
  obtain ⟨ha, hb, hc, hd, he⟩ := hasFlag_flagBits a b c d e
  simp only [decodeNodeState, encodeNodeState, ha, hb, hc, hd, he]

theorem reads_decodeLayoutNode : Reads decodeLayoutNode encodeLayoutNode := by
  intro node rest
  simp only [decodeLayoutNode, bind_run_eq_ok, pure_run_eq_ok, lift_run_eq_ok,
    inverts_decodeSurfaceId _ _ _, inverts_decodeWorkspaceId _ _ _, Cursor.inverts_u16 _ _ _,
    decodeLayoutNodeKind_eq_ok, inverts_decodeConstraints _ _ _, inverts_decodeRect _ _ _,
    Cursor.inverts_u64 _ _ _, encodeLayoutNode, List.append_assoc]
  refine ⟨_, _, rfl, _, _, rfl, _, _, rfl, _, _, ⟨rfl, rfl⟩, _, _, rfl, _, _, rfl, _, _, rfl,
    _, _, rfl, _, _, rfl, ?_, rfl⟩
  rw [decodeCapabilities_encode, decodeNodeState_encode]

end LayoutNodes

section Texts

variable {field : String} {value : Option String} {max : ℕ} {input rest bytes : List UInt8}

def encodeOptionalText (field : String) (value : Option String) (max : ℕ) :
    Except IpcCodecError (List UInt8) :=
  match value with
  | some text =>
    if max < text.utf8ByteSize then .error (.textTooLarge field text.utf8ByteSize max)
    else .ok (pushU8 1 ++ pushU16 (UInt16.ofNat text.utf8ByteSize) ++ utf8Bytes text)
  | none => .ok (pushU8 0)

def decodeText (field : String) (max : ℕ) : Cursor String := do
  let len := (← Cursor.u16).toNat
  require (len ≤ max) (IpcCodecError.textTooLarge field len max)
  let bytes ← Cursor.slice len
  match fromUtf8 bytes with
  | some text => return text
  | none => throw (IpcCodecError.invalidUtf8 field)

def decodeOptionalText (field : String) (max : ℕ) : Cursor (Option String) :=
  decodeOption field (decodeText field max)

/-- A text is accepted exactly when its length and its bytes are those of a short enough string. -/
theorem decodeText_run_eq_ok {text : String} (hmax : max < 2 ^ 16) :
    (decodeText field max).run input = .ok (text, rest) ↔ text.utf8ByteSize ≤ max ∧
      input = pushU16 (UInt16.ofNat text.utf8ByteSize) ++ utf8Bytes text ++ rest := by
  simp only [decodeText, Cursor.slice, bind_run_eq_ok, lift_run_eq_ok, require_eq_ok,
    take_run_eq_ok, Cursor.inverts_u16 _ _ _]
  constructor
  · rintro ⟨len, _, rfl, _, _, ⟨hle, rfl⟩, bytes, _, ⟨hlen, rfl⟩, hrun⟩
    split at hrun
    · rename_i found hfound
      obtain ⟨rfl, rfl⟩ := pure_run_eq_ok.mp hrun
      obtain rfl := fromUtf8_eq_some.mp hfound
      rw [length_utf8Bytes] at hlen
      rw [hlen, UInt16.ofNat_toNat, List.append_assoc]
      exact ⟨hle, rfl⟩
    · cases hrun
  · rintro ⟨hle, rfl⟩
    have hlen : (UInt16.ofNat text.utf8ByteSize).toNat = text.utf8ByteSize := by
      apply UInt16.toNat_ofNat_of_lt'
      show text.utf8ByteSize < 2 ^ 16
      omega
    refine ⟨_, _, by rw [List.append_assoc], (), _, ⟨by rw [hlen]; exact hle, rfl⟩,
      utf8Bytes text, rest, ⟨by rw [hlen, length_utf8Bytes], rfl⟩, ?_⟩
    rw [show fromUtf8 (utf8Bytes text) = some text from fromUtf8_eq_some.mpr rfl]
    rfl

theorem decodeOptionalText_run_eq_ok (hmax : max < 2 ^ 16) :
    (decodeOptionalText field max).run input = .ok (value, rest) ↔
      ∃ bytes, encodeOptionalText field value max = .ok bytes ∧ input = bytes ++ rest := by
  simp only [decodeOptionalText, decodeOption_run_eq_ok, decodeText_run_eq_ok hmax]
  constructor
  · rintro (⟨rfl, rfl⟩ | ⟨text, _, rfl, rfl, hle, rfl⟩)
    · exact ⟨_, rfl, rfl⟩
    · exact ⟨_, by rw [encodeOptionalText, if_neg (by omega)], by simp⟩
  · rintro ⟨bytes, hencode, rfl⟩
    cases value with
    | none =>
      cases hencode
      exact Or.inl ⟨rfl, rfl⟩
    | some text =>
      simp only [encodeOptionalText] at hencode
      split at hencode
      · cases hencode
      · cases hencode
        exact Or.inr ⟨text, _, rfl, by rw [List.append_assoc, List.append_assoc], by omega,
          by rw [List.append_assoc]⟩

end Texts
end Sophia.Ipc
