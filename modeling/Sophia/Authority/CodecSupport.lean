import Sophia.Authority.Runtime
import Sophia.Ipc.Primitives

/-! The parts that the authority's IPC payloads are built from. -/
namespace Sophia.Authority.Codec

open Sophia.Protocol Sophia.Codec Sophia.Fallible Sophia.Ipc

section Counts

variable {α : Type} {d : Cursor α} {encode : α → Except IpcCodecError (List UInt8)}

def encodeCount (count : ℕ) : Except IpcCodecError (List UInt8) := do
  checkCount count
  return pushU32 (UInt32.ofNat count)

/-- A counted list of values that may be refused. -/
def encodeItems (encode : α → Except IpcCodecError (List UInt8)) (items : List α) :
    Except IpcCodecError (List UInt8) := do
  let count ← encodeCount items.length
  let body ← encodeAll encode items
  return count ++ body

theorem matches_decodeList (h : Matches d encode) :
    Matches (decodeList d) (encodeItems encode) := by
  intro input items rest
  simp only [decodeList, encodeItems, encodeCount, checkCount, bind_run_eq_ok, bind_eq_ok,
    pure_eq_ok, require_eq_ok, decodeCount_run_eq_ok, h.readMany_run_eq_ok]
  constructor
  · rintro ⟨_, _, ⟨hle, rfl⟩, rfl, body, hbody, rfl⟩
    exact ⟨_, ⟨_, ⟨(), hle, rfl⟩, body, hbody, rfl⟩, (List.append_assoc _ _ _).symm⟩
  · rintro ⟨_, ⟨_, ⟨_, hle, rfl⟩, body, hbody, rfl⟩, rfl⟩
    exact ⟨_, _, ⟨hle, List.append_assoc _ _ _⟩, rfl, body, hbody, rfl⟩

def encodeRegion (region : Region) : Except IpcCodecError (List UInt8) :=
  encodeItems (fun rect => .ok (encodeRect rect)) region.rects

def decodeRegion : Cursor Region := do
  let rects ← decodeList decodeRect
  return { rects }

theorem matches_decodeRegion : Matches decodeRegion encodeRegion := by
  intro input region rest
  have hrects := matches_decodeList inverts_decodeRect.matches
  simp only [decodeRegion, bind_run_eq_ok, pure_run_eq_ok, hrects _ _ _]
  constructor
  · rintro ⟨rects, _, ⟨bytes, hbytes, rfl⟩, rfl, rfl⟩
    exact ⟨bytes, hbytes, rfl⟩
  · rintro ⟨bytes, hbytes, rfl⟩
    exact ⟨_, rest, ⟨bytes, hbytes, rfl⟩, rfl, rfl⟩

end Counts

section Codes

def encodeRuntimeError : XAuthorityRuntimeError → UInt16
  | .invalidResource => 1
  | .invalidNamespace => 2
  | .invalidSurface => 3
  | .unknownResource => 4
  | .wrongResourceKind => 5
  | .crossNamespaceDenied => 6
  | .unknownRequestorNamespace => 7
  | .unknownSourceOwner => 8
  | .missingSourceNamespace => 9
  | .sameNamespace => 10
  | .portalRejected => 11
  | .staleGeneration => 12

def decodeRuntimeError (value : UInt16) : Except IpcCodecError XAuthorityRuntimeError :=
  decodeEnum "x_authority_runtime_error" [(1, .invalidResource), (2, .invalidNamespace),
    (3, .invalidSurface), (4, .unknownResource), (5, .wrongResourceKind),
    (6, .crossNamespaceDenied), (7, .unknownRequestorNamespace), (8, .unknownSourceOwner),
    (9, .missingSourceNamespace), (10, .sameNamespace), (11, .portalRejected),
    (12, .staleGeneration)] value.toNat

def encodeAuthorityKind : AuthorityKind → UInt16
  | .sophiaX => 1
  | .sophiaNative => 3

def decodeAuthorityKind (value : UInt16) : Except IpcCodecError AuthorityKind :=
  decodeEnum "authority_kind" [(1, .sophiaX), (3, .sophiaNative)] value.toNat

def encodeReadiness : SurfaceTransactionReadiness → UInt16
  | .pending => 1
  | .ready => 2
  | .failed => 3
  | .timedOut => 4

def decodeReadiness (value : UInt16) : Except IpcCodecError SurfaceTransactionReadiness :=
  decodeEnum "surface_transaction_readiness" [(1, .pending), (2, .ready), (3, .failed),
    (4, .timedOut)] value.toNat

-- The last three codes are not those the portal broker's messages use.
def encodePortalTransferKind : PortalTransferKind → UInt16
  | .clipboard => 1
  | .dragAndDrop => 2
  | .fileHandoff => 3
  | .screenCapture => 4
  | .notification => 5
  | .screenRecording => 6
  | .uriOpen => 7

def decodePortalTransferKind (value : UInt16) : Except IpcCodecError PortalTransferKind :=
  decodeEnum "portal_transfer_kind" [(1, .clipboard), (2, .dragAndDrop), (3, .fileHandoff),
    (4, .screenCapture), (5, .notification), (6, .screenRecording), (7, .uriOpen)] value.toNat

def encodePortalDecision : PortalDecision → UInt16
  | .pending => 1
  | .allowed => 2
  | .denied => 3
  | .revoked => 4

def decodePortalDecision (value : UInt16) : Except IpcCodecError PortalDecision :=
  decodeEnum "portal_decision" [(1, .pending), (2, .allowed), (3, .denied), (4, .revoked)]
    value.toNat

def encodeSelectionChangeKind : XSelectionChangeKind → UInt16
  | .setOwner => 1
  | .clearOwner => 2
  | .selectionWindowDestroyed => 3
  | .selectionClientClosed => 4
  | .unknown => 5

def decodeSelectionChangeKind (value : UInt16) : Except IpcCodecError XSelectionChangeKind :=
  decodeEnum "x_selection_change_kind" [(1, .setOwner), (2, .clearOwner),
    (3, .selectionWindowDestroyed), (4, .selectionClientClosed), (5, .unknown)] value.toNat

variable {value : UInt16}

theorem decodeRuntimeError_eq_ok {error : XAuthorityRuntimeError} :
    decodeRuntimeError value = .ok error ↔ value = encodeRuntimeError error :=
  decodeEnum_u16_eq_ok encodeRuntimeError ⟨fun error => by cases error <;> rfl, by decide⟩

theorem decodeAuthorityKind_eq_ok {kind : AuthorityKind} :
    decodeAuthorityKind value = .ok kind ↔ value = encodeAuthorityKind kind :=
  decodeEnum_u16_eq_ok encodeAuthorityKind ⟨fun kind => by cases kind <;> rfl, by decide⟩

theorem decodeReadiness_eq_ok {readiness : SurfaceTransactionReadiness} :
    decodeReadiness value = .ok readiness ↔ value = encodeReadiness readiness :=
  decodeEnum_u16_eq_ok encodeReadiness ⟨fun readiness => by cases readiness <;> rfl, by decide⟩

theorem decodePortalTransferKind_eq_ok {kind : PortalTransferKind} :
    decodePortalTransferKind value = .ok kind ↔ value = encodePortalTransferKind kind :=
  decodeEnum_u16_eq_ok encodePortalTransferKind ⟨fun kind => by cases kind <;> rfl, by decide⟩

theorem decodePortalDecision_eq_ok {decision : PortalDecision} :
    decodePortalDecision value = .ok decision ↔ value = encodePortalDecision decision :=
  decodeEnum_u16_eq_ok encodePortalDecision ⟨fun decision => by cases decision <;> rfl, by decide⟩

theorem decodeSelectionChangeKind_eq_ok {kind : XSelectionChangeKind} :
    decodeSelectionChangeKind value = .ok kind ↔ value = encodeSelectionChangeKind kind :=
  decodeEnum_u16_eq_ok encodeSelectionChangeKind ⟨fun kind => by cases kind <;> rfl, by decide⟩

end Codes

section Ids

def encodeAuthorityLocalId (id : AuthorityLocalId) : List UInt8 :=
  pushU64 id.raw ++ pushU32 id.generation

def decodeAuthorityLocalId : Cursor AuthorityLocalId := do
  let raw ← Cursor.u64
  let generation ← Cursor.u32
  return { raw, generation }

def encodeXResourceId (id : XResourceId) : List UInt8 := encodeAuthorityLocalId id.localId

def decodeXResourceId : Cursor XResourceId := do
  let localId ← decodeAuthorityLocalId
  return { localId }

def encodeOptionalXResourceId : Option XResourceId → List UInt8 := encodeOption encodeXResourceId

def decodeOptionalXResourceId : Cursor (Option XResourceId) :=
  decodeOption "optional_x_resource_id" decodeXResourceId

def encodeOptionalNamespaceId : Option NamespaceId → List UInt8 := encodeOption encodeSimpleId

def decodeOptionalNamespaceId : Cursor (Option NamespaceId) :=
  decodeOption "optional_namespace_id" decodeSimpleId

theorem inverts_decodeAuthorityLocalId :
    Inverts decodeAuthorityLocalId encodeAuthorityLocalId := by
  intro input id rest
  simp only [decodeAuthorityLocalId, bind_run_eq_ok, pure_run_eq_ok, Cursor.inverts_u64 _ _ _,
    Cursor.inverts_u32 _ _ _]
  constructor
  · rintro ⟨raw, _, rfl, generation, _, rfl, rfl, rfl⟩
    simp [encodeAuthorityLocalId]
  · rintro rfl
    exact ⟨_, _, by rw [encodeAuthorityLocalId, List.append_assoc], _, _, rfl, rfl, rfl⟩

theorem inverts_decodeXResourceId : Inverts decodeXResourceId encodeXResourceId := by
  intro input id rest
  simp only [decodeXResourceId, bind_run_eq_ok, pure_run_eq_ok,
    inverts_decodeAuthorityLocalId _ _ _]
  constructor
  · rintro ⟨localId, _, rfl, rfl, rfl⟩
    rfl
  · rintro rfl
    exact ⟨_, rest, rfl, rfl, rfl⟩

theorem inverts_decodeOptionalXResourceId :
    Inverts decodeOptionalXResourceId encodeOptionalXResourceId :=
  inverts_decodeOption inverts_decodeXResourceId "optional_x_resource_id"

theorem inverts_decodeOptionalNamespaceId :
    Inverts decodeOptionalNamespaceId encodeOptionalNamespaceId :=
  inverts_decodeOption inverts_decodeSimpleId "optional_namespace_id"

end Ids

section BufferSources

def encodeBufferSource : BufferSource → List UInt8
  | .none => pushU16 0
  | .xPixmap pixmap => pushU16 1 ++ pushU32 pixmap
  | .dmaBuf handle => pushU16 2 ++ pushU64 handle
  | .cpuBuffer handle => pushU16 3 ++ pushU64 handle

def decodeBufferSource : Cursor BufferSource := do
  let tag ← Cursor.u16
  match tag.toNat with
  | 0 => return .none
  | 1 => return .xPixmap (← Cursor.u32)
  | 2 => return .dmaBuf (← Cursor.u64)
  | 3 => return .cpuBuffer (← Cursor.u64)
  | _ => throw (IpcCodecError.invalidEnum "buffer_source" tag.toUInt32)

theorem inverts_decodeBufferSource : Inverts decodeBufferSource encodeBufferSource := by
  intro input source rest
  rw [decodeBufferSource, bind_run_eq_ok]
  constructor
  · rintro ⟨tag, mid, htag, hrun⟩
    rw [(Cursor.inverts_u16 _ _ _).mp htag]
    split at hrun
    · rename_i hcode
      obtain ⟨rfl, rfl⟩ := pure_run_eq_ok.mp hrun
      rw [show tag = 0 from UInt16.toNat_inj.mp hcode]
      rfl
    · rename_i hcode
      simp only [bind_run_eq_ok, pure_run_eq_ok, Cursor.inverts_u32 _ _ _] at hrun
      obtain ⟨word, _, rfl, rfl, rfl⟩ := hrun
      rw [show tag = 1 from UInt16.toNat_inj.mp hcode]
      rfl
    · rename_i hcode
      simp only [bind_run_eq_ok, pure_run_eq_ok, Cursor.inverts_u64 _ _ _] at hrun
      obtain ⟨word, _, rfl, rfl, rfl⟩ := hrun
      rw [show tag = 2 from UInt16.toNat_inj.mp hcode]
      rfl
    · rename_i hcode
      simp only [bind_run_eq_ok, pure_run_eq_ok, Cursor.inverts_u64 _ _ _] at hrun
      obtain ⟨word, _, rfl, rfl, rfl⟩ := hrun
      rw [show tag = 3 from UInt16.toNat_inj.mp hcode]
      rfl
    · cases hrun
  · rintro rfl
    cases source with
    | none => exact ⟨0, rest, (Cursor.inverts_u16 _ _ _).mpr rfl, rfl⟩
    | xPixmap pixmap =>
      exact ⟨1, _, (Cursor.inverts_u16 _ _ _).mpr rfl,
        bind_run_eq_ok.mpr ⟨pixmap, rest, (Cursor.inverts_u32 _ _ _).mpr rfl, rfl⟩⟩
    | dmaBuf handle =>
      exact ⟨2, _, (Cursor.inverts_u16 _ _ _).mpr rfl,
        bind_run_eq_ok.mpr ⟨handle, rest, (Cursor.inverts_u64 _ _ _).mpr rfl, rfl⟩⟩
    | cpuBuffer handle =>
      exact ⟨3, _, (Cursor.inverts_u16 _ _ _).mpr rfl,
        bind_run_eq_ok.mpr ⟨handle, rest, (Cursor.inverts_u64 _ _ _).mpr rfl, rfl⟩⟩

end BufferSources

section Texts

variable {field : String} {max : ℕ} {input rest : List UInt8}

def encodeText (field value : String) (max : ℕ) : Except IpcCodecError (List UInt8) :=
  if max < value.utf8ByteSize then .error (.textTooLarge field value.utf8ByteSize max)
  else .ok (pushU32 (UInt32.ofNat value.utf8ByteSize) ++ utf8Bytes value)

def decodeText (field : String) (max : ℕ) : Cursor String := do
  let len := (← Cursor.u32).toNat
  require (len ≤ max) (IpcCodecError.textTooLarge field len max)
  let bytes ← Cursor.slice len
  match fromUtf8 bytes with
  | some text => return text
  | none => throw (IpcCodecError.invalidUtf8 field)

def encodeOptionalText (field : String) (value : Option String) (max : ℕ) :
    Except IpcCodecError (List UInt8) :=
  match value with
  | some text => do
    let bytes ← encodeText field text max
    return pushU8 1 ++ bytes
  | none => .ok (pushU8 0)

def decodeOptionalText (field : String) (max : ℕ) : Cursor (Option String) :=
  decodeOption field (decodeText field max)

theorem encodeText_eq_ok {text : String} {bytes : List UInt8} :
    encodeText field text max = .ok bytes ↔ text.utf8ByteSize ≤ max ∧
      bytes = pushU32 (UInt32.ofNat text.utf8ByteSize) ++ utf8Bytes text := by
  rw [encodeText]
  split
  · constructor
    · intro h
      cases h
    · rintro ⟨hle, -⟩
      omega
  · constructor
    · intro h
      cases h
      exact ⟨by omega, rfl⟩
    · rintro ⟨-, rfl⟩
      rfl

theorem matches_decodeText (hmax : max < 2 ^ 32) :
    Matches (decodeText field max) fun text => encodeText field text max := by
  intro input text rest
  simp only [decodeText, Cursor.slice, bind_run_eq_ok, lift_run_eq_ok, require_eq_ok,
    take_run_eq_ok, Cursor.inverts_u32 _ _ _, encodeText_eq_ok]
  constructor
  · rintro ⟨len, _, rfl, _, _, ⟨hle, rfl⟩, bytes, _, ⟨hlen, rfl⟩, hrun⟩
    split at hrun
    · rename_i found hfound
      obtain ⟨rfl, rfl⟩ := pure_run_eq_ok.mp hrun
      obtain rfl := fromUtf8_eq_some.mp hfound
      rw [length_utf8Bytes] at hlen
      rw [hlen, UInt32.ofNat_toNat]
      exact ⟨_, ⟨hle, rfl⟩, (List.append_assoc _ _ _).symm⟩
    · cases hrun
  · rintro ⟨_, ⟨hle, rfl⟩, rfl⟩
    have hlen : (UInt32.ofNat text.utf8ByteSize).toNat = text.utf8ByteSize := by
      apply UInt32.toNat_ofNat_of_lt'
      show text.utf8ByteSize < 2 ^ 32
      omega
    refine ⟨_, _, List.append_assoc _ _ _, (), _, ⟨by rw [hlen]; exact hle, rfl⟩,
      utf8Bytes text, rest, ⟨by rw [hlen, length_utf8Bytes], rfl⟩, ?_⟩
    rw [show fromUtf8 (utf8Bytes text) = some text from fromUtf8_eq_some.mpr rfl]
    rfl

theorem matches_decodeOptionalText (hmax : max < 2 ^ 32) :
    Matches (decodeOptionalText field max) fun value => encodeOptionalText field value max := by
  intro input value rest
  simp only [decodeOptionalText, decodeOption_run_eq_ok, matches_decodeText hmax _ _ _]
  constructor
  · rintro (⟨rfl, rfl⟩ | ⟨text, _, rfl, rfl, bytes, htext, rfl⟩)
    · exact ⟨_, rfl, rfl⟩
    · refine ⟨pushU8 1 ++ bytes, ?_, (List.append_assoc _ _ _).symm⟩
      exact bind_eq_ok.mpr ⟨bytes, htext, rfl⟩
  · rintro ⟨bytes, hbytes, rfl⟩
    cases value with
    | none =>
      cases hbytes
      exact Or.inl ⟨rfl, rfl⟩
    | some text =>
      obtain ⟨body, hbody, he⟩ := bind_eq_ok.mp hbytes
      cases he
      exact Or.inr ⟨text, _, rfl, List.append_assoc _ _ _, body, hbody, rfl⟩

end Texts
end Sophia.Authority.Codec
