import Sophia.Ipc.Primitives
import Sophia.Protocol.Portal

/-! The messages exchanged with the portal broker. -/
namespace Sophia.Ipc

open Sophia.Protocol Sophia.Codec Sophia.Fallible

section Codes

def encodeKind : PortalTransferKind → UInt16
  | .clipboard => 1
  | .dragAndDrop => 2
  | .fileHandoff => 3
  | .screenCapture => 4
  | .screenRecording => 5
  | .uriOpen => 6
  | .notification => 7

def decodeKind (value : UInt16) : Except IpcCodecError PortalTransferKind :=
  decodeEnum "portal_transfer_kind" [(1, .clipboard), (2, .dragAndDrop), (3, .fileHandoff),
    (4, .screenCapture), (5, .screenRecording), (6, .uriOpen), (7, .notification)] value.toNat

def encodeDecision : PortalDecision → UInt8
  | .pending => 1
  | .allowed => 2
  | .denied => 3
  | .revoked => 4

def decodeDecision (value : UInt8) : Except IpcCodecError PortalDecision :=
  decodeEnum "portal_decision" [(1, .pending), (2, .allowed), (3, .denied), (4, .revoked)]
    value.toNat

def encodeGrantState : PortalGrantState → UInt8
  | .active => 1
  | .completed => 2
  | .revoked => 3
  | .expired => 4

def decodeGrantState (value : UInt8) : Except IpcCodecError PortalGrantState :=
  decodeEnum "portal_grant_state" [(1, .active), (2, .completed), (3, .revoked), (4, .expired)]
    value.toNat

def encodeBrokerKind : BrokerKind → UInt16
  | .portal => 1
  | .metadata => 2

def decodeBrokerKind (value : UInt16) : Except IpcCodecError BrokerKind :=
  decodeEnum "broker_kind" [(1, .portal), (2, .metadata)] value.toNat

def encodeBrokerHealthState : BrokerHealthState → UInt16
  | .starting => 1
  | .ready => 2
  | .degraded => 3
  | .stopped => 4

def decodeBrokerHealthState (value : UInt16) : Except IpcCodecError BrokerHealthState :=
  decodeEnum "broker_health_state" [(1, .starting), (2, .ready), (3, .degraded), (4, .stopped)]
    value.toNat

theorem decodeKind_eq_ok {value : UInt16} {kind : PortalTransferKind} :
    decodeKind value = .ok kind ↔ value = encodeKind kind :=
  decodeEnum_u16_eq_ok encodeKind ⟨fun kind => by cases kind <;> rfl, by decide⟩

theorem decodeDecision_eq_ok {value : UInt8} {decision : PortalDecision} :
    decodeDecision value = .ok decision ↔ value = encodeDecision decision :=
  decodeEnum_u8_eq_ok encodeDecision ⟨fun decision => by cases decision <;> rfl, by decide⟩

theorem decodeGrantState_eq_ok {value : UInt8} {state : PortalGrantState} :
    decodeGrantState value = .ok state ↔ value = encodeGrantState state :=
  decodeEnum_u8_eq_ok encodeGrantState ⟨fun state => by cases state <;> rfl, by decide⟩

theorem decodeBrokerKind_eq_ok {value : UInt16} {kind : BrokerKind} :
    decodeBrokerKind value = .ok kind ↔ value = encodeBrokerKind kind :=
  decodeEnum_u16_eq_ok encodeBrokerKind ⟨fun kind => by cases kind <;> rfl, by decide⟩

theorem decodeBrokerHealthState_eq_ok {value : UInt16} {state : BrokerHealthState} :
    decodeBrokerHealthState value = .ok state ↔ value = encodeBrokerHealthState state :=
  decodeEnum_u16_eq_ok encodeBrokerHealthState ⟨fun state => by cases state <;> rfl, by decide⟩

end Codes

section Requests

def encodeTransfer (value : PortalTransfer) : Except IpcCodecError (List UInt8) := do
  let mimeType ← encodeOptionalText "portal_mime_type" value.mimeType portalMaxMimeTypeLen
  return encodeSimpleId value.transfer ++ encodeSimpleId value.sourceNamespace ++
    encodeSimpleId value.targetNamespace ++ pushU16 (encodeKind value.kind) ++ mimeType ++
    pushU64 value.byteSize ++ pushU8 (encodeDecision value.decision) ++ pushU64 value.generation

def decodeTransfer : Cursor PortalTransfer := do
  let transfer ← decodeSimpleId
  let sourceNamespace ← decodeSimpleId
  let targetNamespace ← decodeSimpleId
  let kind ← decodeKind (← Cursor.u16)
  let mimeType ← decodeOptionalText "portal_mime_type" portalMaxMimeTypeLen
  let byteSize ← Cursor.u64
  let decision ← decodeDecision (← Cursor.u8)
  let generation ← Cursor.u64
  return { transfer, sourceNamespace, targetNamespace, kind, mimeType, byteSize, decision,
           generation }

def encodePortalBrokerRequestFrame (packet : PortalBrokerRequestPacket) :
    Except IpcCodecError (List UInt8) := do
  let transfer ← encodeTransfer packet.request.transfer
  encodeFrame .portalBrokerRequest (.fromRaw packet.request.transfer.transfer.raw)
    (transfer ++ pushU64 packet.request.deadlineMsec ++ encodeBool packet.sourceMayPublish ++
      encodeBool packet.targetMayRequest)

def decodePortalBrokerRequestPayload (transaction : TransactionId) :
    Cursor PortalBrokerRequestPacket := do
  let transfer ← decodeTransfer
  require (transfer.transfer.raw = transaction.raw)
    (IpcCodecError.invalidEnum "portal_transfer_correlation" 0)
  let deadlineMsec ← Cursor.u64
  let sourceMayPublish ← decodeBool "source_may_publish"
  let targetMayRequest ← decodeBool "target_may_request"
  return { request := { transfer, deadlineMsec }, sourceMayPublish, targetMayRequest }

def decodePortalBrokerRequestFrame :
    List UInt8 → Except IpcCodecError PortalBrokerRequestPacket :=
  decodeMessage .portalBrokerRequest decodePortalBrokerRequestPayload

theorem decodeTransfer_run_eq_ok {value : PortalTransfer} {input rest : List UInt8} :
    decodeTransfer.run input = .ok (value, rest) ↔
      ∃ bytes, encodeTransfer value = .ok bytes ∧ input = bytes ++ rest := by
  have hmax : portalMaxMimeTypeLen < 2 ^ 16 := by decide
  simp only [decodeTransfer, encodeTransfer, bind_run_eq_ok, lift_run_eq_ok, pure_run_eq_ok,
    bind_eq_ok, pure_eq_ok, inverts_decodeSimpleId _ _ _, Cursor.inverts_u8 _ _ _,
    Cursor.inverts_u16 _ _ _, Cursor.inverts_u64 _ _ _, decodeKind_eq_ok, decodeDecision_eq_ok,
    decodeOptionalText_run_eq_ok hmax]
  constructor
  · rintro ⟨transfer, _, rfl, sourceNamespace, _, rfl, targetNamespace, _, rfl, _, _, rfl, kind, _,
      ⟨rfl, rfl⟩, mimeType, _, ⟨bytes, htext, rfl⟩, byteSize, _, rfl, _, _, rfl, decision, _,
      ⟨rfl, rfl⟩, generation, _, rfl, rfl, rfl⟩
    exact ⟨_, ⟨bytes, htext, rfl⟩, by simp⟩
  · rintro ⟨_, ⟨bytes, htext, rfl⟩, rfl⟩
    simp only [List.append_assoc]
    exact ⟨_, _, rfl, _, _, rfl, _, _, rfl, _, _, rfl, _, _, ⟨rfl, rfl⟩, _, _, ⟨bytes, htext, rfl⟩,
      _, _, rfl, _, _, rfl, _, _, ⟨rfl, rfl⟩, _, _, rfl, rfl, rfl⟩

/-- A broker request is accepted exactly as it is written. -/
theorem decodePortalBrokerRequestFrame_eq_ok {packet : PortalBrokerRequestPacket}
    {frame : List UInt8} :
    decodePortalBrokerRequestFrame frame = .ok packet ↔
      encodePortalBrokerRequestFrame packet = .ok frame := by
  simp only [decodePortalBrokerRequestFrame, decodeMessage_eq_ok,
    decodePortalBrokerRequestPayload, encodePortalBrokerRequestFrame, bind_run_eq_ok,
    lift_run_eq_ok, require_eq_ok, pure_run_eq_ok, bind_eq_ok, decodeTransfer_run_eq_ok,
    Cursor.inverts_u64 _ _ _, inverts_decodeBool _ _ _ _]
  constructor
  · rintro ⟨transaction, _, hframe, transfer, _, ⟨bytes, htransfer, rfl⟩, _, _, ⟨hsame, rfl⟩,
      deadlineMsec, _, rfl, sourceMayPublish, _, rfl, targetMayRequest, _, rfl, rfl, rfl⟩
    refine ⟨bytes, htransfer, ?_⟩
    rw [SimpleId.fromRaw, hsame]
    simpa using hframe
  · rintro ⟨bytes, htransfer, hframe⟩
    refine ⟨_, _, hframe, packet.request.transfer, _, ⟨bytes, htransfer, ?_⟩, (), _, ⟨rfl, rfl⟩,
      _, _, rfl, _, _, rfl, _, _, (List.append_nil _).symm, rfl, rfl⟩
    simp only [List.append_assoc]

end Requests

section Responses

def encodeGrant (value : PortalGrant) : List UInt8 :=
  encodeSimpleId value.transfer ++ encodeSimpleId value.sourceNamespace ++
    encodeSimpleId value.targetNamespace ++ pushU16 (encodeKind value.kind) ++
    pushU64 value.sourceGeneration ++ pushU64 value.brokerGeneration ++
    pushU64 value.deadlineMsec ++ pushU8 (encodeGrantState value.state)

def decodeGrant : Cursor PortalGrant := do
  let transfer ← decodeSimpleId
  let sourceNamespace ← decodeSimpleId
  let targetNamespace ← decodeSimpleId
  let kind ← decodeKind (← Cursor.u16)
  let sourceGeneration ← Cursor.u64
  let brokerGeneration ← Cursor.u64
  let deadlineMsec ← Cursor.u64
  let state ← decodeGrantState (← Cursor.u8)
  return { transfer, sourceNamespace, targetNamespace, kind, sourceGeneration, brokerGeneration,
           deadlineMsec, state }

def encodeResponseDecision : PortalBrokerResponseDecision → List UInt8
  | .denied => pushU8 1
  | .allowed grant => pushU8 2 ++ encodeGrant grant

def encodePortalBrokerResponseFrame (packet : PortalBrokerResponsePacket) :
    Except IpcCodecError (List UInt8) :=
  encodeFrame .portalBrokerResponse (.fromRaw packet.transfer.raw)
    (encodeResponseDecision packet.decision)

def decodeResponseDecision (transfer : PortalTransferId) : Cursor PortalBrokerResponseDecision := do
  let tag ← Cursor.u8
  match tag.toNat with
  | 1 => return .denied
  | 2 =>
    let grant ← decodeGrant
    require (grant.transfer = transfer) (IpcCodecError.invalidEnum "portal_grant_correlation" 0)
    return .allowed grant
  | _ => throw (IpcCodecError.invalidEnum "portal_broker_decision" tag.toUInt32)

def decodePortalBrokerResponsePayload (transaction : TransactionId) :
    Cursor PortalBrokerResponsePacket := do
  let transfer : PortalTransferId := .fromRaw transaction.raw
  let decision ← decodeResponseDecision transfer
  return { transfer, decision }

def decodePortalBrokerResponseFrame :
    List UInt8 → Except IpcCodecError PortalBrokerResponsePacket :=
  decodeMessage .portalBrokerResponse decodePortalBrokerResponsePayload

/-- A grant in the response is for the transfer that was asked about. -/
def Correlated (packet : PortalBrokerResponsePacket) : Prop :=
  ∀ grant, packet.decision = .allowed grant → grant.transfer = packet.transfer

theorem inverts_decodeGrant : Inverts decodeGrant encodeGrant := by
  intro input value rest
  simp only [decodeGrant, bind_run_eq_ok, lift_run_eq_ok, pure_run_eq_ok,
    inverts_decodeSimpleId _ _ _, Cursor.inverts_u8 _ _ _, Cursor.inverts_u16 _ _ _,
    Cursor.inverts_u64 _ _ _, decodeKind_eq_ok, decodeGrantState_eq_ok]
  constructor
  · rintro ⟨transfer, _, rfl, sourceNamespace, _, rfl, targetNamespace, _, rfl, _, _, rfl, kind, _,
      ⟨rfl, rfl⟩, sourceGeneration, _, rfl, brokerGeneration, _, rfl, deadlineMsec, _, rfl, _, _,
      rfl, state, _, ⟨rfl, rfl⟩, rfl, rfl⟩
    simp [encodeGrant]
  · rintro rfl
    simp only [encodeGrant, List.append_assoc]
    exact ⟨_, _, rfl, _, _, rfl, _, _, rfl, _, _, rfl, _, _, ⟨rfl, rfl⟩, _, _, rfl, _, _, rfl,
      _, _, rfl, _, _, rfl, _, _, ⟨rfl, rfl⟩, rfl, rfl⟩

theorem decodeResponseDecision_run_eq_ok {transfer : PortalTransferId}
    {decision : PortalBrokerResponseDecision} {input rest : List UInt8} :
    (decodeResponseDecision transfer).run input = .ok (decision, rest) ↔
      Correlated ⟨transfer, decision⟩ ∧ input = encodeResponseDecision decision ++ rest := by
  rw [decodeResponseDecision, bind_run_eq_ok]
  constructor
  · rintro ⟨tag, mid, htag, hrun⟩
    rw [(Cursor.inverts_u8 _ _ _).mp htag]
    split at hrun
    · rename_i hcode
      obtain ⟨rfl, rfl⟩ := pure_run_eq_ok.mp hrun
      rw [show tag = 1 from UInt8.toNat_inj.mp hcode]
      exact ⟨fun grant hgrant => (by cases hgrant), rfl⟩
    · rename_i hcode
      simp only [bind_run_eq_ok, lift_run_eq_ok, require_eq_ok, pure_run_eq_ok,
        inverts_decodeGrant _ _ _] at hrun
      obtain ⟨grant, _, rfl, _, _, ⟨hsame, rfl⟩, rfl, rfl⟩ := hrun
      rw [show tag = 2 from UInt8.toNat_inj.mp hcode, encodeResponseDecision, List.append_assoc]
      refine ⟨fun found hfound => ?_, rfl⟩
      cases hfound
      exact hsame
    · cases hrun
  · rintro ⟨hsame, rfl⟩
    cases decision with
    | denied => exact ⟨1, rest, (Cursor.inverts_u8 _ _ _).mpr rfl, rfl⟩
    | allowed grant =>
      refine ⟨2, _, (Cursor.inverts_u8 _ _ _).mpr (List.append_assoc _ _ _), ?_⟩
      refine bind_run_eq_ok.mpr ⟨grant, rest, (inverts_decodeGrant _ _ _).mpr rfl, ?_⟩
      refine bind_run_eq_ok.mpr ⟨(), rest, lift_run_eq_ok.mpr ⟨?_, rfl⟩, rfl⟩
      exact require_eq_ok.mpr (hsame grant rfl)

/-- A broker response is accepted exactly as it is written, when its grant is its own. -/
theorem decodePortalBrokerResponseFrame_eq_ok {packet : PortalBrokerResponsePacket}
    {frame : List UInt8} :
    decodePortalBrokerResponseFrame frame = .ok packet ↔
      Correlated packet ∧ encodePortalBrokerResponseFrame packet = .ok frame := by
  simp only [decodePortalBrokerResponseFrame, decodeMessage_eq_ok,
    decodePortalBrokerResponsePayload, encodePortalBrokerResponseFrame, bind_run_eq_ok,
    pure_run_eq_ok, decodeResponseDecision_run_eq_ok]
  constructor
  · rintro ⟨transaction, _, hframe, decision, _, ⟨hsame, rfl⟩, rfl, rfl⟩
    rw [List.append_nil] at hframe
    exact ⟨hsame, hframe⟩
  · rintro ⟨hsame, hframe⟩
    exact ⟨_, _, hframe, packet.decision, [], ⟨hsame, (List.append_nil _).symm⟩, rfl, rfl⟩

end Responses

section Payloads

def encodePortalClipboardPayloadFrame (transfer : PortalTransferId) (payload : List UInt8) :
    Except IpcCodecError (List UInt8) :=
  encodeFrame .portalClipboardPayload (.fromRaw transfer.raw) payload

def decodePortalClipboardPayloadFrame (frame : List UInt8) :
    Except IpcCodecError (PortalTransferId × List UInt8) := do
  let (header, payload) ← decodeFrame frame
  expectMessageKind header.messageKind .portalClipboardPayload
  require (payload.length ≤ ipcMaxPayloadLen) (IpcCodecError.payloadTooLarge payload.length)
  return (.fromRaw header.transaction.raw, payload)

theorem length_of_encodeFrame {messageKind : IpcMessageKind} {transaction : TransactionId}
    {payload frame : List UInt8} (h : encodeFrame messageKind transaction payload = .ok frame) :
    payload.length ≤ ipcMaxPayloadLen := by
  unfold encodeFrame at h
  split at h
  · cases h
  · omega

/-- A clipboard payload is accepted exactly as it is written. -/
theorem decodePortalClipboardPayloadFrame_eq_ok {transfer : PortalTransferId}
    {payload frame : List UInt8} :
    decodePortalClipboardPayloadFrame frame = .ok (transfer, payload) ↔
      encodePortalClipboardPayloadFrame transfer payload = .ok frame := by
  simp only [decodePortalClipboardPayloadFrame, encodePortalClipboardPayloadFrame,
    expectMessageKind, bind_eq_ok, require_eq_ok, pure_eq_ok, Prod.exists, decodeFrame_eq_ok]
  constructor
  · rintro ⟨header, _, ⟨hframe, -⟩, _, hkind, _, -, he⟩
    cases he
    rw [hkind] at hframe
    exact hframe
  · intro hframe
    exact ⟨⟨.portalClipboardPayload, .fromRaw transfer.raw, _⟩, payload, ⟨hframe, rfl⟩, (), rfl,
      (), length_of_encodeFrame hframe, rfl⟩

end Payloads

section BrokerHealth

def encodeBrokerHealthPayload (packet : BrokerHealthPacket) :
    Except IpcCodecError (List UInt8) := do
  let message ← encodeOptionalText "broker_health_message" packet.message brokerHealthMaxMessageLen
  return pushU16 (encodeBrokerKind packet.broker) ++
    pushU16 (encodeBrokerHealthState packet.state) ++ message

def decodeBrokerHealthPayload (generation : UInt64) : Cursor BrokerHealthPacket := do
  let broker ← decodeBrokerKind (← Cursor.u16)
  let state ← decodeBrokerHealthState (← Cursor.u16)
  let message ← decodeOptionalText "broker_health_message" brokerHealthMaxMessageLen
  return { broker, state, generation, message }

def encodeBrokerHealthFrame (packet : BrokerHealthPacket) : Except IpcCodecError (List UInt8) := do
  let payload ← encodeBrokerHealthPayload packet
  encodeFrame .brokerHealth (.fromRaw packet.generation) payload

def decodeBrokerHealthFrame : List UInt8 → Except IpcCodecError BrokerHealthPacket :=
  decodeMessage .brokerHealth fun transaction => decodeBrokerHealthPayload transaction.raw

/-- A health report is accepted exactly as it is written. -/
theorem decodeBrokerHealthFrame_eq_ok {packet : BrokerHealthPacket} {frame : List UInt8} :
    decodeBrokerHealthFrame frame = .ok packet ↔ encodeBrokerHealthFrame packet = .ok frame := by
  have hmax : brokerHealthMaxMessageLen < 2 ^ 16 := by decide
  simp only [decodeBrokerHealthFrame, decodeMessage_eq_ok, decodeBrokerHealthPayload,
    encodeBrokerHealthFrame, encodeBrokerHealthPayload, bind_run_eq_ok, lift_run_eq_ok,
    pure_run_eq_ok, bind_eq_ok, pure_eq_ok, Cursor.inverts_u16 _ _ _, decodeBrokerKind_eq_ok,
    decodeBrokerHealthState_eq_ok, decodeOptionalText_run_eq_ok hmax]
  constructor
  · rintro ⟨transaction, _, hframe, _, _, rfl, broker, _, ⟨rfl, rfl⟩, _, _, rfl, state, _,
      ⟨rfl, rfl⟩, message, _, ⟨bytes, htext, rfl⟩, rfl, rfl⟩
    exact ⟨_, ⟨bytes, htext, rfl⟩, by simpa [SimpleId.fromRaw] using hframe⟩
  · rintro ⟨_, ⟨bytes, htext, rfl⟩, hframe⟩
    refine ⟨_, _, hframe, _, _, ?_, _, _, ⟨rfl, rfl⟩, _, _, rfl, _, _, ⟨rfl, rfl⟩, _, _,
      ⟨bytes, htext, (List.append_nil _).symm⟩, rfl, rfl⟩
    rw [List.append_assoc]

end BrokerHealth
end Sophia.Ipc
