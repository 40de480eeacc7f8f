import Sophia.Authority.RequestCodec

/-! The responses of the X authority, and both directions of its messages. -/
namespace Sophia.Authority.Codec

open Sophia.Protocol Sophia.Codec Sophia.Fallible Sophia.Ipc

def xAuthorityMaxTextLen : ℕ := 256

section Surfaces

-- The word after an accepted outcome is reserved.
def encodeResponseOutcome : XAuthorityResponseOutcome → List UInt8
  | .accepted => pushU16 1 ++ pushU16 0
  | .rejected error => pushU16 2 ++ pushU16 (encodeRuntimeError error)

def decodeResponseOutcome : Cursor XAuthorityResponseOutcome := do
  let tag ← Cursor.u16
  match tag.toNat with
  | 1 =>
    let reserved ← Cursor.u16
    require (reserved = 0) (IpcCodecError.reservedNonZero reserved.toUInt32)
    return .accepted
  | 2 => return .rejected (← decodeRuntimeError (← Cursor.u16))
  | _ => throw (IpcCodecError.invalidEnum "x_authority_response_outcome" tag.toUInt32)

def encodeAuthoritySurface (surface : AuthoritySurface) : List UInt8 :=
  pushU16 (encodeAuthorityKind surface.authority) ++ encodeAuthorityLocalId surface.localId ++
    encodeSurfaceId surface.surface ++ encodeOptionalNamespaceId surface.namespaceId ++
    encodeBool surface.mapped ++ encodeRect surface.geometry ++
    encodeConstraints surface.constraints ++ pushU64 surface.generation

def decodeAuthoritySurface : Cursor AuthoritySurface := do
  let authority ← decodeAuthorityKind (← Cursor.u16)
  let localId ← decodeAuthorityLocalId
  let surface ← decodeSurfaceId
  let namespaceId ← decodeOptionalNamespaceId
  let mapped ← decodeBool "bool"
  let geometry ← decodeRect
  let constraints ← decodeConstraints
  let generation ← Cursor.u64
  return { authority, localId, surface, namespaceId, mapped, geometry, constraints, generation }

def encodeSurfaceTransaction (transaction : SurfaceTransaction) :
    Except IpcCodecError (List UInt8) := do
  let damage ← encodeRegion transaction.damage
  return encodeSimpleId transaction.transaction ++
    pushU16 (encodeAuthorityKind transaction.authority) ++ encodeSurfaceId transaction.surface ++
    encodeOptionalNamespaceId transaction.namespaceId ++ encodeRect transaction.targetGeometry ++
    encodeBufferSource transaction.targetBuffer ++ damage ++
    pushU16 (encodeReadiness transaction.readiness) ++ pushU32 transaction.timeoutMsec ++
    pushU64 transaction.previousCommittedGeneration

def decodeSurfaceTransaction : Cursor SurfaceTransaction := do
  let transaction ← decodeSimpleId
  let authority ← decodeAuthorityKind (← Cursor.u16)
  let surface ← decodeSurfaceId
  let namespaceId ← decodeOptionalNamespaceId
  let targetGeometry ← decodeRect
  let targetBuffer ← decodeBufferSource
  let damage ← decodeRegion
  let readiness ← decodeReadiness (← Cursor.u16)
  let timeoutMsec ← Cursor.u32
  let previousCommittedGeneration ← Cursor.u64
  return { transaction, authority, surface, namespaceId, targetGeometry, targetBuffer, damage,
           readiness, timeoutMsec, previousCommittedGeneration }

theorem inverts_decodeResponseOutcome :
    Inverts decodeResponseOutcome encodeResponseOutcome := by
  intro input outcome rest
  rw [decodeResponseOutcome, bind_run_eq_ok]
  constructor
  · rintro ⟨tag, mid, htag, hrun⟩
    rw [(Cursor.inverts_u16 _ _ _).mp htag]
    split at hrun
    · rename_i hcode
      simp only [bind_run_eq_ok, lift_run_eq_ok, require_eq_ok, pure_run_eq_ok,
        Cursor.inverts_u16 _ _ _] at hrun
      obtain ⟨_, _, rfl, _, _, ⟨rfl, rfl⟩, rfl, rfl⟩ := hrun
      rw [show tag = 1 from UInt16.toNat_inj.mp hcode]
      rfl
    · rename_i hcode
      simp only [bind_run_eq_ok, lift_run_eq_ok, pure_run_eq_ok, Cursor.inverts_u16 _ _ _,
        decodeRuntimeError_eq_ok] at hrun
      obtain ⟨_, _, rfl, error, _, ⟨rfl, rfl⟩, rfl, rfl⟩ := hrun
      rw [show tag = 2 from UInt16.toNat_inj.mp hcode, encodeResponseOutcome, List.append_assoc]
    · cases hrun
  · rintro rfl
    cases outcome with
    | accepted =>
      refine ⟨1, _, (Cursor.inverts_u16 _ _ _).mpr rfl, bind_run_eq_ok.mpr ⟨0, rest, ?_, rfl⟩⟩
      exact (Cursor.inverts_u16 _ _ _).mpr rfl
    | rejected error =>
      refine ⟨2, _, (Cursor.inverts_u16 _ _ _).mpr (List.append_assoc _ _ _), ?_⟩
      refine bind_run_eq_ok.mpr ⟨_, rest, (Cursor.inverts_u16 _ _ _).mpr rfl, ?_⟩
      refine bind_run_eq_ok.mpr ⟨error, rest, lift_run_eq_ok.mpr ⟨?_, rfl⟩, rfl⟩
      exact decodeRuntimeError_eq_ok.mpr rfl

theorem inverts_decodeAuthoritySurface :
    Inverts decodeAuthoritySurface encodeAuthoritySurface := by
  intro input value rest
  simp only [decodeAuthoritySurface, bind_run_eq_ok, lift_run_eq_ok, pure_run_eq_ok,
    Cursor.inverts_u16 _ _ _, Cursor.inverts_u64 _ _ _, decodeAuthorityKind_eq_ok,
    inverts_decodeAuthorityLocalId _ _ _, inverts_decodeSurfaceId _ _ _,
    inverts_decodeOptionalNamespaceId _ _ _, inverts_decodeBool _ _ _ _, inverts_decodeRect _ _ _,
    inverts_decodeConstraints _ _ _]
  constructor
  · rintro ⟨_, _, rfl, authority, _, ⟨rfl, rfl⟩, localId, _, rfl, surface, _, rfl, namespaceId, _,
      rfl, mapped, _, rfl, geometry, _, rfl, constraints, _, rfl, generation, _, rfl, rfl, rfl⟩
    simp [encodeAuthoritySurface]
  · rintro rfl
    simp only [encodeAuthoritySurface, List.append_assoc]
    exact ⟨_, _, rfl, _, _, ⟨rfl, rfl⟩, _, _, rfl, _, _, rfl, _, _, rfl, _, _, rfl, _, _, rfl,
      _, _, rfl, _, _, rfl, rfl, rfl⟩

theorem matches_decodeSurfaceTransaction :
    Matches decodeSurfaceTransaction encodeSurfaceTransaction := by
  intro input value rest
  simp only [decodeSurfaceTransaction, encodeSurfaceTransaction, bind_run_eq_ok, lift_run_eq_ok,
    pure_run_eq_ok, bind_eq_ok, pure_eq_ok, Cursor.inverts_u16 _ _ _, Cursor.inverts_u32 _ _ _,
    Cursor.inverts_u64 _ _ _, inverts_decodeSimpleId _ _ _, decodeAuthorityKind_eq_ok,
    inverts_decodeSurfaceId _ _ _, inverts_decodeOptionalNamespaceId _ _ _,
    inverts_decodeRect _ _ _, inverts_decodeBufferSource _ _ _, matches_decodeRegion _ _ _,
    decodeReadiness_eq_ok]
  constructor
  · rintro ⟨transaction, _, rfl, _, _, rfl, authority, _, ⟨rfl, rfl⟩, surface, _, rfl,
      namespaceId, _, rfl, geometry, _, rfl, buffer, _, rfl, damage, _, ⟨bytes, hdamage, rfl⟩, _,
      _, rfl, readiness, _, ⟨rfl, rfl⟩, timeout, _, rfl, previous, _, rfl, rfl, rfl⟩
    exact ⟨_, ⟨bytes, hdamage, rfl⟩, by simp⟩
  · rintro ⟨_, ⟨bytes, hdamage, rfl⟩, rfl⟩
    simp only [List.append_assoc]
    exact ⟨_, _, rfl, _, _, rfl, _, _, ⟨rfl, rfl⟩, _, _, rfl, _, _, rfl, _, _, rfl, _, _, rfl,
      _, _, ⟨bytes, hdamage, rfl⟩, _, _, rfl, _, _, ⟨rfl, rfl⟩, _, _, rfl, _, _, rfl, rfl, rfl⟩

end Surfaces

section Portals

def encodePortalTransfer (transfer : PortalTransfer) : Except IpcCodecError (List UInt8) := do
  let mimeType ← encodeOptionalText "x_authority_portal_mime" transfer.mimeType
    xAuthorityMaxTextLen
  return encodeSimpleId transfer.transfer ++ encodeSimpleId transfer.sourceNamespace ++
    encodeSimpleId transfer.targetNamespace ++ pushU16 (encodePortalTransferKind transfer.kind) ++
    mimeType ++ pushU64 transfer.byteSize ++ pushU16 (encodePortalDecision transfer.decision) ++
    pushU64 transfer.generation

def decodePortalTransfer : Cursor PortalTransfer := do
  let transfer ← decodeSimpleId
  let sourceNamespace ← decodeSimpleId
  let targetNamespace ← decodeSimpleId
  let kind ← decodePortalTransferKind (← Cursor.u16)
  let mimeType ← decodeOptionalText "x_authority_portal_mime" xAuthorityMaxTextLen
  let byteSize ← Cursor.u64
  let decision ← decodePortalDecision (← Cursor.u16)
  let generation ← Cursor.u64
  return { transfer, sourceNamespace, targetNamespace, kind, mimeType, byteSize, decision,
           generation }

def encodePortalCommand : XAuthorityPortalCommand → Except IpcCodecError (List UInt8)
  | .promptClipboardTransfer transfer => do
    let transfer ← encodePortalTransfer transfer
    return pushU16 1 ++ transfer
  | .failSelection transfer => .ok (pushU16 2 ++ encodeSimpleId transfer)
  | .handoffClipboard transfer => .ok (pushU16 3 ++ encodeSimpleId transfer)

def decodePortalCommand : Cursor XAuthorityPortalCommand := do
  let tag ← Cursor.u16
  match tag.toNat with
  | 1 => return .promptClipboardTransfer (← decodePortalTransfer)
  | 2 => return .failSelection (← decodeSimpleId)
  | 3 => return .handoffClipboard (← decodeSimpleId)
  | _ => throw (IpcCodecError.invalidEnum "x_authority_portal_command" tag.toUInt32)

theorem matches_decodePortalTransfer : Matches decodePortalTransfer encodePortalTransfer := by
  intro input value rest
  have hmax : xAuthorityMaxTextLen < 2 ^ 32 := by decide
  simp only [decodePortalTransfer, encodePortalTransfer, bind_run_eq_ok, lift_run_eq_ok,
    pure_run_eq_ok, bind_eq_ok, pure_eq_ok, inverts_decodeSimpleId _ _ _,
    Cursor.inverts_u16 _ _ _, Cursor.inverts_u64 _ _ _, decodePortalTransferKind_eq_ok,
    decodePortalDecision_eq_ok, matches_decodeOptionalText hmax _ _ _]
  constructor
  · rintro ⟨transfer, _, rfl, sourceNamespace, _, rfl, targetNamespace, _, rfl, _, _, rfl, kind, _,
      ⟨rfl, rfl⟩, mimeType, _, ⟨bytes, htext, rfl⟩, byteSize, _, rfl, _, _, rfl, decision, _,
      ⟨rfl, rfl⟩, generation, _, rfl, rfl, rfl⟩
    exact ⟨_, ⟨bytes, htext, rfl⟩, by simp⟩
  · rintro ⟨_, ⟨bytes, htext, rfl⟩, rfl⟩
    simp only [List.append_assoc]
    exact ⟨_, _, rfl, _, _, rfl, _, _, rfl, _, _, rfl, _, _, ⟨rfl, rfl⟩, _, _, ⟨bytes, htext, rfl⟩,
      _, _, rfl, _, _, rfl, _, _, ⟨rfl, rfl⟩, _, _, rfl, rfl, rfl⟩

theorem matches_decodePortalCommand : Matches decodePortalCommand encodePortalCommand := by
  intro input command rest
  rw [decodePortalCommand, bind_run_eq_ok]
  constructor
  · rintro ⟨tag, mid, htag, hrun⟩
    rw [(Cursor.inverts_u16 _ _ _).mp htag]
    split at hrun
    · rename_i hcode
      simp only [bind_run_eq_ok, pure_run_eq_ok, matches_decodePortalTransfer _ _ _] at hrun
      obtain ⟨transfer, _, ⟨bytes, htransfer, rfl⟩, rfl, rfl⟩ := hrun
      rw [show tag = 1 from UInt16.toNat_inj.mp hcode]
      exact ⟨_, bind_eq_ok.mpr ⟨bytes, htransfer, rfl⟩, (List.append_assoc _ _ _).symm⟩
    · rename_i hcode
      simp only [bind_run_eq_ok, pure_run_eq_ok, inverts_decodeSimpleId _ _ _] at hrun
      obtain ⟨transfer, _, rfl, rfl, rfl⟩ := hrun
      rw [show tag = 2 from UInt16.toNat_inj.mp hcode]
      exact ⟨_, rfl, (List.append_assoc _ _ _).symm⟩
    · rename_i hcode
      simp only [bind_run_eq_ok, pure_run_eq_ok, inverts_decodeSimpleId _ _ _] at hrun
      obtain ⟨transfer, _, rfl, rfl, rfl⟩ := hrun
      rw [show tag = 3 from UInt16.toNat_inj.mp hcode]
      exact ⟨_, rfl, (List.append_assoc _ _ _).symm⟩
    · cases hrun
  · rintro ⟨bytes, hcommand, rfl⟩
    cases command with
    | promptClipboardTransfer transfer =>
      obtain ⟨body, hbody, he⟩ := bind_eq_ok.mp hcommand
      cases he
      refine ⟨1, _, (Cursor.inverts_u16 _ _ _).mpr (List.append_assoc _ _ _), ?_⟩
      refine bind_run_eq_ok.mpr ⟨transfer, rest, ?_, rfl⟩
      exact (matches_decodePortalTransfer _ _ _).mpr ⟨body, hbody, rfl⟩
    | failSelection transfer =>
      cases hcommand
      refine ⟨2, _, (Cursor.inverts_u16 _ _ _).mpr (List.append_assoc _ _ _), ?_⟩
      exact bind_run_eq_ok.mpr ⟨transfer, rest, (inverts_decodeSimpleId _ _ _).mpr rfl, rfl⟩
    | handoffClipboard transfer =>
      cases hcommand
      refine ⟨3, _, (Cursor.inverts_u16 _ _ _).mpr (List.append_assoc _ _ _), ?_⟩
      exact bind_run_eq_ok.mpr ⟨transfer, rest, (inverts_decodeSimpleId _ _ _).mpr rfl, rfl⟩

end Portals

section Artifacts

def encodeSelectionNotify (notify : ClipboardSelectionNotify) : List UInt8 :=
  pushU32 notify.time ++ encodeXResourceId notify.requestor ++ pushU32 notify.selection ++
    pushU32 notify.target ++ pushU32 notify.property

def decodeSelectionNotify : Cursor ClipboardSelectionNotify := do
  let time ← Cursor.u32
  let requestor ← decodeXResourceId
  let selection ← Cursor.u32
  let target ← Cursor.u32
  let property ← Cursor.u32
  return { time, requestor, selection, target, property }

def encodeSelectionFailure (failure : ClipboardSelectionFailure) : List UInt8 :=
  encodeSimpleId failure.transfer ++ encodeSelectionNotify failure.notify

def decodeSelectionFailure : Cursor ClipboardSelectionFailure := do
  let transfer ← decodeSimpleId
  let notify ← decodeSelectionNotify
  return { transfer, notify }

def encodeOwnerRequest (request : ClipboardSelectionOwnerRequest) : List UInt8 :=
  encodeXResourceId request.owner ++ encodeXResourceId request.requestor ++
    pushU32 request.selection ++ pushU32 request.target ++ pushU32 request.property ++
    pushU32 request.time

def decodeOwnerRequest : Cursor ClipboardSelectionOwnerRequest := do
  let owner ← decodeXResourceId
  let requestor ← decodeXResourceId
  let selection ← Cursor.u32
  let target ← Cursor.u32
  let property ← Cursor.u32
  let time ← Cursor.u32
  return { owner, requestor, selection, target, property, time }

def encodeSelectionArtifact : XAuthoritySelectionArtifact → List UInt8
  | .failure failure => pushU16 1 ++ encodeSelectionFailure failure
  | .request request => pushU16 2 ++ encodeOwnerRequest request
  | .clear owner selection time =>
    pushU16 3 ++ encodeXResourceId owner ++ pushU32 selection ++ pushU32 time

def decodeSelectionArtifact : Cursor XAuthoritySelectionArtifact := do
  let tag ← Cursor.u16
  match tag.toNat with
  | 1 => return .failure (← decodeSelectionFailure)
  | 2 => return .request (← decodeOwnerRequest)
  | 3 =>
    let owner ← decodeXResourceId
    let selection ← Cursor.u32
    let time ← Cursor.u32
    return .clear owner selection time
  | _ => throw (IpcCodecError.invalidEnum "x_authority_selection_artifact" tag.toUInt32)

theorem inverts_decodeSelectionFailure :
    Inverts decodeSelectionFailure encodeSelectionFailure := by
  intro input failure rest
  simp only [decodeSelectionFailure, decodeSelectionNotify, bind_run_eq_ok, pure_run_eq_ok,
    inverts_decodeSimpleId _ _ _, inverts_decodeXResourceId _ _ _, Cursor.inverts_u32 _ _ _]
  constructor
  · rintro ⟨transfer, _, rfl, _, _, ⟨time, _, rfl, requestor, _, rfl, selection, _, rfl, target, _,
      rfl, property, _, rfl, rfl, rfl⟩, rfl, rfl⟩
    simp [encodeSelectionFailure, encodeSelectionNotify]
  · rintro rfl
    simp only [encodeSelectionFailure, encodeSelectionNotify, List.append_assoc]
    exact ⟨_, _, rfl, _, _, ⟨_, _, rfl, _, _, rfl, _, _, rfl, _, _, rfl, _, _, rfl, rfl, rfl⟩, rfl,
      rfl⟩

theorem inverts_decodeOwnerRequest : Inverts decodeOwnerRequest encodeOwnerRequest := by
  intro input request rest
  simp only [decodeOwnerRequest, bind_run_eq_ok, pure_run_eq_ok, inverts_decodeXResourceId _ _ _,
    Cursor.inverts_u32 _ _ _]
  constructor
  · rintro ⟨owner, _, rfl, requestor, _, rfl, selection, _, rfl, target, _, rfl, property, _, rfl,
      time, _, rfl, rfl, rfl⟩
    simp [encodeOwnerRequest]
  · rintro rfl
    simp only [encodeOwnerRequest, List.append_assoc]
    exact ⟨_, _, rfl, _, _, rfl, _, _, rfl, _, _, rfl, _, _, rfl, _, _, rfl, rfl, rfl⟩

theorem inverts_decodeSelectionArtifact :
    Inverts decodeSelectionArtifact encodeSelectionArtifact := by
  intro input artifact rest
  rw [decodeSelectionArtifact, bind_run_eq_ok]
  constructor
  · rintro ⟨tag, mid, htag, hrun⟩
    rw [(Cursor.inverts_u16 _ _ _).mp htag]
    split at hrun
    · rename_i hcode
      simp only [bind_run_eq_ok, pure_run_eq_ok, inverts_decodeSelectionFailure _ _ _] at hrun
      obtain ⟨failure, _, rfl, rfl, rfl⟩ := hrun
      rw [show tag = 1 from UInt16.toNat_inj.mp hcode, encodeSelectionArtifact, List.append_assoc]
    · rename_i hcode
      simp only [bind_run_eq_ok, pure_run_eq_ok, inverts_decodeOwnerRequest _ _ _] at hrun
      obtain ⟨request, _, rfl, rfl, rfl⟩ := hrun
      rw [show tag = 2 from UInt16.toNat_inj.mp hcode, encodeSelectionArtifact, List.append_assoc]
    · rename_i hcode
      simp only [bind_run_eq_ok, pure_run_eq_ok, inverts_decodeXResourceId _ _ _,
        Cursor.inverts_u32 _ _ _] at hrun
      obtain ⟨owner, _, rfl, selection, _, rfl, time, _, rfl, rfl, rfl⟩ := hrun
      rw [show tag = 3 from UInt16.toNat_inj.mp hcode]
      simp [encodeSelectionArtifact]
    · cases hrun
  · rintro rfl
    cases artifact with
    | failure failure =>
      refine ⟨1, _, (Cursor.inverts_u16 _ _ _).mpr (List.append_assoc _ _ _), ?_⟩
      exact bind_run_eq_ok.mpr ⟨failure, rest, (inverts_decodeSelectionFailure _ _ _).mpr rfl, rfl⟩
    | request request =>
      refine ⟨2, _, (Cursor.inverts_u16 _ _ _).mpr (List.append_assoc _ _ _), ?_⟩
      exact bind_run_eq_ok.mpr ⟨request, rest, (inverts_decodeOwnerRequest _ _ _).mpr rfl, rfl⟩
    | clear owner selection time =>
      simp only [encodeSelectionArtifact, List.append_assoc]
      refine ⟨3, _, (Cursor.inverts_u16 _ _ _).mpr rfl, ?_⟩
      refine bind_run_eq_ok.mpr ⟨owner, _, (inverts_decodeXResourceId _ _ _).mpr rfl, ?_⟩
      refine bind_run_eq_ok.mpr ⟨selection, _, (Cursor.inverts_u32 _ _ _).mpr rfl, ?_⟩
      exact bind_run_eq_ok.mpr ⟨time, rest, (Cursor.inverts_u32 _ _ _).mpr rfl, rfl⟩

end Artifacts

section Responses

def encodeResponsePayload (response : XAuthorityResponsePacket) :
    Except IpcCodecError (List UInt8) := do
  let surfaces ← encodeItems (fun surface => .ok (encodeAuthoritySurface surface)) response.surfaces
  let removedSurfaces ← encodeItems (fun surface => .ok (encodeSurfaceId surface))
    response.removedSurfaces
  let transactions ← encodeItems encodeSurfaceTransaction response.transactions
  let portalCommands ← encodeItems encodePortalCommand response.portalCommands
  let selectionArtifacts ← encodeItems (fun artifact => .ok (encodeSelectionArtifact artifact))
    response.selectionArtifacts
  return encodeResponseOutcome response.outcome ++ surfaces ++ removedSurfaces ++ transactions ++
    portalCommands ++ selectionArtifacts

def encodeXAuthorityResponseFrame (response : XAuthorityResponsePacket) :
    Except IpcCodecError (List UInt8) := do
  let payload ← encodeResponsePayload response
  encodeFrame .xAuthorityResponse response.transaction payload

def decodeResponsePayload (transaction : TransactionId) : Cursor XAuthorityResponsePacket := do
  let outcome ← decodeResponseOutcome
  let surfaces ← decodeList decodeAuthoritySurface
  let removedSurfaces ← decodeList decodeSurfaceId
  let transactions ← decodeList decodeSurfaceTransaction
  let portalCommands ← decodeList decodePortalCommand
  let selectionArtifacts ← decodeList decodeSelectionArtifact
  return { transaction, outcome, surfaces, removedSurfaces, transactions, portalCommands,
           selectionArtifacts }

def decodeXAuthorityResponseFrame : List UInt8 → Except IpcCodecError XAuthorityResponsePacket :=
  decodeMessage .xAuthorityResponse decodeResponsePayload

/-- A response is accepted exactly as it is written. -/
theorem decodeXAuthorityResponseFrame_eq_ok {packet : XAuthorityResponsePacket}
    {frame : List UInt8} :
    decodeXAuthorityResponseFrame frame = .ok packet ↔
      encodeXAuthorityResponseFrame packet = .ok frame := by
  have hsurfaces := matches_decodeList inverts_decodeAuthoritySurface.matches
  have hremoved := matches_decodeList inverts_decodeSurfaceId.matches
  have htransactions := matches_decodeList matches_decodeSurfaceTransaction
  have hcommands := matches_decodeList matches_decodePortalCommand
  have hartifacts := matches_decodeList inverts_decodeSelectionArtifact.matches
  simp only [decodeXAuthorityResponseFrame, decodeMessage_eq_ok, decodeResponsePayload,
    encodeXAuthorityResponseFrame, encodeResponsePayload, bind_run_eq_ok, pure_run_eq_ok,
    bind_eq_ok, pure_eq_ok, inverts_decodeResponseOutcome _ _ _, hsurfaces _ _ _, hremoved _ _ _,
    htransactions _ _ _, hcommands _ _ _, hartifacts _ _ _]
  constructor
  · rintro ⟨transaction, _, hframe, outcome, _, rfl, surfaces, _, ⟨bs, hs, rfl⟩, removed, _,
      ⟨br, hr, rfl⟩, transactions, _, ⟨bt, ht, rfl⟩, commands, _, ⟨bc, hc, rfl⟩, artifacts, _,
      ⟨ba, ha, rfl⟩, rfl, rfl⟩
    refine ⟨_, ⟨bs, hs, br, hr, bt, ht, bc, hc, ba, ha, rfl⟩, ?_⟩
    simpa using hframe
  · rintro ⟨_, ⟨bs, hs, br, hr, bt, ht, bc, hc, ba, ha, rfl⟩, hframe⟩
    simp only [List.append_assoc] at hframe
    exact ⟨_, _, hframe, _, _, rfl, _, _, ⟨bs, hs, rfl⟩, _, _, ⟨br, hr, rfl⟩, _, _, ⟨bt, ht, rfl⟩,
      _, _, ⟨bc, hc, rfl⟩, _, _, ⟨ba, ha, (List.append_nil _).symm⟩, rfl, rfl⟩

end Responses

/-- Every message to and from the authority that encodes decodes to itself, and every frame that is
accepted is the one its message is written as. -/
theorem x_authority_codec_bijective (frame : List UInt8) :
    (∀ packet, encodeXAuthorityRequestFrame packet = .ok frame →
      decodeXAuthorityRequestFrame frame = .ok packet) ∧
    (∀ packet, encodeXAuthorityResponseFrame packet = .ok frame →
      decodeXAuthorityResponseFrame frame = .ok packet) ∧
    (∀ packet, decodeXAuthorityRequestFrame frame = .ok packet →
      encodeXAuthorityRequestFrame packet = .ok frame) ∧
    (∀ packet, decodeXAuthorityResponseFrame frame = .ok packet →
      encodeXAuthorityResponseFrame packet = .ok frame) := by
  refine ⟨?_, ?_, ?_, ?_⟩
  · intro packet h
    exact decodeXAuthorityRequestFrame_eq_ok.mpr h
  · intro packet h
    exact decodeXAuthorityResponseFrame_eq_ok.mpr h
  · intro packet h
    exact decodeXAuthorityRequestFrame_eq_ok.mp h
  · intro packet h
    exact decodeXAuthorityResponseFrame_eq_ok.mp h

/-- The frame of the request to map a window. -/
def mapWindowFrame : List UInt8 :=
  [0x53, 0x4f, 0x50, 0x48, 1, 0, 4, 0, 9, 0, 0, 0, 0, 0, 0, 0, 30, 0, 0, 0, 0, 0, 0, 0,
    3, 0, 0, 0, 0, 0, 0, 0, 2, 0, 0x11, 0, 0, 0, 0, 0, 0, 0, 1, 0, 0, 0, 5, 0, 0, 0, 0, 0, 0, 0]

theorem x_authority_codec_bijective_map :
    encodeXAuthorityRequestFrame ⟨⟨9⟩, ⟨3⟩, .mapWindow (.new 0x11 1) 5⟩ = .ok mapWindowFrame ∧
      decodeXAuthorityRequestFrame mapWindowFrame =
        .ok ⟨⟨9⟩, ⟨3⟩, .mapWindow (.new 0x11 1) 5⟩ := by
  have hencode : encodeXAuthorityRequestFrame ⟨⟨9⟩, ⟨3⟩, .mapWindow (.new 0x11 1) 5⟩ =
      .ok mapWindowFrame := by
    decide +kernel
  exact ⟨hencode, (x_authority_codec_bijective mapWindowFrame).1 _ hencode⟩

end Sophia.Authority.Codec
