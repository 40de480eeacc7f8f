import Sophia.Authority.CodecSupport

/-! The requests sent to the X authority. -/
namespace Sophia.Authority.Codec

open Sophia.Protocol Sophia.Codec Sophia.Fallible Sophia.Ipc

def xAuthorityMaxTargetNameLen : ℕ := 256

section Requests

def encodeRequestKind : XAuthorityRequestKind → Except IpcCodecError (List UInt8)
  | .createWindow window surface geometry constraints generation =>
    .ok (pushU16 1 ++ encodeXResourceId window ++ encodeSurfaceId surface ++ encodeRect geometry ++
      encodeConstraints constraints ++ pushU64 generation)
  | .mapWindow window generation =>
    .ok (pushU16 2 ++ encodeXResourceId window ++ pushU64 generation)
  | .presentPixmap window pixmap damage previousCommittedGeneration timeoutMsec => do
    let damage ← encodeRegion damage
    return pushU16 3 ++ encodeXResourceId window ++ pushU32 pixmap ++ damage ++
      pushU64 previousCommittedGeneration ++ pushU32 timeoutMsec
  | .setSelectionOwner selection owner timestamp selectionTimestamp kind =>
    .ok (pushU16 4 ++ pushU32 selection ++ encodeOptionalXResourceId owner ++ pushU32 timestamp ++
      pushU32 selectionTimestamp ++ pushU16 (encodeSelectionChangeKind kind))
  | .requestSelection request transfer => do
    let targetName ← encodeText "x_authority_target_name" request.targetName
      xAuthorityMaxTargetNameLen
    return pushU16 5 ++ encodeXResourceId request.requestor ++ pushU32 request.selection ++
      pushU32 request.target ++ targetName ++ pushU32 request.property ++ pushU32 request.time ++
      encodeSimpleId transfer

def encodeRequestPayload (request : XAuthorityRequestPacket) :
    Except IpcCodecError (List UInt8) := do
  let kind ← encodeRequestKind request.kind
  return encodeSimpleId request.namespaceId ++ kind

def encodeXAuthorityRequestFrame (request : XAuthorityRequestPacket) :
    Except IpcCodecError (List UInt8) := do
  let payload ← encodeRequestPayload request
  encodeFrame .xAuthorityRequest request.transaction payload

def decodeCreateWindow : Cursor XAuthorityRequestKind := do
  let window ← decodeXResourceId
  let surface ← decodeSurfaceId
  let geometry ← decodeRect
  let constraints ← decodeConstraints
  let generation ← Cursor.u64
  return .createWindow window surface geometry constraints generation

def decodeMapWindow : Cursor XAuthorityRequestKind := do
  let window ← decodeXResourceId
  let generation ← Cursor.u64
  return .mapWindow window generation

def decodePresentPixmap : Cursor XAuthorityRequestKind := do
  let window ← decodeXResourceId
  let pixmap ← Cursor.u32
  let damage ← decodeRegion
  let previousCommittedGeneration ← Cursor.u64
  let timeoutMsec ← Cursor.u32
  return .presentPixmap window pixmap damage previousCommittedGeneration timeoutMsec

def decodeSetSelectionOwner : Cursor XAuthorityRequestKind := do
  let selection ← Cursor.u32
  let owner ← decodeOptionalXResourceId
  let timestamp ← Cursor.u32
  let selectionTimestamp ← Cursor.u32
  let kind ← decodeSelectionChangeKind (← Cursor.u16)
  return .setSelectionOwner selection owner timestamp selectionTimestamp kind

def decodeRequestSelection : Cursor XAuthorityRequestKind := do
  let requestor ← decodeXResourceId
  let selection ← Cursor.u32
  let target ← Cursor.u32
  let targetName ← decodeText "x_authority_target_name" xAuthorityMaxTargetNameLen
  let property ← Cursor.u32
  let time ← Cursor.u32
  let transfer ← decodeSimpleId
  return .requestSelection { requestor, selection, target, targetName, property, time } transfer

def decodeRequestKind : Cursor XAuthorityRequestKind := do
  let tag ← Cursor.u16
  match tag.toNat with
  | 1 => decodeCreateWindow
  | 2 => decodeMapWindow
  | 3 => decodePresentPixmap
  | 4 => decodeSetSelectionOwner
  | 5 => decodeRequestSelection
  | _ => throw (IpcCodecError.invalidEnum "x_authority_request_kind" tag.toUInt32)

def decodeRequestPayload (transaction : TransactionId) : Cursor XAuthorityRequestPacket := do
  let namespaceId ← decodeSimpleId
  let kind ← decodeRequestKind
  return { transaction, namespaceId, kind }

def decodeXAuthorityRequestFrame : List UInt8 → Except IpcCodecError XAuthorityRequestPacket :=
  decodeMessage .xAuthorityRequest decodeRequestPayload

variable {kind : XAuthorityRequestKind} {input rest : List UInt8}

theorem decodeCreateWindow_run_eq_ok : decodeCreateWindow.run input = .ok (kind, rest) ↔
    ∃ window surface geometry constraints generation,
      kind = .createWindow window surface geometry constraints generation ∧
      input = encodeXResourceId window ++ (encodeSurfaceId surface ++ (encodeRect geometry ++
        (encodeConstraints constraints ++ (pushU64 generation ++ rest)))) := by
  simp only [decodeCreateWindow, bind_run_eq_ok, pure_run_eq_ok, inverts_decodeXResourceId _ _ _,
    inverts_decodeSurfaceId _ _ _, inverts_decodeRect _ _ _, inverts_decodeConstraints _ _ _,
    Cursor.inverts_u64 _ _ _]
  constructor
  · rintro ⟨window, _, rfl, surface, _, rfl, geometry, _, rfl, constraints, _, rfl, generation, _,
      rfl, rfl, rfl⟩
    exact ⟨window, surface, geometry, constraints, generation, rfl, rfl⟩
  · rintro ⟨window, surface, geometry, constraints, generation, rfl, rfl⟩
    exact ⟨_, _, rfl, _, _, rfl, _, _, rfl, _, _, rfl, _, _, rfl, rfl, rfl⟩

theorem decodeMapWindow_run_eq_ok : decodeMapWindow.run input = .ok (kind, rest) ↔
    ∃ window generation, kind = .mapWindow window generation ∧
      input = encodeXResourceId window ++ (pushU64 generation ++ rest) := by
  simp only [decodeMapWindow, bind_run_eq_ok, pure_run_eq_ok, inverts_decodeXResourceId _ _ _,
    Cursor.inverts_u64 _ _ _]
  constructor
  · rintro ⟨window, _, rfl, generation, _, rfl, rfl, rfl⟩
    exact ⟨window, generation, rfl, rfl⟩
  · rintro ⟨window, generation, rfl, rfl⟩
    exact ⟨_, _, rfl, _, _, rfl, rfl, rfl⟩

theorem decodePresentPixmap_run_eq_ok : decodePresentPixmap.run input = .ok (kind, rest) ↔
    ∃ window pixmap damage previous timeout bytes, encodeRegion damage = .ok bytes ∧
      kind = .presentPixmap window pixmap damage previous timeout ∧
      input = encodeXResourceId window ++ (pushU32 pixmap ++ (bytes ++
        (pushU64 previous ++ (pushU32 timeout ++ rest)))) := by
  simp only [decodePresentPixmap, bind_run_eq_ok, pure_run_eq_ok, inverts_decodeXResourceId _ _ _,
    Cursor.inverts_u32 _ _ _, Cursor.inverts_u64 _ _ _, matches_decodeRegion _ _ _]
  constructor
  · rintro ⟨window, _, rfl, pixmap, _, rfl, damage, _, ⟨bytes, hdamage, rfl⟩, previous, _, rfl,
      timeout, _, rfl, rfl, rfl⟩
    exact ⟨window, pixmap, damage, previous, timeout, bytes, hdamage, rfl, rfl⟩
  · rintro ⟨window, pixmap, damage, previous, timeout, bytes, hdamage, rfl, rfl⟩
    exact ⟨_, _, rfl, _, _, rfl, _, _, ⟨bytes, hdamage, rfl⟩, _, _, rfl, _, _, rfl, rfl, rfl⟩

theorem decodeSetSelectionOwner_run_eq_ok : decodeSetSelectionOwner.run input = .ok (kind, rest) ↔
    ∃ selection owner timestamp selectionTimestamp change,
      kind = .setSelectionOwner selection owner timestamp selectionTimestamp change ∧
      input = pushU32 selection ++ (encodeOptionalXResourceId owner ++ (pushU32 timestamp ++
        (pushU32 selectionTimestamp ++ (pushU16 (encodeSelectionChangeKind change) ++ rest)))) := by
  simp only [decodeSetSelectionOwner, bind_run_eq_ok, pure_run_eq_ok, lift_run_eq_ok,
    inverts_decodeOptionalXResourceId _ _ _, Cursor.inverts_u32 _ _ _, Cursor.inverts_u16 _ _ _,
    decodeSelectionChangeKind_eq_ok]
  constructor
  · rintro ⟨selection, _, rfl, owner, _, rfl, timestamp, _, rfl, selectionTimestamp, _, rfl, _, _,
      rfl, change, _, ⟨rfl, rfl⟩, rfl, rfl⟩
    exact ⟨selection, owner, timestamp, selectionTimestamp, change, rfl, rfl⟩
  · rintro ⟨selection, owner, timestamp, selectionTimestamp, change, rfl, rfl⟩
    exact ⟨_, _, rfl, _, _, rfl, _, _, rfl, _, _, rfl, _, _, rfl, _, _, ⟨rfl, rfl⟩, rfl, rfl⟩

theorem decodeRequestSelection_run_eq_ok : decodeRequestSelection.run input = .ok (kind, rest) ↔
    ∃ request transfer bytes, encodeText "x_authority_target_name" request.targetName
        xAuthorityMaxTargetNameLen = .ok bytes ∧ kind = .requestSelection request transfer ∧
      input = encodeXResourceId request.requestor ++ (pushU32 request.selection ++
        (pushU32 request.target ++ (bytes ++ (pushU32 request.property ++
          (pushU32 request.time ++ (encodeSimpleId transfer ++ rest)))))) := by
  have hmax : xAuthorityMaxTargetNameLen < 2 ^ 32 := by decide
  simp only [decodeRequestSelection, bind_run_eq_ok, pure_run_eq_ok,
    inverts_decodeXResourceId _ _ _, inverts_decodeSimpleId _ _ _, Cursor.inverts_u32 _ _ _,
    matches_decodeText hmax _ _ _]
  constructor
  · rintro ⟨requestor, _, rfl, selection, _, rfl, target, _, rfl, targetName, _,
      ⟨bytes, hname, rfl⟩, property, _, rfl, time, _, rfl, transfer, _, rfl, rfl, rfl⟩
    exact ⟨⟨requestor, selection, target, targetName, property, time⟩, transfer, bytes, hname,
      rfl, rfl⟩
  · rintro ⟨request, transfer, bytes, hname, rfl, rfl⟩
    exact ⟨_, _, rfl, _, _, rfl, _, _, rfl, _, _, ⟨bytes, hname, rfl⟩, _, _, rfl, _, _, rfl, _, _,
      rfl, rfl, rfl⟩

theorem matches_decodeRequestKind : Matches decodeRequestKind encodeRequestKind := by
  intro input kind rest
  rw [decodeRequestKind, bind_run_eq_ok]
  constructor
  · rintro ⟨tag, mid, htag, hrun⟩
    rw [(Cursor.inverts_u16 _ _ _).mp htag]
    split at hrun
    · rename_i hcode
      obtain ⟨window, surface, geometry, constraints, generation, rfl, rfl⟩ :=
        decodeCreateWindow_run_eq_ok.mp hrun
      rw [show tag = 1 from UInt16.toNat_inj.mp hcode]
      exact ⟨_, rfl, by simp⟩
    · rename_i hcode
      obtain ⟨window, generation, rfl, rfl⟩ := decodeMapWindow_run_eq_ok.mp hrun
      rw [show tag = 2 from UInt16.toNat_inj.mp hcode]
      exact ⟨_, rfl, by simp⟩
    · rename_i hcode
      obtain ⟨window, pixmap, damage, previous, timeout, bytes, hdamage, rfl, rfl⟩ :=
        decodePresentPixmap_run_eq_ok.mp hrun
      rw [show tag = 3 from UInt16.toNat_inj.mp hcode]
      exact ⟨_, bind_eq_ok.mpr ⟨bytes, hdamage, rfl⟩, by simp⟩
    · rename_i hcode
      obtain ⟨selection, owner, timestamp, selectionTimestamp, change, rfl, rfl⟩ :=
        decodeSetSelectionOwner_run_eq_ok.mp hrun
      rw [show tag = 4 from UInt16.toNat_inj.mp hcode]
      exact ⟨_, rfl, by simp⟩
    · rename_i hcode
      obtain ⟨request, transfer, bytes, hname, rfl, rfl⟩ := decodeRequestSelection_run_eq_ok.mp hrun
      rw [show tag = 5 from UInt16.toNat_inj.mp hcode]
      exact ⟨_, bind_eq_ok.mpr ⟨bytes, hname, rfl⟩, by simp⟩
    · cases hrun
  · rintro ⟨bytes, hkind, rfl⟩
    cases kind with
    | createWindow window surface geometry constraints generation =>
      cases hkind
      simp only [List.append_assoc]
      refine ⟨1, _, (Cursor.inverts_u16 _ _ _).mpr rfl, ?_⟩
      exact decodeCreateWindow_run_eq_ok.mpr ⟨_, _, _, _, _, rfl, rfl⟩
    | mapWindow window generation =>
      cases hkind
      simp only [List.append_assoc]
      refine ⟨2, _, (Cursor.inverts_u16 _ _ _).mpr rfl, ?_⟩
      exact decodeMapWindow_run_eq_ok.mpr ⟨_, _, rfl, rfl⟩
    | presentPixmap window pixmap damage previous timeout =>
      obtain ⟨region, hdamage, he⟩ := bind_eq_ok.mp hkind
      cases he
      simp only [List.append_assoc]
      refine ⟨3, _, (Cursor.inverts_u16 _ _ _).mpr rfl, ?_⟩
      exact decodePresentPixmap_run_eq_ok.mpr ⟨_, _, _, _, _, region, hdamage, rfl, rfl⟩
    | setSelectionOwner selection owner timestamp selectionTimestamp change =>
      cases hkind
      simp only [List.append_assoc]
      refine ⟨4, _, (Cursor.inverts_u16 _ _ _).mpr rfl, ?_⟩
      exact decodeSetSelectionOwner_run_eq_ok.mpr ⟨_, _, _, _, _, rfl, rfl⟩
    | requestSelection request transfer =>
      obtain ⟨name, hname, he⟩ := bind_eq_ok.mp hkind
      cases he
      simp only [List.append_assoc]
      refine ⟨5, _, (Cursor.inverts_u16 _ _ _).mpr rfl, ?_⟩
      exact decodeRequestSelection_run_eq_ok.mpr ⟨request, transfer, name, hname, rfl, rfl⟩

/-- A request is accepted exactly as it is written. -/
theorem decodeXAuthorityRequestFrame_eq_ok {packet : XAuthorityRequestPacket}
    {frame : List UInt8} :
    decodeXAuthorityRequestFrame frame = .ok packet ↔
      encodeXAuthorityRequestFrame packet = .ok frame := by
  simp only [decodeXAuthorityRequestFrame, decodeMessage_eq_ok, decodeRequestPayload,
    encodeXAuthorityRequestFrame, encodeRequestPayload, bind_run_eq_ok, pure_run_eq_ok, bind_eq_ok,
    pure_eq_ok, inverts_decodeSimpleId _ _ _, matches_decodeRequestKind _ _ _]
  constructor
  · rintro ⟨transaction, _, hframe, namespaceId, _, rfl, kind, _, ⟨bytes, hkind, rfl⟩, rfl, rfl⟩
    rw [List.append_nil] at hframe
    exact ⟨_, ⟨bytes, hkind, rfl⟩, hframe⟩
  · rintro ⟨_, ⟨bytes, hkind, rfl⟩, hframe⟩
    exact ⟨_, _, hframe, _, _, rfl, _, _, ⟨bytes, hkind, (List.append_nil _).symm⟩, rfl, rfl⟩

end Requests
end Sophia.Authority.Codec
