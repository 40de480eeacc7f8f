import Sophia.Ipc.Primitives

/-! The messages exchanged with the window manager. -/
namespace Sophia.Ipc

open Sophia.Protocol Sophia.Codec Sophia.Fallible

section SessionActions

def encodeSessionAction : WmSessionAction → UInt16
  | .launchTerminal => 1
  | .launchApplicationMenu => 2
  | .launchFirefox => 3
  | .closeFocused => 4
  | .logout => 5

def decodeSessionAction (value : UInt16) : Except IpcCodecError WmSessionAction :=
  decodeEnum "wm_session_action" [(1, .launchTerminal), (2, .launchApplicationMenu),
    (3, .launchFirefox), (4, .closeFocused), (5, .logout)] value.toNat

theorem decodeSessionAction_eq_ok {value : UInt16} {action : WmSessionAction} :
    decodeSessionAction value = .ok action ↔ value = encodeSessionAction action :=
  decodeEnum_u16_eq_ok encodeSessionAction ⟨fun action => by cases action <;> rfl, by decide⟩

def readSessionAction : Cursor WmSessionAction := do
  decodeSessionAction (← Cursor.u16)

theorem inverts_readSessionAction :
    Inverts readSessionAction fun action => pushU16 (encodeSessionAction action) := by
  intro input action rest
  simp only [readSessionAction, bind_run_eq_ok, lift_run_eq_ok, Cursor.inverts_u16 _ _ _,
    decodeSessionAction_eq_ok]
  constructor
  · rintro ⟨_, _, rfl, rfl, rfl⟩
    rfl
  · rintro rfl
    exact ⟨_, _, rfl, rfl, rfl⟩

end SessionActions

section Surfaces

-- Unlike the other optional parts this one is announced by a word, not by a byte.
def encodeOptionSurface : Option SurfaceId → List UInt8
  | some surface => pushU16 1 ++ encodeSurfaceId surface
  | none => pushU16 0

def decodeOptionSurface : Cursor (Option SurfaceId) := do
  let tag ← Cursor.u16
  match tag.toNat with
  | 0 => return none
  | 1 => return some (← decodeSurfaceId)
  | other =>
    throw (IpcCodecError.invalidBool "optional_surface"
      (if other < UInt8.size then UInt8.ofNat other else 255))

theorem inverts_decodeOptionSurface : Inverts decodeOptionSurface encodeOptionSurface := by
  intro input value rest
  simp only [decodeOptionSurface, bind_run_eq_ok, Cursor.inverts_u16 _ _ _]
  constructor
  · rintro ⟨tag, mid, rfl, hrun⟩
    split at hrun
    · rename_i htag
      obtain ⟨rfl, rfl⟩ := pure_run_eq_ok.mp hrun
      rw [show tag = 0 from UInt16.toNat_inj.mp htag]
      rfl
    · rename_i htag
      obtain ⟨surface, mid', hsurface, hsome⟩ := bind_run_eq_ok.mp hrun
      obtain ⟨rfl, rfl⟩ := pure_run_eq_ok.mp hsome
      rw [show tag = 1 from UInt16.toNat_inj.mp htag,
        (inverts_decodeSurfaceId _ _ _).mp hsurface, encodeOptionSurface, List.append_assoc]
    · cases hrun
  · rintro rfl
    cases value with
    | none => exact ⟨0, rest, rfl, rfl⟩
    | some surface =>
      refine ⟨1, encodeSurfaceId surface ++ rest, by rw [encodeOptionSurface, List.append_assoc], ?_⟩
      exact bind_run_eq_ok.mpr ⟨surface, rest, (inverts_decodeSurfaceId _ _ _).mpr rfl, rfl⟩

end Surfaces

section Hello

def encodeBinding (binding : WmBindingRegistration) : List UInt8 :=
  encodeSimpleId binding.action ++ pushU32 binding.keycode ++ pushU32 binding.modifiers.bits

def decodeBinding : Cursor WmBindingRegistration := do
  let action ← decodeSimpleId
  let keycode ← Cursor.u32
  let modifiers : WmModifierMask := { bits := ← Cursor.u32 }
  return { action, keycode, modifiers }

def encodeWmHelloFrame (hello : WmHello) : Except IpcCodecError (List UInt8) := do
  checkCount hello.bindings.length
  encodeFrame .wmHello (.fromRaw 0) (pushU16 hello.apiVersion ++
    pushU64 hello.capabilities.bits ++ encodeList encodeBinding hello.bindings)

def decodeWmHelloPayload : Cursor WmHello := do
  let apiVersion ← Cursor.u16
  let capabilities : WmCapabilities := { bits := ← Cursor.u64 }
  let bindings ← decodeList decodeBinding
  return { apiVersion, capabilities, bindings }

-- The transaction of the frame is not looked at.
def decodeWmHelloFrame : List UInt8 → Except IpcCodecError WmHello :=
  decodeMessage .wmHello fun _ => decodeWmHelloPayload

theorem inverts_decodeBinding : Inverts decodeBinding encodeBinding := by
  intro input binding rest
  simp only [decodeBinding, bind_run_eq_ok, pure_run_eq_ok, inverts_decodeSimpleId _ _ _,
    Cursor.inverts_u32 _ _ _]
  constructor
  · rintro ⟨action, _, rfl, keycode, _, rfl, modifiers, _, rfl, rfl, rfl⟩
    simp [encodeBinding]
  · rintro rfl
    simp only [encodeBinding, List.append_assoc]
    exact ⟨_, _, rfl, _, _, rfl, _, _, rfl, rfl, rfl⟩

theorem decodeWmHelloFrame_encode {hello : WmHello} {frame : List UInt8}
    (h : encodeWmHelloFrame hello = .ok frame) : decodeWmHelloFrame frame = .ok hello := by
  simp only [encodeWmHelloFrame, checkCount, bind_eq_ok, require_eq_ok] at h
  obtain ⟨_, hcount, hframe⟩ := h
  refine decodeMessage_eq_ok.mpr ⟨_, _, hframe, ?_⟩
  simp only [decodeWmHelloPayload, bind_run_eq_ok, pure_run_eq_ok, Cursor.inverts_u16 _ _ _,
    Cursor.inverts_u64 _ _ _, decodeList_run_eq_ok inverts_decodeBinding, List.append_assoc]
  exact ⟨_, _, rfl, _, _, rfl, _, _, ⟨hcount, (List.append_nil _).symm⟩, rfl, rfl⟩

end Hello

section SessionDescriptor

def encodeOutputWorkspace (active : WmOutputWorkspace) : List UInt8 :=
  encodeOutputId active.output ++ encodeWorkspaceId active.workspace

def decodeOutputWorkspace : Cursor WmOutputWorkspace := do
  let output ← decodeOutputId
  let workspace ← decodeWorkspaceId
  return { output, workspace }

def encodeWmSessionDescriptorFrame (descriptor : WmSessionDescriptor) :
    Except IpcCodecError (List UInt8) := do
  checkCount descriptor.workspaces.length
  checkCount descriptor.activeWorkspaces.length
  checkCount descriptor.sessionActions.length
  encodeFrame .wmSessionDescriptor (.fromRaw 0) (pushU16 descriptor.apiVersion ++
    encodeList encodeWorkspaceId descriptor.workspaces ++
    encodeList encodeOutputWorkspace descriptor.activeWorkspaces ++
    encodeList (fun action => pushU16 (encodeSessionAction action)) descriptor.sessionActions)

def decodeWmSessionDescriptorPayload : Cursor WmSessionDescriptor := do
  let apiVersion ← Cursor.u16
  let workspaces ← decodeList decodeWorkspaceId
  let activeWorkspaces ← decodeList decodeOutputWorkspace
  let sessionActions ← decodeList readSessionAction
  return { apiVersion, workspaces, activeWorkspaces, sessionActions }

def decodeWmSessionDescriptorFrame : List UInt8 → Except IpcCodecError WmSessionDescriptor :=
  decodeMessage .wmSessionDescriptor fun _ => decodeWmSessionDescriptorPayload

theorem inverts_decodeOutputWorkspace : Inverts decodeOutputWorkspace encodeOutputWorkspace := by
  intro input active rest
  simp only [decodeOutputWorkspace, bind_run_eq_ok, pure_run_eq_ok, inverts_decodeOutputId _ _ _,
    inverts_decodeWorkspaceId _ _ _]
  constructor
  · rintro ⟨output, _, rfl, workspace, _, rfl, rfl, rfl⟩
    simp [encodeOutputWorkspace]
  · rintro rfl
    simp only [encodeOutputWorkspace, List.append_assoc]
    exact ⟨_, _, rfl, _, _, rfl, rfl, rfl⟩

theorem decodeWmSessionDescriptorFrame_encode {descriptor : WmSessionDescriptor}
    {frame : List UInt8} (h : encodeWmSessionDescriptorFrame descriptor = .ok frame) :
    decodeWmSessionDescriptorFrame frame = .ok descriptor := by
  simp only [encodeWmSessionDescriptorFrame, checkCount, bind_eq_ok, require_eq_ok] at h
  obtain ⟨_, hworkspaces, _, hactive, _, hactions, hframe⟩ := h
  refine decodeMessage_eq_ok.mpr ⟨_, _, hframe, ?_⟩
  simp only [decodeWmSessionDescriptorPayload, bind_run_eq_ok, pure_run_eq_ok,
    Cursor.inverts_u16 _ _ _, decodeList_run_eq_ok inverts_decodeWorkspaceId,
    decodeList_run_eq_ok inverts_decodeOutputWorkspace,
    decodeList_run_eq_ok inverts_readSessionAction, List.append_assoc]
  exact ⟨_, _, rfl, _, _, ⟨hworkspaces, rfl⟩, _, _, ⟨hactive, rfl⟩, _, _,
    ⟨hactions, (List.append_nil _).symm⟩, rfl, rfl⟩

end SessionDescriptor

section Requests

def encodeWmRequestPayload (request : WmRequestPacket) : Except IpcCodecError (List UInt8) :=
  match request.kind with
  | .manageSurface manage =>
    return pushU16 1 ++ encodeOutputId manage.output ++ encodeWorkspaceId manage.workspace ++
      encodeRect manage.bounds ++ encodeLayoutNode manage.node
  | .relayoutWorkspace relayout => do
    checkCount relayout.nodes.length
    return pushU16 2 ++ encodeOutputId relayout.output ++ encodeWorkspaceId relayout.workspace ++
      encodeRect relayout.bounds ++ encodeList encodeLayoutNode relayout.nodes
  | .surfaceRemoved surface workspace =>
    return pushU16 3 ++ encodeSurfaceId surface ++ encodeWorkspaceId workspace
  | .actionActivated activation => do
    checkCount activation.nodes.length
    return pushU16 4 ++ encodeSimpleId activation.action ++ encodeOutputId activation.output ++
      encodeWorkspaceId activation.workspace ++ encodeOptionSurface activation.focusedSurface ++
      encodeList encodeLayoutNode activation.nodes

def decodeManageSurface : Cursor WmManageSurface := do
  let output ← decodeOutputId
  let workspace ← decodeWorkspaceId
  let bounds ← decodeRect
  let node ← decodeLayoutNode
  return { node, output, workspace, bounds }

def decodeRelayoutWorkspace : Cursor WmRelayoutWorkspace := do
  let output ← decodeOutputId
  let workspace ← decodeWorkspaceId
  let bounds ← decodeRect
  let nodes ← decodeList decodeLayoutNode
  return { output, workspace, bounds, nodes }

def decodeActionActivation : Cursor WmActionActivation := do
  let action ← decodeSimpleId
  let output ← decodeOutputId
  let workspace ← decodeWorkspaceId
  let focusedSurface ← decodeOptionSurface
  let nodes ← decodeList decodeLayoutNode
  return { action, output, workspace, focusedSurface, nodes }

def decodeWmRequestKind : Cursor WmRequestKind := do
  let tag ← Cursor.u16
  match tag.toNat with
  | 1 => return .manageSurface (← decodeManageSurface)
  | 2 => return .relayoutWorkspace (← decodeRelayoutWorkspace)
  | 3 =>
    let surface ← decodeSurfaceId
    let workspace ← decodeWorkspaceId
    return .surfaceRemoved surface workspace
  | 4 => return .actionActivated (← decodeActionActivation)
  | _ => throw (IpcCodecError.invalidEnum "wm_request_kind" tag.toUInt32)

def decodeWmRequestPayload (transaction : TransactionId) : Cursor WmRequestPacket := do
  let kind ← decodeWmRequestKind
  return { transaction, kind }

def encodeWmRequestFrame (request : WmRequestPacket) : Except IpcCodecError (List UInt8) := do
  let payload ← encodeWmRequestPayload request
  encodeFrame .wmRequest request.transaction payload

def decodeWmRequestFrame : List UInt8 → Except IpcCodecError WmRequestPacket :=
  decodeMessage .wmRequest decodeWmRequestPayload

theorem reads_nodes {nodes : List LayoutNodeSnapshot} {rest : List UInt8}
    (h : nodes.length ≤ ipcMaxItems) :
    (decodeList decodeLayoutNode).run (encodeList encodeLayoutNode nodes ++ rest) =
      .ok (nodes, rest) :=
  reads_decodeList reads_decodeLayoutNode h

theorem decodeManageSurface_encode (manage : WmManageSurface) (rest : List UInt8) :
    decodeManageSurface.run (encodeOutputId manage.output ++ (encodeWorkspaceId manage.workspace ++
      (encodeRect manage.bounds ++ (encodeLayoutNode manage.node ++ rest)))) =
      .ok (manage, rest) := by
  simp only [decodeManageSurface, bind_run_eq_ok, pure_run_eq_ok, inverts_decodeOutputId _ _ _,
    inverts_decodeWorkspaceId _ _ _, inverts_decodeRect _ _ _]
  exact ⟨_, _, rfl, _, _, rfl, _, _, rfl, _, _, reads_decodeLayoutNode _ _, rfl, rfl⟩

theorem decodeRelayoutWorkspace_encode {relayout : WmRelayoutWorkspace}
    (h : relayout.nodes.length ≤ ipcMaxItems) (rest : List UInt8) :
    decodeRelayoutWorkspace.run (encodeOutputId relayout.output ++
      (encodeWorkspaceId relayout.workspace ++ (encodeRect relayout.bounds ++
        (encodeList encodeLayoutNode relayout.nodes ++ rest)))) = .ok (relayout, rest) := by
  simp only [decodeRelayoutWorkspace, bind_run_eq_ok, pure_run_eq_ok,
    inverts_decodeOutputId _ _ _, inverts_decodeWorkspaceId _ _ _, inverts_decodeRect _ _ _]
  exact ⟨_, _, rfl, _, _, rfl, _, _, rfl, _, _, reads_nodes h, rfl, rfl⟩

theorem decodeActionActivation_encode {activation : WmActionActivation}
    (h : activation.nodes.length ≤ ipcMaxItems) (rest : List UInt8) :
    decodeActionActivation.run (encodeSimpleId activation.action ++
      (encodeOutputId activation.output ++ (encodeWorkspaceId activation.workspace ++
        (encodeOptionSurface activation.focusedSurface ++
          (encodeList encodeLayoutNode activation.nodes ++ rest))))) = .ok (activation, rest) := by
  simp only [decodeActionActivation, bind_run_eq_ok, pure_run_eq_ok,
    inverts_decodeSimpleId _ _ _, inverts_decodeOutputId _ _ _, inverts_decodeWorkspaceId _ _ _,
    inverts_decodeOptionSurface _ _ _]
  exact ⟨_, _, rfl, _, _, rfl, _, _, rfl, _, _, rfl, _, _, reads_nodes h, rfl, rfl⟩

/-- The tag of a request sends the decoder to the body that was written after it. -/
theorem decodeWmRequestKind_encode {request : WmRequestPacket} {payload : List UInt8}
    (h : encodeWmRequestPayload request = .ok payload) :
    decodeWmRequestKind.run payload = .ok (request.kind, []) := by
  obtain ⟨transaction, kind⟩ := request
  rw [decodeWmRequestKind, bind_run_eq_ok]
  cases kind with
  | manageSurface manage =>
    cases h
    simp only [List.append_assoc]
    refine ⟨1, _, (Cursor.inverts_u16 _ _ _).mpr rfl, ?_⟩
    have hbody := decodeManageSurface_encode manage []
    rw [List.append_nil] at hbody
    exact bind_run_eq_ok.mpr ⟨manage, [], hbody, rfl⟩
  | relayoutWorkspace relayout =>
    simp only [encodeWmRequestPayload, checkCount, bind_eq_ok, require_eq_ok, pure_eq_ok] at h
    obtain ⟨_, hcount, rfl⟩ := h
    simp only [List.append_assoc]
    refine ⟨2, _, (Cursor.inverts_u16 _ _ _).mpr rfl, ?_⟩
    have hbody := decodeRelayoutWorkspace_encode hcount []
    rw [List.append_nil] at hbody
    exact bind_run_eq_ok.mpr ⟨relayout, [], hbody, rfl⟩
  | surfaceRemoved surface workspace =>
    cases h
    simp only [List.append_assoc]
    refine ⟨3, _, (Cursor.inverts_u16 _ _ _).mpr rfl, ?_⟩
    refine bind_run_eq_ok.mpr ⟨surface, _, (inverts_decodeSurfaceId _ _ _).mpr rfl, ?_⟩
    exact bind_run_eq_ok.mpr ⟨workspace, [],
      (inverts_decodeWorkspaceId _ _ _).mpr (List.append_nil _).symm, rfl⟩
  | actionActivated activation =>
    simp only [encodeWmRequestPayload, checkCount, bind_eq_ok, require_eq_ok, pure_eq_ok] at h
    obtain ⟨_, hcount, rfl⟩ := h
    simp only [List.append_assoc]
    refine ⟨4, _, (Cursor.inverts_u16 _ _ _).mpr rfl, ?_⟩
    have hbody := decodeActionActivation_encode hcount []
    rw [List.append_nil] at hbody
    exact bind_run_eq_ok.mpr ⟨activation, [], hbody, rfl⟩

theorem decodeWmRequestFrame_encode {request : WmRequestPacket} {frame : List UInt8}
    (h : encodeWmRequestFrame request = .ok frame) : decodeWmRequestFrame frame = .ok request := by
  simp only [encodeWmRequestFrame, bind_eq_ok] at h
  obtain ⟨payload, hpayload, hframe⟩ := h
  refine decodeMessage_eq_ok.mpr ⟨_, _, hframe, ?_⟩
  exact bind_run_eq_ok.mpr ⟨request.kind, [], decodeWmRequestKind_encode hpayload, rfl⟩

end Requests

section Responses

def encodePlacement (placement : SurfacePlacement TransformBits) : List UInt8 :=
  encodeSurfaceId placement.surface ++ encodeRect placement.geometry ++
    pushI32 placement.zIndex ++ encodeOptionRect placement.crop ++
    encodeTransform placement.transform

def encodeWmCommand : WmCommand TransformBits → List UInt8
  | .configureSurface request =>
    pushU16 1 ++ (encodeSurfaceId request.surface ++ encodeSize request.size)
  | .focusSurface surface => pushU16 2 ++ encodeSurfaceId surface
  | .assignWorkspace surface workspace =>
    pushU16 3 ++ (encodeSurfaceId surface ++ encodeWorkspaceId workspace)
  | .renderSurface placement => pushU16 4 ++ encodePlacement placement
  | .activateWorkspace output workspace =>
    pushU16 5 ++ (encodeOutputId output ++ encodeWorkspaceId workspace)
  | .requestSessionAction action target =>
    pushU16 6 ++ (pushU16 (encodeSessionAction action) ++ encodeOptionSurface target)

def decodePlacement : Cursor (SurfacePlacement TransformBits) := do
  let surface ← decodeSurfaceId
  let geometry ← decodeRect
  let zIndex ← Cursor.i32
  let crop ← decodeOptionRect
  let transform ← decodeTransform
  return { surface, geometry, zIndex, crop, transform }

def decodeWmCommand : Cursor (WmCommand TransformBits) := do
  let tag ← Cursor.u16
  match tag.toNat with
  | 1 =>
    let surface ← decodeSurfaceId
    let size ← decodeSize
    return .configureSurface { surface, size }
  | 2 => return .focusSurface (← decodeSurfaceId)
  | 3 =>
    let surface ← decodeSurfaceId
    let workspace ← decodeWorkspaceId
    return .assignWorkspace surface workspace
  | 4 => return .renderSurface (← decodePlacement)
  | 5 =>
    let output ← decodeOutputId
    let workspace ← decodeWorkspaceId
    return .activateWorkspace output workspace
  | 6 =>
    let action ← readSessionAction
    let target ← decodeOptionSurface
    return .requestSessionAction action target
  | _ => throw (IpcCodecError.invalidEnum "wm_command" tag.toUInt32)

def encodeWmResponsePayload (response : WmResponsePacket TransformBits) :
    Except IpcCodecError (List UInt8) := do
  checkCount response.commands.length
  return pushU32 response.timeoutMsec ++ encodeList encodeWmCommand response.commands

def decodeWmResponsePayload (transaction : TransactionId) :
    Cursor (WmResponsePacket TransformBits) := do
  let timeoutMsec ← Cursor.u32
  let commands ← decodeList decodeWmCommand
  return { transaction, commands, timeoutMsec }

def encodeWmResponseFrame (response : WmResponsePacket TransformBits) :
    Except IpcCodecError (List UInt8) := do
  let payload ← encodeWmResponsePayload response
  encodeFrame .wmResponse response.transaction payload

def decodeWmResponseFrame : List UInt8 → Except IpcCodecError (WmResponsePacket TransformBits) :=
  decodeMessage .wmResponse decodeWmResponsePayload

theorem inverts_decodePlacement : Inverts decodePlacement encodePlacement := by
  intro input placement rest
  simp only [decodePlacement, bind_run_eq_ok, pure_run_eq_ok, inverts_decodeSurfaceId _ _ _,
    inverts_decodeRect _ _ _, Cursor.inverts_i32 _ _ _, inverts_decodeOptionRect _ _ _,
    inverts_decodeTransform _ _ _]
  constructor
  · rintro ⟨surface, _, rfl, geometry, _, rfl, zIndex, _, rfl, crop, _, rfl, transform, _, rfl,
      rfl, rfl⟩
    simp [encodePlacement]
  · rintro rfl
    simp only [encodePlacement, List.append_assoc]
    exact ⟨_, _, rfl, _, _, rfl, _, _, rfl, _, _, rfl, _, _, rfl, rfl, rfl⟩

theorem decodeWmCommand_pins {input rest : List UInt8} {command : WmCommand TransformBits}
    (h : decodeWmCommand.run input = .ok (command, rest)) :
    input = encodeWmCommand command ++ rest := by
  rw [decodeWmCommand, bind_run_eq_ok] at h
  obtain ⟨tag, mid, htag, hrun⟩ := h
  rw [(Cursor.inverts_u16 _ _ _).mp htag]
  split at hrun
  · rename_i hcode
    rw [show tag = 1 from UInt16.toNat_inj.mp hcode]
    simp only [bind_run_eq_ok, pure_run_eq_ok, inverts_decodeSurfaceId _ _ _,
      inverts_decodeSize _ _ _] at hrun
    obtain ⟨surface, _, rfl, size, _, rfl, rfl, rfl⟩ := hrun
    simp [encodeWmCommand]
  · rename_i hcode
    rw [show tag = 2 from UInt16.toNat_inj.mp hcode]
    simp only [bind_run_eq_ok, pure_run_eq_ok, inverts_decodeSurfaceId _ _ _] at hrun
    obtain ⟨surface, _, rfl, rfl, rfl⟩ := hrun
    simp [encodeWmCommand]
  · rename_i hcode
    rw [show tag = 3 from UInt16.toNat_inj.mp hcode]
    simp only [bind_run_eq_ok, pure_run_eq_ok, inverts_decodeSurfaceId _ _ _,
      inverts_decodeWorkspaceId _ _ _] at hrun
    obtain ⟨surface, _, rfl, workspace, _, rfl, rfl, rfl⟩ := hrun
    simp [encodeWmCommand]
  · rename_i hcode
    rw [show tag = 4 from UInt16.toNat_inj.mp hcode]
    simp only [bind_run_eq_ok, pure_run_eq_ok, inverts_decodePlacement _ _ _] at hrun
    obtain ⟨placement, _, rfl, rfl, rfl⟩ := hrun
    simp [encodeWmCommand]
  · rename_i hcode
    rw [show tag = 5 from UInt16.toNat_inj.mp hcode]
    simp only [bind_run_eq_ok, pure_run_eq_ok, inverts_decodeOutputId _ _ _,
      inverts_decodeWorkspaceId _ _ _] at hrun
    obtain ⟨output, _, rfl, workspace, _, rfl, rfl, rfl⟩ := hrun
    simp [encodeWmCommand]
  · rename_i hcode
    rw [show tag = 6 from UInt16.toNat_inj.mp hcode]
    simp only [bind_run_eq_ok, pure_run_eq_ok, inverts_readSessionAction _ _ _,
      inverts_decodeOptionSurface _ _ _] at hrun
    obtain ⟨action, _, rfl, target, _, rfl, rfl, rfl⟩ := hrun
    simp [encodeWmCommand]
  · cases hrun

theorem reads_decodeWmCommand : Reads decodeWmCommand encodeWmCommand := by
  intro command rest
  rw [decodeWmCommand, bind_run_eq_ok]
  cases command with
  | configureSurface request =>
    refine ⟨1, _, (Cursor.inverts_u16 _ _ _).mpr (List.append_assoc _ _ _), ?_⟩
    refine bind_run_eq_ok.mpr ⟨request.surface, _, (inverts_decodeSurfaceId _ _ _).mpr
      (List.append_assoc _ _ _), ?_⟩
    exact bind_run_eq_ok.mpr ⟨request.size, rest, (inverts_decodeSize _ _ _).mpr rfl, rfl⟩
  | focusSurface surface =>
    refine ⟨2, _, (Cursor.inverts_u16 _ _ _).mpr (List.append_assoc _ _ _), ?_⟩
    exact bind_run_eq_ok.mpr ⟨surface, rest, (inverts_decodeSurfaceId _ _ _).mpr rfl, rfl⟩
  | assignWorkspace surface workspace =>
    refine ⟨3, _, (Cursor.inverts_u16 _ _ _).mpr (List.append_assoc _ _ _), ?_⟩
    refine bind_run_eq_ok.mpr ⟨surface, _, (inverts_decodeSurfaceId _ _ _).mpr
      (List.append_assoc _ _ _), ?_⟩
    exact bind_run_eq_ok.mpr ⟨workspace, rest, (inverts_decodeWorkspaceId _ _ _).mpr rfl, rfl⟩
  | renderSurface placement =>
    refine ⟨4, _, (Cursor.inverts_u16 _ _ _).mpr (List.append_assoc _ _ _), ?_⟩
    exact bind_run_eq_ok.mpr ⟨placement, rest, (inverts_decodePlacement _ _ _).mpr rfl, rfl⟩
  | activateWorkspace output workspace =>
    refine ⟨5, _, (Cursor.inverts_u16 _ _ _).mpr (List.append_assoc _ _ _), ?_⟩
    refine bind_run_eq_ok.mpr ⟨output, _, (inverts_decodeOutputId _ _ _).mpr
      (List.append_assoc _ _ _), ?_⟩
    exact bind_run_eq_ok.mpr ⟨workspace, rest, (inverts_decodeWorkspaceId _ _ _).mpr rfl, rfl⟩
  | requestSessionAction action target =>
    refine ⟨6, _, (Cursor.inverts_u16 _ _ _).mpr (List.append_assoc _ _ _), ?_⟩
    refine bind_run_eq_ok.mpr ⟨action, _, (inverts_readSessionAction _ _ _).mpr
      (List.append_assoc _ _ _), ?_⟩
    exact bind_run_eq_ok.mpr ⟨target, rest, (inverts_decodeOptionSurface _ _ _).mpr rfl, rfl⟩

theorem inverts_decodeWmCommand : Inverts decodeWmCommand encodeWmCommand :=
  fun _ command rest =>
    ⟨decodeWmCommand_pins, fun he => he ▸ reads_decodeWmCommand command rest⟩

/-- A response is accepted exactly as it is written. -/
theorem decodeWmResponseFrame_eq_ok {response : WmResponsePacket TransformBits}
    {frame : List UInt8} :
    decodeWmResponseFrame frame = .ok response ↔ encodeWmResponseFrame response = .ok frame := by
  simp only [decodeWmResponseFrame, decodeMessage_eq_ok, decodeWmResponsePayload,
    encodeWmResponseFrame, encodeWmResponsePayload, checkCount, bind_run_eq_ok, pure_run_eq_ok,
    bind_eq_ok, pure_eq_ok, require_eq_ok, Cursor.inverts_u32 _ _ _,
    decodeList_run_eq_ok inverts_decodeWmCommand]
  constructor
  · rintro ⟨transaction, _, hframe, timeoutMsec, _, rfl, commands, _, ⟨hcount, rfl⟩, rfl, rfl⟩
    rw [List.append_nil] at hframe
    exact ⟨_, ⟨(), hcount, rfl⟩, hframe⟩
  · rintro ⟨_, ⟨_, hcount, rfl⟩, hframe⟩
    exact ⟨_, _, hframe, _, _, rfl, _, _, ⟨hcount, (List.append_nil _).symm⟩, rfl, rfl⟩

end Responses
end Sophia.Ipc
