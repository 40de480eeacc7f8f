import Sophia.Bridge.BridgeRuntime
import Sophia.Lib.Fallible

/-! What the private server passes on of a request, and what the bridge makes of what it gets. -/
namespace Sophia.Bridge

open Std Protocol

section Commands

/-- Whether the server knows the window once it has taken the command. -/
def ServerCommand.after (window : SyntheticXWindowId) (known : Prop) : ServerCommand → Prop
  | .map w _ => w = window ∨ known
  | .unmap w | .destroy w => w ≠ window ∧ known
  | _ => known

def knownAfter (window : SyntheticXWindowId) (known : Prop) (commands : List ServerCommand) :
    Prop :=
  commands.foldl (ServerCommand.after window) known

/-- The command makes the server forget the window. -/
def ServerCommand.Withdraws (command : ServerCommand) (window : SyntheticXWindowId) : Prop :=
  command = .unmap window ∨ command = .destroy window

variable {window : SyntheticXWindowId} {known known' : Prop} {command : ServerCommand}
  {commands more : List ServerCommand}

theorem knownAfter_append :
    knownAfter window known (commands ++ more) =
      knownAfter window (knownAfter window known commands) more :=
  List.foldl_append

theorem knownAfter_mono (h : known → known') :
    knownAfter window known commands → knownAfter window known' commands := by
  induction commands generalizing known known' with
  | nil => exact h
  | cons command commands ih =>
    refine ih ?_
    cases command with
    | map w geometry => exact Or.imp_right h
    | unmap w => exact And.imp_right h
    | destroy w => exact And.imp_right h
    | _ => exact h

/-- A window that nothing on the way withdraws stays known. -/
theorem knownAfter_of_kept (hkeep : ∀ command ∈ commands, ¬ command.Withdraws window) (h : known) :
    knownAfter window known commands := by
  induction commands generalizing known with
  | nil => exact h
  | cons command commands ih =>
    refine ih (fun command hc => hkeep command (List.mem_cons_of_mem _ hc)) ?_
    have hfirst := hkeep command List.mem_cons_self
    cases command with
    | map w geometry => exact Or.inr h
    | unmap w => exact ⟨fun he => hfirst (Or.inl (by rw [he])), h⟩
    | destroy w => exact ⟨fun he => hfirst (Or.inr (by rw [he])), h⟩
    | _ => exact h

end Commands

namespace XServerState

variable {state : XServerState} {opcode detail : UInt8} {body : List UInt8}
  {effect : ServerEffect} {command : ServerCommand}

theorem mem_windows_command (h : state.applyServerCommand command = .ok effect)
    {window : SyntheticXWindowId} (hw : window.raw ∈ effect.state.windows) :
    command.after window (window.raw ∈ state.windows) := by
  cases command with
  | map w geometry =>
    cases h
    rcases ExtTreeMap.mem_insert.mp hw with he | hw
    · exact Or.inl (congrArg SyntheticXWindowId.mk (LawfulEqOrd.eq_of_compare he))
    · exact Or.inr hw
  | configure w geometry =>
    cases h
    exact ExtTreeMap.mem_modify.mp hw
  | unmap w =>
    cases h
    obtain ⟨hne, hw⟩ := ExtTreeMap.mem_erase.mp hw
    exact ⟨fun he => hne (by rw [he]; exact compare_self), hw⟩
  | destroy w =>
    cases h
    obtain ⟨hne, hw⟩ := ExtTreeMap.mem_erase.mp hw
    exact ⟨fun he => hne (by rw [he]; exact compare_self), hw⟩
  | root bounds =>
    cases h
    exact hw
  | key keycode pressed =>
    cases h
    exact hw
  | wake =>
    cases h
    exact hw
  | queryFocus => cases h

/-- A request makes the server know no other windows, and what is passed on of it is the window it
names, which the server knows. -/
theorem dispatch_forwards (h : state.dispatchRequest opcode detail body = .ok effect) :
    (∀ raw, raw ∈ effect.state.windows → raw ∈ state.windows) ∧
      ∀ request ∈ effect.legacy, (opcode = 12 ∨ opcode = 42) ∧
        request.window = ⟨readU32 body 0⟩ ∧ readU32 body 0 ∈ state.windows := by
  have hsilent (next : XServerState) (hnext : next.windows = state.windows) :
      (∀ raw, raw ∈ next.windows → raw ∈ state.windows) ∧
        ∀ request ∈ ([] : List LegacyWmRequest), (opcode = 12 ∨ opcode = 42) ∧
          request.window = ⟨readU32 body 0⟩ ∧ readU32 body 0 ∈ state.windows := by
    refine ⟨fun raw hr => by rwa [← hnext], fun request hr => ?_⟩
    cases hr
  rcases dispatchRequest_cases h with
    ⟨he, hnone⟩ | ⟨mapped, rfl⟩ | ⟨hopcode, rfl⟩ | he | he | rfl | ⟨hopcode, rfl⟩
  · rw [he, hnone]
    exact hsilent state rfl
  · refine ⟨fun raw hr => ExtTreeMap.mem_modify.mp hr, fun request hr => ?_⟩
    cases hr
  · rw [configureWindow]
    cases hentry : state.windows[readU32 body 0]? with
    | none => exact hsilent state rfl
    | some entry =>
      have hmem : readU32 body 0 ∈ state.windows := by
        rw [ExtTreeMap.mem_iff_isSome_getElem?, hentry]
        rfl
      refine ⟨fun raw hr => ?_, fun request hr => ?_⟩
      · rcases ExtTreeMap.mem_insert.mp hr with he | hr
        · rwa [← LawfulEqOrd.eq_of_compare he]
        · exact hr
      · rw [List.mem_singleton.mp hr]
        exact ⟨Or.inl hopcode, rfl, hmem⟩
  · obtain ⟨hnone, he | ⟨name, atom, nextAtom, atomsByName, -, he⟩⟩ := replyInternAtom_cases he
    · rw [he, hnone]
      exact hsilent state rfl
    · rw [he, hnone]
      exact hsilent _ rfl
  · obtain ⟨keyGrabs, rfl⟩ := grabKey_cases he
    exact hsilent _ rfl
  · obtain ⟨keyGrabs, he⟩ := ungrabKey_eq state detail body
    rw [he]
    exact hsilent _ rfl
  · refine ⟨fun raw hr => hr, fun request hr => ?_⟩
    simp only [setInputFocus, syntheticId, Option.mem_toList, Option.map_eq_some_iff,
      Option.ite_none_right_eq_some, Option.some.injEq] at hr
    obtain ⟨window, ⟨hmem, rfl⟩, rfl⟩ := hr
    exact ⟨Or.inr hopcode, rfl, hmem⟩

end XServerState

namespace X11WmBridgeState

variable {bridge : X11WmBridgeState} {request : LegacyWmRequest} {requests : List LegacyWmRequest}

/-- The surfaces a command is about. -/
def surfacesOf : WmCommand Transform → List SurfaceId
  | .configureSurface request => [request.surface]
  | .focusSurface surface => [surface]
  | .assignWorkspace surface _ => [surface]
  | .renderSurface placement => [placement.surface]
  | .activateWorkspace _ _ => []
  | .requestSessionAction _ target => target.toList

theorem nodeOf_eq_ok {window : SyntheticXWindowId} {node : LayoutNodeSnapshot} :
    bridge.nodeOf window = .ok node ↔ bridge.windowToNode[window]? = some node := by
  rw [nodeOf]
  split
  · rename_i hnone
    simp [hnone]
  · rename_i hsome
    simp [hsome]

theorem nodeOf_eq_error {window : SyntheticXWindowId} {fault : BridgeFault}
    (h : bridge.nodeOf window = .error fault) : window ∉ bridge.windowToNode := by
  rw [nodeOf] at h
  split at h
  · rename_i hnone
    simp [ExtTreeMap.mem_iff_isSome_getElem?, hnone]
  · cases h

theorem clampPosition_ne {position low extent size : Int32} {error : X11WmBridgeError} :
    clampPosition position low extent size ≠ .error (.error error) := by
  rw [clampPosition]
  split
  · simp
  · dsimp only
    split
    · simp
    · simp

theorem placeGeometry_ne {node : LayoutNodeSnapshot} {geometry : Rect} {error : X11WmBridgeError} :
    bridge.placeGeometry node geometry ≠ .error (.error error) := by
  intro h
  rw [placeGeometry] at h
  dsimp only at h
  split at h
  · cases h
  · rcases Fallible.bind_eq_error.mp h with h | ⟨x, -, h⟩
    · exact clampPosition_ne h
    · rcases Fallible.bind_eq_error.mp h with h | ⟨y, -, h⟩
      · exact clampPosition_ne h
      · cases h

theorem translateLegacyRequest_unknown
    (h : bridge.translateLegacyRequest request = .error (.error .unknownSyntheticWindow)) :
    request.window ∉ bridge.windowToNode := by
  rcases request with ⟨window, geometry, zIndex⟩ | window
  · rw [translateLegacyRequest] at h
    split at h
    · cases h
    · rcases Fallible.bind_eq_error.mp h with h | ⟨node, -, h⟩
      · exact nodeOf_eq_error h
      · rcases Fallible.bind_eq_error.mp h with h | ⟨placed, -, h⟩
        · exact absurd h placeGeometry_ne
        · cases h
  · rw [translateLegacyRequest] at h
    rcases Fallible.bind_eq_error.mp h with h | ⟨node, -, h⟩
    · exact nodeOf_eq_error h
    · cases h

theorem translateLegacyRequest_surfaces {commands : List (WmCommand Transform)}
    (h : bridge.translateLegacyRequest request = .ok commands) :
    ∃ node : LayoutNodeSnapshot, bridge.windowToNode[request.window]? = some node ∧
      ∀ command ∈ commands, ∀ surface ∈ surfacesOf command, surface = node.surface := by
  rcases request with ⟨window, geometry, zIndex⟩ | window
  · rw [translateLegacyRequest] at h
    split at h
    · cases h
    · obtain ⟨node, hnode, h⟩ := Fallible.bind_eq_ok.mp h
      obtain ⟨placed, -, h⟩ := Fallible.bind_eq_ok.mp h
      refine ⟨node, nodeOf_eq_ok.mp hnode, ?_⟩
      cases h
      simp [surfacesOf]
  · rw [translateLegacyRequest] at h
    obtain ⟨node, hnode, h⟩ := Fallible.bind_eq_ok.mp h
    refine ⟨node, nodeOf_eq_ok.mp hnode, ?_⟩
    cases h
    split
    · simp [surfacesOf]
    · simp

variable {transaction : TransactionId} {timeoutMsec : UInt32}

/-- A translation that does not know a window was given a request that names it. -/
theorem translateLegacyRequests_unknown (h : bridge.translateLegacyRequests transaction requests
    timeoutMsec = .error (.error .unknownSyntheticWindow)) :
    ∃ request ∈ requests, request.window ∉ bridge.windowToNode := by
  rw [translateLegacyRequests] at h
  split at h
  · cases h
  · cases hcommands : requests.mapM bridge.translateLegacyRequest with
    | ok commands =>
      rw [hcommands] at h
      cases h
    | error fault =>
      rw [hcommands] at h
      cases h
      obtain ⟨request, hmem, he⟩ := Fallible.mapM_eq_error hcommands
      exact ⟨request, hmem, translateLegacyRequest_unknown he⟩

theorem translateLegacyRequests_surfaces {response : WmResponsePacket Transform}
    (h : bridge.translateLegacyRequests transaction requests timeoutMsec = .ok response) :
    ∀ command ∈ response.commands, ∀ surface ∈ surfacesOf command,
      ∃ (window : SyntheticXWindowId) (node : LayoutNodeSnapshot),
        bridge.windowToNode[window]? = some node ∧ node.surface = surface := by
  rw [translateLegacyRequests] at h
  split at h
  · cases h
  · obtain ⟨commands, hcommands, rfl⟩ := Fallible.map_eq_ok.mp h
    intro command hc surface hs
    obtain ⟨group, hgroup, hc⟩ := List.mem_flatten.mp hc
    obtain ⟨request, -, he⟩ := Fallible.mem_of_mapM_eq_ok hcommands hgroup
    obtain ⟨node, hnode, hall⟩ := translateLegacyRequest_surfaces he
    exact ⟨request.window, node, hnode, (hall command hc surface hs).symm⟩

end X11WmBridgeState
end Sophia.Bridge
