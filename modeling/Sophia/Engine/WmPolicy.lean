import Mathlib.Data.List.Nodup
import Mathlib.Logic.Equiv.Basic
import Sophia.Lib.Fallible
import Sophia.Lib.History
import Sophia.Protocol.Wm

/-! The workspace policy: which output shows which workspace, and where the focus is. -/
namespace Sophia.Engine

open Std Sophia.Protocol

structure WmOutputPolicyState where
  bounds : Rect
  workspace : WorkspaceId
  focus : Option SurfaceId
  deriving DecidableEq, Repr

structure WmWorkspaceState where
  workspaces : List WorkspaceId
  outputs : ExtTreeMap OutputId WmOutputPolicyState
  surfaces : ExtTreeMap SurfaceId WorkspaceId

inductive WmPolicyError where
  | invalidWorkspaceCount
  | invalidOutput
  | duplicateOutput
  | invalidOutputBounds
  | unknownOutput
  | unknownWorkspace
  | unknownSurface
  | duplicateSurfaceCommand
  | duplicateOutputCommand
  | duplicateFocusCommand
  | duplicateSessionAction
  | hiddenFocus
  | unadvertisedSessionAction
  | invalidSessionActionTarget
  deriving DecidableEq, Repr

structure WmPolicyPlan (τ : Type) where
  transaction : TransactionId
  candidate : WmWorkspaceState
  layout : LayoutTransaction τ
  affectedOutputs : List OutputId
  sessionAction : Option (WmSessionAction × Option SurfaceId)

/-- The ids of the configured workspaces, from slot one on. -/
def configuredWorkspaces (workspaceCount : ℕ) : List WorkspaceId :=
  (List.range' 1 workspaceCount).map fun slot => .fromRaw (UInt64.ofNat slot)

namespace WmWorkspaceState

def configureOutput (workspaces : List WorkspaceId)
    (configured : ExtTreeMap OutputId WmOutputPolicyState) :
    (OutputId × Rect) × ℕ → Except WmPolicyError (ExtTreeMap OutputId WmOutputPolicyState)
  | ((output, bounds), index) =>
    if !output.isValid then .error .invalidOutput
    else if bounds.isEmpty then .error .invalidOutputBounds
    else match workspaces[index]? with
      | none => .error .invalidWorkspaceCount
      | some workspace =>
        if output ∈ configured then .error .duplicateOutput
        else .ok (configured.insert output { bounds, workspace, focus := none })

def new (outputs : List (OutputId × Rect)) (workspaceCount : ℕ) :
    Except WmPolicyError WmWorkspaceState :=
  if workspaceCount = 0 ∨ 64 < workspaceCount then .error .invalidWorkspaceCount
  else do
    let workspaces := configuredWorkspaces workspaceCount
    let configured ← outputs.zipIdx.foldlM (configureOutput workspaces) ∅
    if configured.isEmpty then .error .invalidOutput
    else .ok { workspaces, outputs := configured, surfaces := ∅ }

def requireWorkspace (state : WmWorkspaceState) (workspace : WorkspaceId) :
    Except WmPolicyError Unit :=
  if workspace ∈ state.workspaces then .ok () else .error .unknownWorkspace

def requireSurface (state : WmWorkspaceState) (surface : SurfaceId) : Except WmPolicyError Unit :=
  if surface ∈ state.surfaces then .ok () else .error .unknownSurface

def registerSurface (state : WmWorkspaceState) (surface : SurfaceId) (workspace : WorkspaceId) :
    Except WmPolicyError WmWorkspaceState :=
  if !surface.isValid then .error .unknownSurface
  else do
    state.requireWorkspace workspace
    return { state with surfaces := state.surfaces.insert surface workspace }

def removeSurface (state : WmWorkspaceState) (surface : SurfaceId) : Bool × WmWorkspaceState :=
  (state.surfaces.contains surface,
    { state with
      surfaces := state.surfaces.erase surface
      outputs := state.outputs.map fun _ output =>
        if output.focus = some surface then { output with focus := none } else output })

def surfaceWorkspace (state : WmWorkspaceState) (surface : SurfaceId) : Option WorkspaceId :=
  state.surfaces[surface]?

def outputForWorkspace (state : WmWorkspaceState) (workspace : WorkspaceId) : Option OutputId :=
  state.outputs.toList.findSome? fun (output, shown) =>
    if shown.workspace = workspace then some output else none

def activateWorkspace (state : WmWorkspaceState) (output : OutputId) (workspace : WorkspaceId) :
    Except WmPolicyError WmWorkspaceState :=
  match state.outputs[output]? with
  | none => .error .unknownOutput
  | some shown =>
    if shown.workspace = workspace then .ok state
    else
      let swapped := match state.outputForWorkspace workspace with
        | some other => state.outputs.modify other fun o => { o with workspace := shown.workspace }
        | none => state.outputs
      .ok { state with outputs := swapped.modify output fun o => { o with workspace := workspace } }

def clearHiddenFocus (state : WmWorkspaceState) : WmWorkspaceState :=
  { state with
    outputs := state.outputs.map fun _ output =>
      if output.focus.any fun surface => decide (state.surfaces[surface]? ≠ some output.workspace)
      then { output with focus := none } else output }

/-- What `planResponse` has collected when it reaches a command. -/
structure Progress (τ : Type) where
  candidate : WmWorkspaceState
  requestedSizes : List SurfaceSizeRequest := []
  renderPositions : List (SurfacePlacement τ) := []
  focus : Option SurfaceId := none
  sessionAction : Option (WmSessionAction × Option SurfaceId) := none
  assigned : List SurfaceId := []
  activated : List OutputId := []
  configured : List SurfaceId := []
  rendered : List SurfaceId := []

variable {τ : Type}

def planCommand (advertisedActions : List WmSessionAction) (plan : Progress τ) :
    WmCommand τ → Except WmPolicyError (Progress τ)
  | .configureSurface request => do
    plan.candidate.requireSurface request.surface
    if request.surface ∈ plan.configured then .error .duplicateSurfaceCommand
    else .ok { plan with
      configured := request.surface :: plan.configured
      requestedSizes := plan.requestedSizes ++ [request] }
  | .renderSurface placement => do
    plan.candidate.requireSurface placement.surface
    if placement.surface ∈ plan.rendered then .error .duplicateSurfaceCommand
    else .ok { plan with
      rendered := placement.surface :: plan.rendered
      renderPositions := plan.renderPositions ++ [placement] }
  | .assignWorkspace surface workspace => do
    plan.candidate.requireSurface surface
    plan.candidate.requireWorkspace workspace
    if surface ∈ plan.assigned then .error .duplicateSurfaceCommand
    else .ok { plan with
      assigned := surface :: plan.assigned
      candidate := { plan.candidate with
        surfaces := plan.candidate.surfaces.insert surface workspace } }
  | .activateWorkspace output workspace => do
    plan.candidate.requireWorkspace workspace
    if output ∈ plan.activated then .error .duplicateOutputCommand
    else do
      let candidate ← plan.candidate.activateWorkspace output workspace
      return { plan with activated := output :: plan.activated, candidate }
  | .focusSurface surface => do
    plan.candidate.requireSurface surface
    if plan.focus.isSome then .error .duplicateFocusCommand
    else .ok { plan with focus := some surface }
  | .requestSessionAction action target =>
    if plan.sessionAction.isSome then .error .duplicateSessionAction
    else if action ∉ advertisedActions then .error .unadvertisedSessionAction
    else do
      target.elim (.ok ()) plan.candidate.requireSurface
      if action ≠ .closeFocused ∧ target.isSome then .error .invalidSessionActionTarget
      else .ok { plan with sessionAction := some (action, target) }

/-- The focus command of a response takes effect after all of its other commands. -/
def focusOutput (state : WmWorkspaceState) :
    Option SurfaceId → Except WmPolicyError WmWorkspaceState
  | none => .ok state
  | some surface => match state.surfaceWorkspace surface with
    | none => .error .unknownSurface
    | some workspace => match state.outputForWorkspace workspace with
      | none => .error .hiddenFocus
      | some output => .ok { state with
        outputs := state.outputs.modify output fun o => { o with focus := some surface } }

def planResponse (state : WmWorkspaceState) (response : WmResponsePacket τ)
    (advertisedActions : List WmSessionAction) : Except WmPolicyError (WmPolicyPlan τ) := do
  let plan ← response.commands.foldlM (planCommand advertisedActions) { candidate := state }
  let focused ← plan.candidate.focusOutput plan.focus
  let candidate := focused.clearHiddenFocus
  let affectedOutputs := candidate.outputs.toList.filterMap fun (output, shown) =>
    if state.outputs[output]? ≠ some shown then some output else none
  return {
    transaction := response.transaction
    candidate
    layout := {
      transaction := response.transaction
      requestedSizes := plan.requestedSizes
      focus := plan.focus
      renderPositions := plan.renderPositions
      timeoutMsec := response.timeoutMsec }
    affectedOutputs
    sessionAction := plan.sessionAction }

/-- The workspace an output shows. -/
def shown (state : WmWorkspaceState) (output : OutputId) : Option WorkspaceId :=
  state.outputs[output]?.map WmOutputPolicyState.workspace

/-- The outputs show distinct configured workspaces, and the surfaces live on configured ones. -/
structure Placed (configured : List WorkspaceId) (state : WmWorkspaceState) : Prop where
  workspaces_eq : state.workspaces = configured
  distinct : ∀ o₁ o₂ w, state.shown o₁ = some w → state.shown o₂ = some w → o₁ = o₂
  shown_mem : ∀ o w, state.shown o = some w → w ∈ configured
  assigned_mem : ∀ (s : SurfaceId) (w : WorkspaceId), state.surfaces[s]? = some w → w ∈ configured

/-- A focused surface is registered on the workspace its output shows. -/
def FocusShown (state : WmWorkspaceState) : Prop :=
  ∀ (o : OutputId) (a : WmOutputPolicyState) (s : SurfaceId), state.outputs[o]? = some a →
    a.focus = some s → state.surfaces[s]? = some a.workspace

structure Consistent (configured : List WorkspaceId) (state : WmWorkspaceState) : Prop where
  placed : Placed configured state
  focus : FocusShown state

section Queries

variable {state state' : WmWorkspaceState} {configured : List WorkspaceId} {output : OutputId}
  {workspace : WorkspaceId} {surface : SurfaceId}

theorem shown_eq_some :
    state.shown output = some workspace ↔
      ∃ a, state.outputs[output]? = some a ∧ a.workspace = workspace := by
  simp [shown]

theorem shown_of_outputForWorkspace (h : state.outputForWorkspace workspace = some output) :
    state.shown output = some workspace := by
  obtain ⟨⟨o, a⟩, hm, hs⟩ := List.exists_of_findSome?_eq_some h
  have ho := ExtTreeMap.mem_toList_iff_getElem?_eq_some.mp hm
  simp only [Option.ite_none_right_eq_some, Option.some.injEq] at hs
  obtain ⟨hw, rfl⟩ := hs
  exact shown_eq_some.mpr ⟨a, ho, hw⟩

theorem not_shown_of_outputForWorkspace (h : state.outputForWorkspace workspace = none)
    (output : OutputId) : state.shown output ≠ some workspace := by
  intro hs
  obtain ⟨a, ho, hw⟩ := shown_eq_some.mp hs
  have hnone := List.findSome?_eq_none_iff.mp h _
    (ExtTreeMap.mem_toList_iff_getElem?_eq_some.mpr ho)
  simp [hw] at hnone

theorem requireWorkspace_eq_ok :
    state.requireWorkspace workspace = .ok () ↔ workspace ∈ state.workspaces := by
  simp [requireWorkspace]

/-- Changes of focus, and moves of surfaces between configured workspaces, keep the placement. -/
theorem Placed.of_shown (h : Placed configured state) (hw : state'.workspaces = state.workspaces)
    (ho : ∀ o, state'.shown o = state.shown o)
    (hs : ∀ (s : SurfaceId) (w : WorkspaceId), state'.surfaces[s]? = some w → w ∈ configured) :
    Placed configured state' where
  workspaces_eq := hw.trans h.workspaces_eq
  distinct o₁ o₂ w h₁ h₂ := h.distinct o₁ o₂ w (ho o₁ ▸ h₁) (ho o₂ ▸ h₂)
  shown_mem o w hs := h.shown_mem o w (ho o ▸ hs)
  assigned_mem := hs

theorem Placed.insert_surface (h : Placed configured state) (hw : workspace ∈ configured) :
    Placed configured { state with surfaces := state.surfaces.insert surface workspace } := by
  refine h.of_shown rfl (fun _ => rfl) ?_
  intro s w hs
  rw [ExtTreeMap.getElem?_insert] at hs
  split at hs
  · cases hs
    exact hw
  · exact h.assigned_mem s w hs

theorem surfaces_activateWorkspace (ha : state.activateWorkspace output workspace = .ok state') :
    state'.surfaces = state.surfaces := by
  unfold activateWorkspace at ha
  split at ha
  · cases ha
  split at ha <;> cases ha <;> rfl

/-- Activation exchanges the two workspaces wherever they are shown. -/
theorem shown_activateWorkspace (h : Placed configured state)
    (ha : state.activateWorkspace output workspace = .ok state') :
    ∃ previous, state.shown output = some previous ∧ state'.workspaces = state.workspaces ∧
      state'.surfaces = state.surfaces ∧
      ∀ o, state'.shown o = (state.shown o).map (Equiv.swap previous workspace) := by
  unfold activateWorkspace at ha
  split at ha
  · cases ha
  rename_i a hout
  have hprev : state.shown output = some a.workspace := shown_eq_some.mpr ⟨a, hout, rfl⟩
  refine ⟨a.workspace, hprev, ?_⟩
  split at ha
  · rename_i he
    cases ha
    simp [he]
  rename_i hne
  cases ha
  refine ⟨rfl, rfl, fun o => ?_⟩
  -- The output itself, the output that gives its workspace up, and all others.
  cases hother : state.outputForWorkspace workspace with
  | none =>
    by_cases ho : output = o
    · subst ho
      simp [shown, hout]
    · have hnot := not_shown_of_outputForWorkspace hother o
      cases hs : state.shown o with
      | none =>
        simpa [shown, ExtTreeMap.getElem?_modify, ho] using hs
      | some w =>
        have hw : w ≠ workspace := fun he => hnot (he ▸ hs)
        have hw' : w ≠ a.workspace := fun he => ho (h.distinct _ _ _ hprev (he ▸ hs))
        rw [Option.map_some, Equiv.swap_apply_of_ne_of_ne hw' hw]
        simpa [shown, ExtTreeMap.getElem?_modify, ho] using hs
  | some other =>
    have hgives := shown_of_outputForWorkspace hother
    have hoo : other ≠ output := by
      rintro rfl
      exact hne (Option.some.inj (hprev.symm.trans hgives))
    obtain ⟨b, hb, hbw⟩ := shown_eq_some.mp hgives
    by_cases ho : output = o
    · subst ho
      simp [shown, hout, ExtTreeMap.getElem?_modify, hoo]
    by_cases ho' : other = o
    · subst ho'
      simp [shown, hb, hbw, ExtTreeMap.getElem?_modify, ho]
    · cases hs : state.shown o with
      | none =>
        simpa [shown, ExtTreeMap.getElem?_modify, ho, ho'] using hs
      | some w =>
        have hw : w ≠ workspace := fun he => ho' (h.distinct _ _ _ hgives (he ▸ hs))
        have hw' : w ≠ a.workspace := fun he => ho (h.distinct _ _ _ hprev (he ▸ hs))
        rw [Option.map_some, Equiv.swap_apply_of_ne_of_ne hw' hw]
        simpa [shown, ExtTreeMap.getElem?_modify, ho, ho'] using hs

end Queries

section Preservation

open Fallible

variable {state state' : WmWorkspaceState} {configured : List WorkspaceId} {output : OutputId}
  {workspace : WorkspaceId} {surface : SurfaceId}

theorem Placed.activateWorkspace (h : Placed configured state) (hw : workspace ∈ configured)
    (ha : state.activateWorkspace output workspace = .ok state') : Placed configured state' := by
  obtain ⟨previous, hprev, hlist, hsurf, hshown⟩ := shown_activateWorkspace h ha
  have hmem : ∀ w ∈ configured, Equiv.swap previous workspace w ∈ configured := by
    intro w hwm
    rw [Equiv.swap_apply_def]
    split_ifs
    · exact hw
    · exact h.shown_mem output previous hprev
    · exact hwm
  refine ⟨hlist.trans h.workspaces_eq, ?_, ?_, ?_⟩
  · intro o₁ o₂ w h₁ h₂
    rw [hshown, Option.map_eq_some_iff] at h₁ h₂
    obtain ⟨w₁, h₁, rfl⟩ := h₁
    obtain ⟨w₂, h₂, he⟩ := h₂
    rw [(Equiv.swap previous workspace).injective he] at h₂
    exact h.distinct o₁ o₂ w₁ h₁ h₂
  · intro o w hs
    rw [hshown, Option.map_eq_some_iff] at hs
    obtain ⟨w', hs, rfl⟩ := hs
    exact hmem w' (h.shown_mem o w' hs)
  · rw [hsurf]
    exact h.assigned_mem

/-- All a command can do to the candidate: nothing, move a surface, or activate a workspace. -/
theorem planCommand_cases {advertised : List WmSessionAction} {plan plan' : Progress τ}
    {command : WmCommand τ} (hc : planCommand advertised plan command = .ok plan') :
    plan'.candidate = plan.candidate ∨
    (∃ surface workspace, surface ∈ plan.candidate.surfaces ∧
      workspace ∈ plan.candidate.workspaces ∧
      plan'.candidate = { plan.candidate with
        surfaces := plan.candidate.surfaces.insert surface workspace }) ∨
    (∃ output workspace, workspace ∈ plan.candidate.workspaces ∧
      plan.candidate.activateWorkspace output workspace = .ok plan'.candidate) := by
  cases command with
  | configureSurface request =>
    simp only [planCommand, bind_eq_ok] at hc
    obtain ⟨-, -, hc⟩ := hc
    split at hc <;> cases hc
    exact Or.inl rfl
  | renderSurface placement =>
    simp only [planCommand, bind_eq_ok] at hc
    obtain ⟨-, -, hc⟩ := hc
    split at hc <;> cases hc
    exact Or.inl rfl
  | focusSurface surface =>
    simp only [planCommand, bind_eq_ok] at hc
    obtain ⟨-, -, hc⟩ := hc
    split at hc <;> cases hc
    exact Or.inl rfl
  | assignWorkspace surface workspace =>
    simp only [planCommand, bind_eq_ok] at hc
    obtain ⟨_, hreq, _, hw, hc⟩ := hc
    have hmem : surface ∈ plan.candidate.surfaces := by simpa [requireSurface] using hreq
    split at hc <;> cases hc
    exact Or.inr (Or.inl ⟨surface, workspace, hmem, requireWorkspace_eq_ok.mp hw, rfl⟩)
  | activateWorkspace output workspace =>
    simp only [planCommand, bind_eq_ok] at hc
    obtain ⟨_, hw, hc⟩ := hc
    split at hc
    · cases hc
    · rw [bind_eq_ok] at hc
      obtain ⟨candidate, ha, hc⟩ := hc
      cases hc
      exact Or.inr (Or.inr ⟨output, workspace, requireWorkspace_eq_ok.mp hw, ha⟩)
  | requestSessionAction action target =>
    simp only [planCommand] at hc
    split at hc
    · cases hc
    split at hc
    · cases hc
    rw [bind_eq_ok] at hc
    obtain ⟨-, -, hc⟩ := hc
    split at hc <;> cases hc
    exact Or.inl rfl

theorem Placed.planCommand {advertised : List WmSessionAction} {plan plan' : Progress τ}
    {command : WmCommand τ} (hc : planCommand advertised plan command = .ok plan')
    (h : Placed configured plan.candidate) : Placed configured plan'.candidate := by
  rcases planCommand_cases hc with he | ⟨surface, workspace, -, hw, he⟩ | ⟨output, workspace, hw, ha⟩
  · exact he ▸ h
  · rw [he]
    exact h.insert_surface (h.workspaces_eq ▸ hw)
  · exact h.activateWorkspace (h.workspaces_eq ▸ hw) ha

theorem mem_surfaces_planCommand {advertised : List WmSessionAction} {plan plan' : Progress τ}
    {command : WmCommand τ} (hc : planCommand advertised plan command = .ok plan')
    (surface : SurfaceId) :
    surface ∈ plan'.candidate.surfaces ↔ surface ∈ plan.candidate.surfaces := by
  rcases planCommand_cases hc with he | ⟨assigned, workspace, hm, -, he⟩ | ⟨output, workspace, -, ha⟩
  · rw [he]
  · rw [he, ExtTreeMap.mem_insert, LawfulEqCmp.compare_eq_iff_eq]
    exact or_iff_right_of_imp fun heq => heq ▸ hm
  · rw [surfaces_activateWorkspace ha]

theorem Placed.focusOutput {focus : Option SurfaceId} (h : Placed configured state)
    (hf : state.focusOutput focus = .ok state') : Placed configured state' := by
  cases focus with
  | none =>
    cases hf
    exact h
  | some surface =>
    simp only [WmWorkspaceState.focusOutput] at hf
    split at hf
    · cases hf
    split at hf <;> cases hf
    refine h.of_shown rfl (fun o => ?_) h.assigned_mem
    simp only [shown, ExtTreeMap.getElem?_modify]
    split
    · rename_i output he
      rw [LawfulEqOrd.eq_of_compare he, Option.map_map]
      rfl
    · rfl

/-- The repair after a response makes every focus a shown one, whatever it was before. -/
theorem Placed.clearHiddenFocus (h : Placed configured state) :
    Consistent configured state.clearHiddenFocus := by
  constructor
  · refine h.of_shown rfl (fun o => ?_) h.assigned_mem
    simp only [shown, WmWorkspaceState.clearHiddenFocus, ExtTreeMap.getElem?_map, Option.map_map]
    refine congrArg (fun f => Option.map f state.outputs[o]?) (funext fun a => ?_)
    simp only [Function.comp_apply]
    split <;> rfl
  · intro o a s ho hf
    simp only [WmWorkspaceState.clearHiddenFocus, ExtTreeMap.getElem?_map,
      Option.map_eq_some_iff] at ho
    obtain ⟨b, -, rfl⟩ := ho
    split at hf
    · cases hf
    · rename_i hany
      rw [if_neg hany]
      show state.surfaces[s]? = some b.workspace
      simpa [hf] using hany

theorem Placed.planResponse {response : WmResponsePacket τ} {advertised : List WmSessionAction}
    {plan : WmPolicyPlan τ} (h : Placed configured state)
    (hp : state.planResponse response advertised = .ok plan) :
    Consistent configured plan.candidate := by
  simp only [WmWorkspaceState.planResponse, bind_eq_ok, pure_eq_ok] at hp
  obtain ⟨progress, hfold, focused, hf, rfl⟩ := hp
  have hplaced : Placed configured progress.candidate :=
    foldlM_invariant (P := fun plan : Progress τ => Placed configured plan.candidate)
      (fun _ _ _ hc hp => hp.planCommand hc) hfold h
  exact (hplaced.focusOutput hf).clearHiddenFocus

/-- A plan moves surfaces between workspaces; it registers and forgets none. -/
theorem mem_surfaces_planResponse {response : WmResponsePacket τ}
    {advertised : List WmSessionAction} {plan : WmPolicyPlan τ}
    (hp : state.planResponse response advertised = .ok plan) (surface : SurfaceId) :
    surface ∈ plan.candidate.surfaces ↔ surface ∈ state.surfaces := by
  simp only [WmWorkspaceState.planResponse, bind_eq_ok, pure_eq_ok] at hp
  obtain ⟨progress, hfold, focused, hf, rfl⟩ := hp
  have hfocused : focused.surfaces = progress.candidate.surfaces := by
    cases hfocus : progress.focus with
    | none =>
      rw [hfocus] at hf
      cases hf
      rfl
    | some s =>
      simp only [hfocus, WmWorkspaceState.focusOutput] at hf
      split at hf
      · cases hf
      split at hf <;> cases hf
      rfl
  have hcandidate : surface ∈ progress.candidate.surfaces ↔ surface ∈ state.surfaces := by
    refine foldlM_invariant (P := fun plan : Progress τ =>
      surface ∈ plan.candidate.surfaces ↔ surface ∈ state.surfaces) ?_ hfold Iff.rfl
    intro before command after hc hbefore
    rw [← hbefore]
    exact mem_surfaces_planCommand hc surface
  rw [← hcandidate, ← hfocused]
  rfl

theorem Placed.removeSurface (h : Placed configured state) :
    Placed configured (state.removeSurface surface).2 := by
  refine h.of_shown rfl (fun o => ?_) ?_
  · simp only [shown, WmWorkspaceState.removeSurface, ExtTreeMap.getElem?_map, Option.map_map]
    refine congrArg (fun f => Option.map f state.outputs[o]?) (funext fun a => ?_)
    simp only [Function.comp_apply]
    split <;> rfl
  · intro s w hs
    simp only [WmWorkspaceState.removeSurface, ExtTreeMap.getElem?_erase,
      Option.ite_none_left_eq_some] at hs
    exact h.assigned_mem s w hs.2

theorem Consistent.removeSurface (h : Consistent configured state) :
    Consistent configured (state.removeSurface surface).2 := by
  constructor
  · exact h.placed.removeSurface
  · intro o a s ho hf
    simp only [WmWorkspaceState.removeSurface, ExtTreeMap.getElem?_map,
      Option.map_eq_some_iff] at ho
    obtain ⟨b, hb, rfl⟩ := ho
    split at hf
    · cases hf
    · rename_i hne
      have hsurf := h.focus o b s hb hf
      have hs : surface ≠ s := fun he => hne (he ▸ hf)
      simpa [WmWorkspaceState.removeSurface, ExtTreeMap.getElem?_erase, hs, hne] using hsurf

end Preservation

section New

open Fallible

variable {workspaces : List WorkspaceId} {count : ℕ}

theorem nodup_configuredWorkspaces (h : count ≤ 64) : (configuredWorkspaces count).Nodup := by
  refine List.Nodup.map_on ?_ List.nodup_range'
  intro a ha b hb he
  rw [List.mem_range'_1] at ha hb
  have hraw : UInt64.ofNat a = UInt64.ofNat b := congrArg SimpleId.raw he
  have hnat := congrArg UInt64.toNat hraw
  rw [UInt64.toNat_ofNat', UInt64.toNat_ofNat'] at hnat
  omega

/-- The outputs configured so far show the workspaces before a slot, one each, unfocused. -/
structure Filled (workspaces : List WorkspaceId) (slot : ℕ)
    (configured : ExtTreeMap OutputId WmOutputPolicyState) : Prop where
  unfocused : ∀ (o : OutputId) (a : WmOutputPolicyState), configured[o]? = some a → a.focus = none
  early : ∀ (o : OutputId) (a : WmOutputPolicyState), configured[o]? = some a →
    ∃ i < slot, workspaces[i]? = some a.workspace
  distinct : ∀ (o₁ o₂ : OutputId) (a b : WmOutputPolicyState), configured[o₁]? = some a →
    configured[o₂]? = some b → a.workspace = b.workspace → o₁ = o₂

theorem filled_empty : Filled workspaces 0 ∅ := by
  constructor <;> simp

theorem Filled.configureOutput {slot : ℕ} {entry : OutputId × Rect}
    {configured configured' : ExtTreeMap OutputId WmOutputPolicyState} (hn : workspaces.Nodup)
    (hc : configureOutput workspaces configured (entry, slot) = .ok configured')
    (h : Filled workspaces slot configured) : Filled workspaces (slot + 1) configured' := by
  simp only [WmWorkspaceState.configureOutput] at hc
  split at hc
  · cases hc
  split at hc
  · cases hc
  split at hc
  · cases hc
  rename_i workspace hslot
  split at hc
  · cases hc
  cases hc
  have hlen : slot < workspaces.length := (List.getElem?_eq_some_iff.mp hslot).1
  -- The slot of this iteration is taken by no earlier output.
  have hfresh : ∀ (o : OutputId) (a : WmOutputPolicyState), configured[o]? = some a →
      a.workspace ≠ workspace := by
    intro o a ha he
    obtain ⟨i, hi, hw⟩ := h.early o a ha
    rw [he, ← hslot] at hw
    have heq := (List.getElem?_inj (by omega) hn).mp hw
    omega
  refine ⟨?_, ?_, ?_⟩
  · intro o a ha
    rw [ExtTreeMap.getElem?_insert] at ha
    split at ha
    · cases ha
      rfl
    · exact h.unfocused o a ha
  · intro o a ha
    rw [ExtTreeMap.getElem?_insert] at ha
    split at ha
    · cases ha
      exact ⟨slot, by omega, hslot⟩
    · obtain ⟨i, hi, hw⟩ := h.early o a ha
      exact ⟨i, by omega, hw⟩
  · intro o₁ o₂ a b ha hb he
    rw [ExtTreeMap.getElem?_insert] at ha hb
    split at ha <;> split at hb
    · rename_i h₁ h₂
      exact (LawfulEqOrd.eq_of_compare h₁).symm.trans (LawfulEqOrd.eq_of_compare h₂)
    · cases ha
      exact absurd he.symm (hfresh o₂ b hb)
    · cases hb
      exact absurd he (hfresh o₁ a ha)
    · exact h.distinct o₁ o₂ a b ha hb he

theorem surfaces_new {outputs : List (OutputId × Rect)} {state : WmWorkspaceState}
    (hnew : new outputs count = .ok state) : state.surfaces = ∅ := by
  unfold new at hnew
  split at hnew
  · cases hnew
  simp only [bind_eq_ok] at hnew
  obtain ⟨configured, -, hnew⟩ := hnew
  split at hnew <;> cases hnew
  rfl

theorem consistent_new {outputs : List (OutputId × Rect)} {state : WmWorkspaceState}
    (hnew : new outputs count = .ok state) : Consistent (configuredWorkspaces count) state := by
  unfold new at hnew
  split at hnew
  · cases hnew
  rename_i hcount
  simp only [bind_eq_ok] at hnew
  obtain ⟨configured, hfold, hnew⟩ := hnew
  split at hnew
  · cases hnew
  cases hnew
  have hfilled : Filled (configuredWorkspaces count) (0 + outputs.length) configured :=
    foldlM_zipIdx_invariant
      (fun _ _ _ _ hc hf => hf.configureOutput (nodup_configuredWorkspaces (by omega)) hc)
      hfold filled_empty
  refine ⟨⟨rfl, ?_, ?_, ?_⟩, ?_⟩
  · intro o₁ o₂ w h₁ h₂
    obtain ⟨a, ha, rfl⟩ := shown_eq_some.mp h₁
    obtain ⟨b, hb, he⟩ := shown_eq_some.mp h₂
    exact hfilled.distinct o₁ o₂ a b ha hb he.symm
  · intro o w hw
    obtain ⟨a, ha, rfl⟩ := shown_eq_some.mp hw
    obtain ⟨i, -, hi⟩ := hfilled.early o a ha
    exact List.mem_of_getElem? hi
  · intro s w hs
    simp at hs
  · intro o a s ha hf
    rw [hfilled.unfocused o a ha] at hf
    cases hf

end New

/-- A call on the state; the candidate of a plan is adopted at once. -/
inductive Call (τ : Type) where
  | register (surface : SurfaceId) (workspace : WorkspaceId)
  | remove (surface : SurfaceId)
  | adopt (response : WmResponsePacket τ) (advertisedActions : List WmSessionAction)

def call (state : WmWorkspaceState) : Call τ → WmWorkspaceState
  | .register surface workspace => match state.registerSurface surface workspace with
    | .ok state' => state'
    | .error _ => state
  | .remove surface => (state.removeSurface surface).2
  | .adopt response advertised => match state.planResponse response advertised with
    | .ok plan => plan.candidate
    | .error _ => state

/-- A registration that goes through leaves no output focused on the surface while showing another
workspace. -/
def RegistersInPlace (state : WmWorkspaceState) : Call τ → Prop
  | .register surface workspace => surface.isValid = true → workspace ∈ state.workspaces →
    ∀ (o : OutputId) (a : WmOutputPolicyState), state.outputs[o]? = some a →
      a.focus = some surface → a.workspace = workspace
  | _ => True

section Calls

open Fallible

variable {state : WmWorkspaceState} {configured : List WorkspaceId}

theorem registerSurface_eq_ok {surface : SurfaceId} {workspace : WorkspaceId}
    {state' : WmWorkspaceState} :
    state.registerSurface surface workspace = .ok state' ↔
      surface.isValid = true ∧ workspace ∈ state.workspaces ∧
        state' = { state with surfaces := state.surfaces.insert surface workspace } := by
  unfold registerSurface
  split
  · rename_i hv
    simp [show surface.isValid = false by simpa using hv]
  · rename_i hv
    have hv : surface.isValid = true := by simpa using hv
    rw [bind_eq_ok]
    constructor
    · rintro ⟨_, hw, hs⟩
      exact ⟨hv, requireWorkspace_eq_ok.mp hw, (pure_eq_ok.mp hs).symm⟩
    · rintro ⟨-, hw, rfl⟩
      exact ⟨(), requireWorkspace_eq_ok.mpr hw, rfl⟩

theorem focusShown_insert_iff (h : FocusShown state) {surface : SurfaceId}
    {workspace : WorkspaceId} :
    FocusShown { state with surfaces := state.surfaces.insert surface workspace } ↔
      ∀ (o : OutputId) (a : WmOutputPolicyState), state.outputs[o]? = some a →
        a.focus = some surface → a.workspace = workspace := by
  constructor
  · intro hf o a ha hs
    have hins := hf o a surface ha hs
    simpa using hins.symm
  · intro hf o a s ha hs
    by_cases he : surface = s
    · subst he
      simp [hf o a ha hs]
    · simpa [ExtTreeMap.getElem?_insert, he] using h o a s ha hs

theorem consistent_call_iff (h : Consistent configured state) (c : Call τ) :
    Consistent configured (state.call c) ↔ state.RegistersInPlace c := by
  cases c with
  | register surface workspace =>
    simp only [call, RegistersInPlace]
    split
    · rename_i state' hok
      obtain ⟨hv, hw, rfl⟩ := registerSurface_eq_ok.mp hok
      have hplaced : Placed configured
          { state with surfaces := state.surfaces.insert surface workspace } :=
        h.placed.insert_surface (h.placed.workspaces_eq ▸ hw)
      constructor
      · intro hc _ _
        exact (focusShown_insert_iff h.focus).mp hc.focus
      · intro hr
        exact ⟨hplaced, (focusShown_insert_iff h.focus).mpr (hr hv hw)⟩
    · rename_i error herr
      refine iff_of_true h fun hv hw => ?_
      have hok := registerSurface_eq_ok.mpr ⟨hv, hw, rfl⟩
      rw [herr] at hok
      cases hok
  | remove surface => exact iff_of_true h.removeSurface trivial
  | adopt response advertised =>
    refine iff_of_true ?_ trivial
    simp only [call]
    split
    · rename_i plan hp
      exact h.placed.planResponse hp
    · exact h

/-- Along every sequence of calls on a fresh state, the outputs show distinct configured workspaces,
the surfaces live on configured ones and every focus is shown, exactly when no registration moves
a focused surface to a workspace other than the one shown around it. -/
theorem workspace_state_consistent {outputs : List (OutputId × Rect)} {count : ℕ}
    {state : WmWorkspaceState} (hnew : new outputs count = .ok state) (calls : List (Call τ)) :
    Run.Throughout call (fun _ s => Consistent (configuredWorkspaces count) s) state calls ↔
      Run.Guarded call RegistersInPlace state calls := by
  show _ ↔ Run.GuardedBy call (fun _ => RegistersInPlace) state calls
  refine Run.throughout_iff (consistent_new hnew) ?_
  intro _ c _ _ h
  exact consistent_call_iff h c

/-- The calls of a session on one output: a window is registered, focused and removed. -/
theorem workspace_state_consistent_session :
    ∃ state, new [(⟨1⟩, ⟨0, 0, 8, 8⟩)] 2 = .ok state ∧
      Run.Throughout call (fun _ s => Consistent (configuredWorkspaces 2) s) state
        ([.register ⟨0, 1⟩ ⟨1⟩, .adopt ⟨⟨1⟩, [.focusSurface ⟨0, 1⟩], 0⟩ [], .remove ⟨0, 1⟩] :
          List (Call Transform)) := by
  have hnew : ∃ state, new [(⟨1⟩, ⟨0, 0, 8, 8⟩)] 2 = .ok state ∧
      state.outputs = (∅ : ExtTreeMap OutputId WmOutputPolicyState).insert ⟨1⟩
        ⟨⟨0, 0, 8, 8⟩, ⟨1⟩, none⟩ := ⟨_, rfl, rfl⟩
  obtain ⟨state, hnew, hout⟩ := hnew
  refine ⟨state, hnew, (workspace_state_consistent hnew _).mpr ?_⟩
  refine .cons ?_ (.cons trivial (.cons trivial Run.guarded_nil))
  intro _ _ o a ha hf
  rw [hout, ExtTreeMap.getElem?_insert] at ha
  split at ha
  · cases ha
    cases hf
  · simp at ha

/-- Registering a focused window again, on a hidden workspace, leaves the focus where it was. -/
theorem registration_hides_focus :
    ∃ state, new [(⟨1⟩, ⟨0, 0, 8, 8⟩)] 2 = .ok state ∧
      ¬ Consistent (configuredWorkspaces 2) (Run.exec call state
        ([.register ⟨0, 1⟩ ⟨1⟩, .adopt ⟨⟨1⟩, [.focusSurface ⟨0, 1⟩], 0⟩ [],
          .register ⟨0, 1⟩ ⟨2⟩] : List (Call Transform))) := by
  refine ⟨_, rfl, fun h => ?_⟩
  have hfocus := h.focus ⟨1⟩ ⟨⟨0, 0, 8, 8⟩, ⟨1⟩, some ⟨0, 1⟩⟩ ⟨0, 1⟩ (by decide +kernel) rfl
  revert hfocus
  decide +kernel

end Calls

end WmWorkspaceState
end Sophia.Engine
