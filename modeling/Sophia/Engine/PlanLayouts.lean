import Sophia.Engine.WmPolicy

/-! The layout of a plan holds the sizes, the placements and the focus of its response. -/
namespace Sophia.Engine.WmWorkspaceState

open Sophia.Protocol Fallible

variable {τ : Type}

def sizeRequest : WmCommand τ → Option SurfaceSizeRequest
  | .configureSurface request => some request
  | _ => none

def placementOf : WmCommand τ → Option (SurfacePlacement τ)
  | .renderSurface placement => some placement
  | _ => none

def focusOf : WmCommand τ → Option SurfaceId
  | .focusSurface surface => some surface
  | _ => none

/-- What has been collected of the commands behind a plan. -/
structure Collects (commands : List (WmCommand τ)) (plan : Progress τ) : Prop where
  sizes : plan.requestedSizes = commands.filterMap sizeRequest
  placements : plan.renderPositions = commands.filterMap placementOf
  focus : plan.focus = commands.findSome? focusOf

variable {advertised : List WmSessionAction} {plan plan' : Progress τ} {command : WmCommand τ}
  {before : List (WmCommand τ)}

/-- A command that asks for none of the three changes none of them. -/
theorem Collects.other (h : Collects before plan) (hsize : sizeRequest command = none)
    (hplacement : placementOf command = none) (hfocus : focusOf command = none)
    (hsizes : plan'.requestedSizes = plan.requestedSizes)
    (hplacements : plan'.renderPositions = plan.renderPositions)
    (hsame : plan'.focus = plan.focus) : Collects (before ++ [command]) plan' where
  sizes := by simp [hsizes, h.sizes, hsize]
  placements := by simp [hplacements, h.placements, hplacement]
  focus := by simp [hsame, h.focus, hfocus]

theorem Collects.planCommand (hc : planCommand advertised plan command = .ok plan')
    (h : Collects before plan) : Collects (before ++ [command]) plan' := by
  cases command with
  | configureSurface request =>
    simp only [WmWorkspaceState.planCommand, bind_eq_ok] at hc
    obtain ⟨-, -, hc⟩ := hc
    split at hc <;> cases hc
    exact ⟨by simp [h.sizes, sizeRequest], by simp [h.placements, placementOf],
      by simp [h.focus, focusOf]⟩
  | renderSurface placement =>
    simp only [WmWorkspaceState.planCommand, bind_eq_ok] at hc
    obtain ⟨-, -, hc⟩ := hc
    split at hc <;> cases hc
    exact ⟨by simp [h.sizes, sizeRequest], by simp [h.placements, placementOf],
      by simp [h.focus, focusOf]⟩
  | focusSurface surface =>
    simp only [WmWorkspaceState.planCommand, bind_eq_ok] at hc
    obtain ⟨-, -, hc⟩ := hc
    split at hc
    · cases hc
    · rename_i hnone
      cases hc
      have hfirst : before.findSome? focusOf = none := by
        rw [← h.focus]
        simpa using hnone
      exact ⟨by simp [h.sizes, sizeRequest], by simp [h.placements, placementOf],
        by simp [hfirst, focusOf]⟩
  | assignWorkspace surface workspace =>
    simp only [WmWorkspaceState.planCommand, bind_eq_ok] at hc
    obtain ⟨-, -, -, -, hc⟩ := hc
    split at hc <;> cases hc
    exact h.other rfl rfl rfl rfl rfl rfl
  | activateWorkspace output workspace =>
    simp only [WmWorkspaceState.planCommand, bind_eq_ok] at hc
    obtain ⟨-, -, hc⟩ := hc
    split at hc
    · cases hc
    · rw [bind_eq_ok] at hc
      obtain ⟨candidate, -, hc⟩ := hc
      cases hc
      exact h.other rfl rfl rfl rfl rfl rfl
  | requestSessionAction action target =>
    simp only [WmWorkspaceState.planCommand] at hc
    split at hc
    · cases hc
    split at hc
    · cases hc
    rw [bind_eq_ok] at hc
    obtain ⟨-, -, hc⟩ := hc
    split at hc <;> cases hc
    exact h.other rfl rfl rfl rfl rfl rfl

/-- What an accepted response lays out. -/
theorem planResponse_layout {state : WmWorkspaceState} {response : WmResponsePacket τ}
    {plan : WmPolicyPlan τ} (h : planResponse state response advertised = .ok plan) :
    plan.layout = {
      transaction := response.transaction
      requestedSizes := response.commands.filterMap sizeRequest
      focus := response.commands.findSome? focusOf
      renderPositions := response.commands.filterMap placementOf
      timeoutMsec := response.timeoutMsec } := by
  obtain ⟨progress, hloop, h⟩ := bind_eq_ok.mp h
  obtain ⟨focused, -, h⟩ := bind_eq_ok.mp h
  cases h
  have hall : Collects ([] ++ response.commands) progress :=
    foldlM_history (fun _ _ _ _ => Collects.planCommand) hloop ⟨rfl, rfl, rfl⟩
  rw [hall.sizes, hall.placements, hall.focus]
  rfl

end Sophia.Engine.WmWorkspaceState
