import Sophia.Engine.WmPolicy

/-! What an accepted plan does with the commands of its response. -/
namespace Sophia.Engine.WmWorkspaceState

open Std Sophia.Protocol Fallible

variable {τ : Type}

/-- The activations of a batch, one after another. -/
def applyActivation (state : WmWorkspaceState) : WmCommand τ → WmWorkspaceState
  | .activateWorkspace output workspace => match state.activateWorkspace output workspace with
    | .ok state' => state'
    | .error _ => state
  | _ => state

/-- What the outputs look like once the batch's activations are made. -/
def rearranged (state : WmWorkspaceState) (commands : List (WmCommand τ)) : WmWorkspaceState :=
  commands.foldl applyActivation state

/-- The batch leaves the surface on the workspace. -/
def Settled (state : WmWorkspaceState) (commands : List (WmCommand τ)) (surface : SurfaceId)
    (workspace : WorkspaceId) : Prop :=
  .assignWorkspace surface workspace ∈ commands ∨
    (∀ w, .assignWorkspace surface w ∉ commands) ∧ state.surfaces[surface]? = some workspace

/-- Another output has asked for the workspace shown here, and what is shown instead was shown on
an output of the batch. -/
def Displaced (state : WmWorkspaceState) (commands : List (WmCommand τ)) (output : OutputId)
    (shows : Option WorkspaceId) : Prop :=
  (∃ o w, .activateWorkspace o w ∈ commands ∧ state.shown output = some w) ∧
    ∃ o w, .activateWorkspace o w ∈ commands ∧ shows = state.shown o

/-- A candidate that does what the batch asks for, and nothing else to the workspaces. -/
structure Honours (state : WmWorkspaceState) (commands : List (WmCommand τ))
    (candidate : WmWorkspaceState) : Prop where
  assigned : ∀ s w, .assignWorkspace s w ∈ commands → candidate.surfaces[s]? = some w
  activated : ∀ o w, .activateWorkspace o w ∈ commands → candidate.shown o = some w
  focused : ∀ s, .focusSurface s ∈ commands → ∃ w, candidate.surfaces[s]? = some w ∧
    (∃ o, candidate.shown o = some w) ∧ ∀ (o : OutputId) (a : WmOutputPolicyState),
      candidate.outputs[o]? = some a → a.workspace = w → a.focus = some s
  otherSurfaces : ∀ s, (∀ w, .assignWorkspace s w ∉ commands) →
    candidate.surfaces[s]? = state.surfaces[s]?
  otherOutputs : ∀ o, (∀ w, .activateWorkspace o w ∉ commands) →
    candidate.shown o = state.shown o ∨ Displaced state commands o (candidate.shown o)

/-- No two outputs ask for the same workspace. -/
def WorkspacesDistinct (commands : List (WmCommand τ)) : Prop :=
  ∀ o₁ o₂ w, .activateWorkspace o₁ w ∈ commands → .activateWorkspace o₂ w ∈ commands → o₁ = o₂

/-- A command that moves no surface, no workspace and no focus. -/
def Neutral (command : WmCommand τ) : Prop :=
  (∀ s w, command ≠ .assignWorkspace s w) ∧ (∀ o w, command ≠ .activateWorkspace o w) ∧
    ∀ s, command ≠ .focusSurface s

/-- All an accepted command does to what the plan has collected for the workspaces. -/
inductive Effect (plan plan' : Progress τ) : WmCommand τ → Prop
  | neutral {command : WmCommand τ} (hn : Neutral command)
      (hcandidate : plan'.candidate = plan.candidate) (hassigned : plan'.assigned = plan.assigned)
      (hactivated : plan'.activated = plan.activated) (hfocus : plan'.focus = plan.focus) :
      Effect plan plan' command
  | assign {surface : SurfaceId} {workspace : WorkspaceId}
      (hw : workspace ∈ plan.candidate.workspaces) (hfirst : surface ∉ plan.assigned)
      (he : plan' = { plan with
        assigned := surface :: plan.assigned
        candidate := { plan.candidate with
          surfaces := plan.candidate.surfaces.insert surface workspace } }) :
      Effect plan plan' (.assignWorkspace surface workspace)
  | activate {output : OutputId} {workspace : WorkspaceId} {candidate : WmWorkspaceState}
      (hw : workspace ∈ plan.candidate.workspaces) (hfirst : output ∉ plan.activated)
      (ha : plan.candidate.activateWorkspace output workspace = .ok candidate)
      (he : plan' = { plan with activated := output :: plan.activated, candidate }) :
      Effect plan plan' (.activateWorkspace output workspace)
  | focus {surface : SurfaceId} (hfirst : plan.focus = none)
      (he : plan' = { plan with focus := some surface }) :
      Effect plan plan' (.focusSurface surface)

section Commands

variable {state state' : WmWorkspaceState} {configured : List WorkspaceId}
  {advertised : List WmSessionAction} {plan plan' : Progress τ} {command : WmCommand τ}
  {commands : List (WmCommand τ)}

theorem planCommand_effect (hc : planCommand advertised plan command = .ok plan') :
    Effect plan plan' command := by
  cases command with
  | configureSurface request =>
    simp only [planCommand, bind_eq_ok] at hc
    obtain ⟨-, -, hc⟩ := hc
    split at hc <;> cases hc
    exact .neutral (by simp [Neutral]) rfl rfl rfl rfl
  | renderSurface placement =>
    simp only [planCommand, bind_eq_ok] at hc
    obtain ⟨-, -, hc⟩ := hc
    split at hc <;> cases hc
    exact .neutral (by simp [Neutral]) rfl rfl rfl rfl
  | focusSurface surface =>
    simp only [planCommand, bind_eq_ok] at hc
    obtain ⟨-, -, hc⟩ := hc
    split at hc
    · cases hc
    · rename_i hnone
      cases hc
      exact .focus (by simpa using hnone) rfl
  | assignWorkspace surface workspace =>
    simp only [planCommand, bind_eq_ok] at hc
    obtain ⟨_, -, _, hw, hc⟩ := hc
    split at hc
    · cases hc
    · rename_i hfirst
      cases hc
      exact .assign (requireWorkspace_eq_ok.mp hw) hfirst rfl
  | activateWorkspace output workspace =>
    simp only [planCommand, bind_eq_ok] at hc
    obtain ⟨_, hw, hc⟩ := hc
    split at hc
    · cases hc
    · rename_i hfirst
      rw [bind_eq_ok] at hc
      obtain ⟨candidate, ha, hc⟩ := hc
      cases hc
      exact .activate (requireWorkspace_eq_ok.mp hw) hfirst ha rfl
  | requestSessionAction action target =>
    simp only [planCommand] at hc
    split at hc
    · cases hc
    split at hc
    · cases hc
    rw [bind_eq_ok] at hc
    obtain ⟨-, -, hc⟩ := hc
    split at hc <;> cases hc
    exact .neutral (by simp [Neutral]) rfl rfl rfl rfl

/-- An activation looks at the outputs only. -/
theorem activateWorkspace_congr {other candidate : WmWorkspaceState} {output : OutputId}
    {workspace : WorkspaceId} (ho : state.outputs = other.outputs)
    (ha : state.activateWorkspace output workspace = .ok candidate) :
    candidate.outputs = (other.applyActivation
      (.activateWorkspace output workspace : WmCommand τ)).outputs := by
  obtain ⟨workspaces, outputs, surfaces⟩ := state
  obtain ⟨workspaces', outputs', surfaces'⟩ := other
  cases ho
  simp only [applyActivation, activateWorkspace, outputForWorkspace] at ha ⊢
  cases houtput : outputs[output]? with
  | none =>
    rw [houtput] at ha
    cases ha
  | some a =>
    rw [houtput] at ha
    dsimp only at ha ⊢
    by_cases he : a.workspace = workspace
    · rw [if_pos he] at ha ⊢
      cases ha
      rfl
    · rw [if_neg he] at ha ⊢
      cases ha
      rfl

/-- An activation changes nothing of an output but the workspace. -/
theorem outputs_activateWorkspace {output : OutputId} {workspace : WorkspaceId}
    (ha : state.activateWorkspace output workspace = .ok state') (o : OutputId) :
    ∃ f : WorkspaceId → WorkspaceId, state'.outputs[o]? =
      state.outputs[o]?.map fun a => { a with workspace := f a.workspace } := by
  unfold activateWorkspace at ha
  split at ha
  · cases ha
  rename_i a hout
  split at ha
  · cases ha
    exact ⟨id, by simp⟩
  cases ha
  cases state.outputForWorkspace workspace with
  | none =>
    by_cases ho : output = o
    · exact ⟨fun _ => workspace, by simp [ho]⟩
    · exact ⟨id, by simp [ExtTreeMap.getElem?_modify, ho]⟩
  | some other =>
    by_cases ho : output = o
    · refine ⟨fun _ => workspace, ?_⟩
      subst ho
      by_cases hoo : other = output
      · simp [hoo, hout]
      · simp [ExtTreeMap.getElem?_modify, hoo, hout]
    · by_cases ho' : other = o
      · exact ⟨fun _ => a.workspace, by simp [ExtTreeMap.getElem?_modify, ho, ho']⟩
      · exact ⟨id, by simp [ExtTreeMap.getElem?_modify, ho, ho']⟩

theorem rearranged_append_singleton :
    state.rearranged (commands ++ [command]) =
      (state.rearranged commands).applyActivation command := by
  simp [rearranged]

theorem outputs_rearranged (state : WmWorkspaceState) (commands : List (WmCommand τ)) (o : OutputId) :
    ∃ f : WorkspaceId → WorkspaceId, (state.rearranged commands).outputs[o]? =
      state.outputs[o]?.map fun a => { a with workspace := f a.workspace } := by
  induction commands using List.reverseRecOn with
  | nil => exact ⟨id, by simp [rearranged]⟩
  | append_singleton commands command ih =>
    obtain ⟨f, hf⟩ := ih
    rw [rearranged_append_singleton]
    cases command with
    | activateWorkspace output workspace =>
      simp only [applyActivation]
      split
      · rename_i next ha
        obtain ⟨g, hg⟩ := outputs_activateWorkspace ha o
        refine ⟨g ∘ f, ?_⟩
        rw [hg, hf, Option.map_map]
        rfl
      · exact ⟨f, hf⟩
    | _ => exact ⟨f, hf⟩

end Commands

/-- What the plan has collected once the commands are read. -/
structure Planned (configured : List WorkspaceId) (state : WmWorkspaceState)
    (commands : List (WmCommand τ)) (plan : Progress τ) : Prop where
  placed : Placed configured plan.candidate
  assigned : ∀ s, s ∈ plan.assigned ↔ ∃ w, .assignWorkspace s w ∈ commands
  activated : ∀ o, o ∈ plan.activated ↔ ∃ w, .activateWorkspace o w ∈ commands
  focus : ∀ s, plan.focus = some s ↔ .focusSurface s ∈ commands
  surfaces : ∀ (s : SurfaceId) (w : WorkspaceId),
    plan.candidate.surfaces[s]? = some w ↔ Settled state commands s w
  outputs : plan.candidate.outputs = (state.rearranged commands).outputs
  honoured : WorkspacesDistinct commands →
    ∀ o w, .activateWorkspace o w ∈ commands → plan.candidate.shown o = some w
  others : ∀ o, o ∉ plan.activated → plan.candidate.shown o = state.shown o ∨
    Displaced state commands o (plan.candidate.shown o)

section Batches

variable {state : WmWorkspaceState} {configured : List WorkspaceId}
  {advertised : List WmSessionAction} {plan plan' : Progress τ} {command : WmCommand τ}
  {commands : List (WmCommand τ)}

theorem Displaced.append {output : OutputId} {shows : Option WorkspaceId}
    (h : Displaced state commands output shows) (rest : List (WmCommand τ)) :
    Displaced state (commands ++ rest) output shows := by
  obtain ⟨⟨o, w, ho, hw⟩, o', w', ho', hs⟩ := h
  exact ⟨⟨o, w, List.mem_append_left rest ho, hw⟩, o', w', List.mem_append_left rest ho', hs⟩

theorem WorkspacesDistinct.left {rest : List (WmCommand τ)}
    (h : WorkspacesDistinct (commands ++ rest)) : WorkspacesDistinct commands := by
  intro o₁ o₂ w h₁ h₂
  exact h o₁ o₂ w (List.mem_append_left rest h₁) (List.mem_append_left rest h₂)

theorem planned_nil (h : Placed configured state) :
    Planned configured state [] ({ candidate := state } : Progress τ) := by
  constructor <;> simp [h, Settled, rearranged, WorkspacesDistinct]

theorem Planned.neutral (h : Planned configured state commands plan) (hn : Neutral command)
    (hcandidate : plan'.candidate = plan.candidate) (hassigned : plan'.assigned = plan.assigned)
    (hactivated : plan'.activated = plan.activated) (hfocus : plan'.focus = plan.focus) :
    Planned configured state (commands ++ [command]) plan' := by
  obtain ⟨hassign, hactivate, hfocused⟩ := hn
  have hs : ∀ s w, .assignWorkspace s w ∈ commands ++ [command] ↔
      .assignWorkspace s w ∈ commands := by
    intro s w
    simp [(hassign s w).symm]
  have ho : ∀ o w, .activateWorkspace o w ∈ commands ++ [command] ↔
      .activateWorkspace o w ∈ commands := by
    intro o w
    simp [(hactivate o w).symm]
  have hf : ∀ s, .focusSurface s ∈ commands ++ [command] ↔ .focusSurface s ∈ commands := by
    intro s
    simp [(hfocused s).symm]
  constructor
  · exact hcandidate ▸ h.placed
  · simpa only [hassigned, hs] using h.assigned
  · simpa only [hactivated, ho] using h.activated
  · simpa only [hfocus, hf] using h.focus
  · simpa only [hcandidate, Settled, hs] using h.surfaces
  · rw [hcandidate, h.outputs, rearranged_append_singleton]
    cases command with
    | activateWorkspace output workspace => exact absurd rfl (hactivate output workspace)
    | _ => rfl
  · intro hd o w hc
    rw [hcandidate]
    exact h.honoured hd.left o w ((ho o w).mp hc)
  · intro o hno
    rw [hactivated] at hno
    rw [hcandidate]
    exact (h.others o hno).imp_right fun hd => hd.append [command]

theorem Planned.assign {surface : SurfaceId} {workspace : WorkspaceId}
    (h : Planned configured state commands plan) (hw : workspace ∈ plan.candidate.workspaces)
    (hfirst : surface ∉ plan.assigned) :
    Planned configured state (commands ++ [.assignWorkspace surface workspace])
      { plan with
        assigned := surface :: plan.assigned
        candidate := { plan.candidate with
          surfaces := plan.candidate.surfaces.insert surface workspace } } := by
  have hnone : ∀ w, .assignWorkspace surface w ∉ commands := by
    intro w hm
    exact hfirst ((h.assigned surface).mpr ⟨w, hm⟩)
  constructor
  · exact h.placed.insert_surface (h.placed.workspaces_eq ▸ hw)
  · intro s
    rw [List.mem_cons, h.assigned]
    simp only [List.mem_append, List.mem_singleton, WmCommand.assignWorkspace.injEq]
    constructor
    · rintro (rfl | ⟨w, hm⟩)
      · exact ⟨workspace, Or.inr ⟨rfl, rfl⟩⟩
      · exact ⟨w, Or.inl hm⟩
    · rintro ⟨w, hm | ⟨rfl, -⟩⟩
      · exact Or.inr ⟨w, hm⟩
      · exact Or.inl rfl
  · simpa using h.activated
  · simpa using h.focus
  · intro s w
    by_cases he : surface = s
    · subst he
      simp [Settled, hnone, eq_comm]
    · have hne : s ≠ surface := Ne.symm he
      have hold := h.surfaces s w
      simpa [ExtTreeMap.getElem?_insert, he, hne, Settled] using hold
  · rw [rearranged_append_singleton]
    exact h.outputs
  · intro hd o w hm
    exact h.honoured hd.left o w (by simpa using hm)
  · intro o hno
    exact (h.others o hno).imp_right fun hd => hd.append _

theorem Planned.focuses {surface : SurfaceId} (h : Planned configured state commands plan)
    (hfirst : plan.focus = none) :
    Planned configured state (commands ++ [.focusSurface surface])
      { plan with focus := some surface } := by
  have hnone : ∀ s, .focusSurface s ∉ commands := by
    intro s hm
    rw [← h.focus, hfirst] at hm
    cases hm
  constructor
  · exact h.placed
  · simpa using h.assigned
  · simpa using h.activated
  · intro s
    simp [hnone, eq_comm]
  · simpa [Settled] using h.surfaces
  · rw [rearranged_append_singleton]
    exact h.outputs
  · intro hd o w hm
    exact h.honoured hd.left o w (by simpa using hm)
  · intro o hno
    exact (h.others o hno).imp_right fun hd => hd.append _

theorem Planned.activate {output : OutputId} {workspace : WorkspaceId}
    {candidate : WmWorkspaceState} (h : Planned configured state commands plan)
    (hw : workspace ∈ plan.candidate.workspaces) (hfirst : output ∉ plan.activated)
    (ha : plan.candidate.activateWorkspace output workspace = .ok candidate) :
    Planned configured state (commands ++ [.activateWorkspace output workspace])
      { plan with activated := output :: plan.activated, candidate } := by
  obtain ⟨previous, hprev, -, hsurf, hshown⟩ := shown_activateWorkspace h.placed ha
  have hnone : ∀ w, .activateWorkspace output w ∉ commands := by
    intro w hm
    exact hfirst ((h.activated output).mpr ⟨w, hm⟩)
  have hmem : .activateWorkspace output workspace ∈
      commands ++ [(.activateWorkspace output workspace : WmCommand τ)] := by simp
  -- Any other output loses its workspace only when that is the one asked for.
  have hother : ∀ o, o ≠ output → plan.candidate.shown o ≠ some workspace →
      candidate.shown o = plan.candidate.shown o := by
    intro o hne hnw
    rw [hshown]
    cases hs : plan.candidate.shown o with
    | none => rfl
    | some w =>
      have hp : w ≠ previous := fun he => hne (h.placed.distinct _ _ _ (he ▸ hs) hprev)
      have hv : w ≠ workspace := fun he => hnw (he ▸ hs)
      rw [Option.map_some, Equiv.swap_apply_of_ne_of_ne hp hv]
  constructor
  · exact h.placed.activateWorkspace (h.placed.workspaces_eq ▸ hw) ha
  · simpa using h.assigned
  · intro o
    rw [List.mem_cons, h.activated]
    simp only [List.mem_append, List.mem_singleton, WmCommand.activateWorkspace.injEq]
    constructor
    · rintro (rfl | ⟨w, hm⟩)
      · exact ⟨workspace, Or.inr ⟨rfl, rfl⟩⟩
      · exact ⟨w, Or.inl hm⟩
    · rintro ⟨w, hm | ⟨rfl, -⟩⟩
      · exact Or.inr ⟨w, hm⟩
      · exact Or.inl rfl
  · simpa using h.focus
  · dsimp only
    rw [hsurf]
    simpa [Settled] using h.surfaces
  · rw [rearranged_append_singleton]
    exact activateWorkspace_congr h.outputs ha
  · intro hd o w hm
    rcases List.mem_append.mp hm with hm' | hm'
    · have hold := h.honoured hd.left o w hm'
      have hne : o ≠ output := by
        rintro rfl
        exact hnone w hm'
      refine (hother o hne ?_).trans hold
      intro he
      rw [hold] at he
      cases he
      exact hne (hd o output workspace hm hmem)
    · simp only [List.mem_singleton, WmCommand.activateWorkspace.injEq] at hm'
      obtain ⟨rfl, rfl⟩ := hm'
      simp [hshown, hprev]
  · intro o hno
    obtain ⟨hne, hno⟩ : o ≠ output ∧ o ∉ plan.activated := by simpa using hno
    have hold := h.others o hno
    by_cases hs : plan.candidate.shown o = some workspace
    · -- It is shown what the output gives up.
      right
      have hgets : candidate.shown o = some previous := by simp [hshown, hs]
      constructor
      · rcases hold with he | hd
        · exact ⟨output, workspace, hmem, he ▸ hs⟩
        · exact (hd.append _).1
      · dsimp only
        rw [hgets, ← hprev]
        rcases h.others output hfirst with he | hd
        · exact ⟨output, workspace, hmem, he⟩
        · exact (hd.append _).2
    · dsimp only
      rw [hother o hne hs]
      exact hold.imp_right fun hd => hd.append _

theorem Planned.planCommand (h : Planned configured state commands plan)
    (hc : planCommand advertised plan command = .ok plan') :
    Planned configured state (commands ++ [command]) plan' := by
  cases planCommand_effect hc with
  | neutral hn hcandidate hassigned hactivated hfocus =>
    exact h.neutral hn hcandidate hassigned hactivated hfocus
  | assign hw hfirst he =>
    subst he
    exact h.assign hw hfirst
  | activate hw hfirst ha he =>
    subst he
    exact h.activate hw hfirst ha
  | focus hfirst he =>
    subst he
    exact h.focuses hfirst

theorem planned_of_foldlM (h : Placed configured state)
    (hfold : commands.foldlM (planCommand advertised) { candidate := state } = .ok plan) :
    Planned configured state commands plan := by
  have hall := foldlM_history (P := fun commands plan => Planned configured state commands plan)
    (fun _ _ _ _ hc hp => hp.planCommand hc) hfold (planned_nil h)
  simpa using hall

end Batches

section Plans

variable {state candidate focused : WmWorkspaceState} {configured : List WorkspaceId}
  {advertised : List WmSessionAction} {response : WmResponsePacket τ} {plan : WmPolicyPlan τ}

/-- The focus an output ends up with: the one asked for, else its own, where it is shown. -/
def focusAfter (state : WmWorkspaceState) (focus : Option SurfaceId)
    (output : WmOutputPolicyState) : Option SurfaceId :=
  (focus.filter fun s => decide (state.surfaces[s]? = some output.workspace)).or
    (output.focus.filter fun s => decide (state.surfaces[s]? = some output.workspace))

theorem surfaces_focusOutput {focus : Option SurfaceId}
    (hf : candidate.focusOutput focus = .ok focused) : focused.surfaces = candidate.surfaces := by
  cases focus with
  | none =>
    cases hf
    rfl
  | some surface =>
    simp only [focusOutput] at hf
    split at hf
    · cases hf
    split at hf <;> cases hf
    rfl

theorem clearHiddenFocus_eq (a : WmOutputPolicyState) :
    (if a.focus.any fun s => decide (candidate.surfaces[s]? ≠ some a.workspace)
      then { a with focus := none } else a) = { a with focus := candidate.focusAfter none a } := by
  obtain ⟨bounds, workspace, focus⟩ := a
  cases focus with
  | none => rfl
  | some s =>
    by_cases hs : candidate.surfaces[s]? = some workspace
    · simp [focusAfter, Option.filter_some, hs]
    · simp [focusAfter, Option.filter_some, hs]

theorem outputs_focused {focus : Option SurfaceId} (h : Placed configured candidate)
    (hf : candidate.focusOutput focus = .ok focused) (o : OutputId) :
    focused.clearHiddenFocus.outputs[o]? =
      candidate.outputs[o]?.map fun a => { a with focus := candidate.focusAfter focus a } := by
  have hsurf := surfaces_focusOutput hf
  have hclear : focused.clearHiddenFocus.outputs[o]? =
      focused.outputs[o]?.map fun a => { a with focus := candidate.focusAfter none a } := by
    simp only [clearHiddenFocus, ExtTreeMap.getElem?_map, hsurf]
    exact congrArg (fun f => Option.map f focused.outputs[o]?) (funext clearHiddenFocus_eq)
  rw [hclear]
  cases focus with
  | none =>
    cases hf
    rfl
  | some surface =>
    simp only [focusOutput] at hf
    split at hf
    · cases hf
    rename_i workspace hsurface
    split at hf <;> cases hf
    rename_i output houtput
    obtain ⟨b, hb, hbw⟩ := shown_eq_some.mp (shown_of_outputForWorkspace houtput)
    have hsurface : candidate.surfaces[surface]? = some workspace := hsurface
    by_cases ho : output = o
    · subst ho
      simp [focusAfter, Option.filter_some, hb, hbw, hsurface]
    · cases ha : candidate.outputs[o]? with
      | none => simp [ExtTreeMap.getElem?_modify, ho, ha]
      | some a =>
        have hne : workspace ≠ a.workspace := by
          intro he
          exact ho (h.distinct _ _ _ (shown_of_outputForWorkspace houtput)
            (shown_eq_some.mpr ⟨a, ha, he.symm⟩))
        simp [ExtTreeMap.getElem?_modify, ho, ha, focusAfter, Option.filter_some, hsurface, hne]

/-- The parts of an accepted plan. -/
theorem planResponse_eq_ok (h : Placed configured state)
    (hp : state.planResponse response advertised = .ok plan) :
    ∃ progress : Progress τ, Planned configured state response.commands progress ∧
      plan.candidate.surfaces = progress.candidate.surfaces ∧
      (∀ (o : OutputId), plan.candidate.outputs[o]? = progress.candidate.outputs[o]?.map fun a =>
        { a with focus := progress.candidate.focusAfter progress.focus a }) ∧
      (∀ s, progress.focus = some s → ∃ w, progress.candidate.surfaces[s]? = some w ∧
        ∃ o, progress.candidate.shown o = some w) ∧
      ∀ o, o ∈ plan.affectedOutputs ↔
        ∃ a, plan.candidate.outputs[o]? = some a ∧ state.outputs[o]? ≠ some a := by
  simp only [planResponse, bind_eq_ok, pure_eq_ok] at hp
  obtain ⟨progress, hfold, focused, hf, rfl⟩ := hp
  have hplanned := planned_of_foldlM h hfold
  have hsurf : focused.surfaces = progress.candidate.surfaces := surfaces_focusOutput hf
  refine ⟨progress, hplanned, hsurf, outputs_focused hplanned.placed hf, ?_, ?_⟩
  · intro s hs
    simp only [hs, focusOutput] at hf
    split at hf
    · cases hf
    rename_i workspace hsurface
    split at hf <;> cases hf
    rename_i output houtput
    exact ⟨workspace, hsurface, output, shown_of_outputForWorkspace houtput⟩
  · intro o
    simp only [List.mem_filterMap, Prod.exists, Option.ite_none_right_eq_some,
      ExtTreeMap.mem_toList_iff_getElem?_eq_some]
    constructor
    · rintro ⟨o', a, ha, hne, he⟩
      cases he
      exact ⟨a, ha, hne⟩
    · rintro ⟨a, ha, hne⟩
      exact ⟨o, a, ha, hne, rfl⟩

theorem shown_of_outputs {f : WmOutputPolicyState → Option SurfaceId}
    (ho : ∀ (o : OutputId), candidate.outputs[o]? =
      state.outputs[o]?.map fun a => { a with focus := f a }) (o : OutputId) :
    candidate.shown o = state.shown o := by
  rw [shown, ho, Option.map_map]
  rfl

/-- An accepted plan honours every command of its response exactly when no two outputs ask for the
same workspace. -/
theorem plan_honours_commands_iff (h : Placed configured state)
    (hp : state.planResponse response advertised = .ok plan) :
    Honours state response.commands plan.candidate ↔ WorkspacesDistinct response.commands := by
  constructor
  · intro hh o₁ o₂ w h₁ h₂
    exact (h.planResponse hp).placed.distinct o₁ o₂ w (hh.activated o₁ w h₁) (hh.activated o₂ w h₂)
  · intro hd
    obtain ⟨progress, hplanned, hsurf, hout, hfocus, -⟩ := planResponse_eq_ok h hp
    have hshown := shown_of_outputs hout
    constructor
    · intro s w hm
      rw [hsurf]
      exact (hplanned.surfaces s w).mpr (Or.inl hm)
    · intro o w hm
      rw [hshown]
      exact hplanned.honoured hd o w hm
    · intro s hm
      have hs := (hplanned.focus s).mpr hm
      obtain ⟨w, hw, o, ho⟩ := hfocus s hs
      refine ⟨w, hsurf ▸ hw, ⟨o, (hshown o).trans ho⟩, ?_⟩
      intro o' a ha haw
      rw [hout, Option.map_eq_some_iff] at ha
      obtain ⟨b, -, rfl⟩ := ha
      have hbw : b.workspace = w := haw
      simp [focusAfter, Option.filter_some, hs, hw, hbw]
    · intro s hnone
      rw [hsurf]
      apply Option.ext
      intro w
      rw [hplanned.surfaces s w]
      simp [Settled, hnone]
    · intro o hnone
      rw [hshown]
      refine hplanned.others o fun hm => ?_
      obtain ⟨w, hw⟩ := (hplanned.activated o).mp hm
      exact hnone w hw

/-- Two outputs trade their workspaces. -/
theorem plan_honours_commands_swap :
    ∃ state, new [(⟨1⟩, ⟨0, 0, 8, 8⟩), (⟨2⟩, ⟨8, 0, 8, 8⟩)] 9 = .ok state ∧
      ∃ plan, state.planResponse (⟨⟨9⟩, [.activateWorkspace ⟨1⟩ ⟨2⟩], 300⟩ :
        WmResponsePacket Transform) [] = .ok plan ∧
      Honours state [(.activateWorkspace ⟨1⟩ ⟨2⟩ : WmCommand Transform)] plan.candidate := by
  obtain ⟨state, hnew, hplan⟩ : ∃ state,
      new [(⟨1⟩, ⟨0, 0, 8, 8⟩), (⟨2⟩, ⟨8, 0, 8, 8⟩)] 9 = .ok state ∧
        ∃ plan, state.planResponse (⟨⟨9⟩, [.activateWorkspace ⟨1⟩ ⟨2⟩], 300⟩ :
          WmResponsePacket Transform) [] = .ok plan := ⟨_, rfl, _, rfl⟩
  obtain ⟨plan, hp⟩ := hplan
  refine ⟨state, hnew, plan, hp, (plan_honours_commands_iff (consistent_new hnew).placed hp).mpr ?_⟩
  simp [WorkspacesDistinct]

/-- Two outputs ask for the workspace of the second: the first is left with its own. -/
theorem activation_undone :
    ∃ state, new [(⟨1⟩, ⟨0, 0, 8, 8⟩), (⟨2⟩, ⟨8, 0, 8, 8⟩)] 9 = .ok state ∧
      ∃ plan, state.planResponse (⟨⟨9⟩,
          [.activateWorkspace ⟨1⟩ ⟨2⟩, .activateWorkspace ⟨2⟩ ⟨2⟩], 300⟩ :
        WmResponsePacket Transform) [] = .ok plan ∧
      ¬ Honours state [(.activateWorkspace ⟨1⟩ ⟨2⟩ : WmCommand Transform),
        .activateWorkspace ⟨2⟩ ⟨2⟩] plan.candidate := by
  refine ⟨_, rfl, _, rfl, fun h => ?_⟩
  have hshown := h.activated ⟨1⟩ ⟨2⟩ (by simp)
  revert hshown
  decide +kernel

end Plans

end Sophia.Engine.WmWorkspaceState
