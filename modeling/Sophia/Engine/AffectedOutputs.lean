import Sophia.Engine.WmPlans

/-! Which outputs a plan lists as affected, and which look different once it is adopted. -/
namespace Sophia.Engine.WmWorkspaceState

open Std Sophia.Protocol Fallible

variable {τ : Type}

def visibleSurfaces (state : WmWorkspaceState) (output : OutputId) :
    Except WmPolicyError (List SurfaceId) :=
  match state.outputs[output]? with
  | none => .error .unknownOutput
  | some shown => .ok (state.surfaces.toList.filterMap fun (surface, assigned) =>
    if assigned = shown.workspace then some surface else none)

def Visible (state : WmWorkspaceState) (output : OutputId) (surface : SurfaceId) : Prop :=
  ∃ surfaces, state.visibleSurfaces output = .ok surfaces ∧ surface ∈ surfaces

/-- The focus of an output. -/
def focused (state : WmWorkspaceState) (output : OutputId) : Option SurfaceId :=
  state.outputs[output]?.bind WmOutputPolicyState.focus

/-- The output differs in the workspace shown, the focus or the surfaces visible. -/
def Changed (before after : WmWorkspaceState) (output : OutputId) : Prop :=
  before.shown output ≠ after.shown output ∨ before.focused output ≠ after.focused output ∨
    ∃ surface, ¬ (before.Visible output surface ↔ after.Visible output surface)

/-- The batch asks for no other focus on the output's workspace and moves its focus off it
neither. -/
def KeepsFocus (state : WmWorkspaceState) (commands : List (WmCommand τ))
    (output : WmOutputPolicyState) : Prop :=
  (∀ s, .focusSurface s ∈ commands → Settled state commands s output.workspace →
    output.focus = some s) ∧
  ∀ s, output.focus = some s → Settled state commands s output.workspace

/-- No surface is moved onto or off a workspace that stays on its output with the focus it has. -/
def MovesNoticed (state : WmWorkspaceState) (commands : List (WmCommand τ)) : Prop :=
  ∀ s w, .assignWorkspace s w ∈ commands → state.surfaces[s]? ≠ some w →
    ∀ (o : OutputId) (a : WmOutputPolicyState), state.outputs[o]? = some a →
      (a.workspace = w ∨ state.surfaces[s]? = some a.workspace) →
      (state.rearranged commands).shown o = some a.workspace → ¬ KeepsFocus state commands a

section Outputs

variable {state : WmWorkspaceState} {configured : List WorkspaceId}
  {advertised : List WmSessionAction} {response : WmResponsePacket τ} {plan : WmPolicyPlan τ}
  {progress : Progress τ} {commands : List (WmCommand τ)} {output : OutputId}
  {surface : SurfaceId}

theorem visible_iff :
    state.Visible output surface ↔
      ∃ w, state.shown output = some w ∧ state.surfaces[surface]? = some w := by
  unfold Visible visibleSurfaces
  cases ho : state.outputs[output]? with
  | none => simp [shown, ho]
  | some a =>
    simp only [Except.ok.injEq, exists_eq_left', List.mem_filterMap, Prod.exists,
      Option.ite_none_right_eq_some, ExtTreeMap.mem_toList_iff_getElem?_eq_some]
    constructor
    · rintro ⟨s, w, hs, rfl, he⟩
      cases he
      exact ⟨a.workspace, shown_eq_some.mpr ⟨a, ho, rfl⟩, hs⟩
    · rintro ⟨w, hw, hs⟩
      obtain ⟨b, hb, rfl⟩ := shown_eq_some.mp hw
      cases ho.symm.trans hb
      exact ⟨surface, a.workspace, hs, rfl, rfl⟩

theorem focusAfter_eq_focus_iff (h : Planned configured state commands progress)
    (a : WmOutputPolicyState) :
    progress.candidate.focusAfter progress.focus a = a.focus ↔ KeepsFocus state commands a := by
  simp only [KeepsFocus, ← h.surfaces, ← h.focus, focusAfter]
  obtain ⟨bounds, workspace, focus⟩ := a
  cases progress.focus with
  | none => cases focus <;> simp [Option.filter_some]
  | some t =>
    by_cases ht : progress.candidate.surfaces[t]? = some workspace
    · cases focus with
      | none => simp [Option.filter_some, ht]
      | some f =>
        simp only [Option.filter_some, ht, decide_true, if_true, Option.some_or,
          Option.some.injEq, forall_eq']
        constructor
        · rintro rfl
          exact ⟨fun _ => rfl, ht⟩
        · rintro ⟨he, -⟩
          exact (he trivial).symm
    · cases focus <;> simp [Option.filter_some, ht]

/-- What the candidate makes of an output of the state. -/
theorem output_of_planned (h : Planned configured state commands progress)
    (hout : ∀ (o : OutputId), plan.candidate.outputs[o]? = progress.candidate.outputs[o]?.map
      fun a => { a with focus := progress.candidate.focusAfter progress.focus a })
    {a : WmOutputPolicyState} (ha : state.outputs[output]? = some a) :
    ∃ b, plan.candidate.outputs[output]? = some b ∧
      (state.rearranged commands).shown output = some b.workspace ∧
      (b = a ↔ b.workspace = a.workspace ∧ KeepsFocus state commands a) ∧
      (b.workspace = a.workspace → b.focus = a.focus → b = a) := by
  obtain ⟨f, hf⟩ := outputs_rearranged state commands output
  rw [ha, Option.map_some] at hf
  have hb := hout output
  rw [h.outputs, hf, Option.map_some] at hb
  refine ⟨_, hb, shown_eq_some.mpr ⟨_, hf, rfl⟩, ?_, ?_⟩
  · rw [← focusAfter_eq_focus_iff h a]
    constructor
    · intro he
      have hw : f a.workspace = a.workspace := congrArg WmOutputPolicyState.workspace he
      refine ⟨hw, ?_⟩
      have hfocus := congrArg WmOutputPolicyState.focus he
      dsimp only at hfocus
      rwa [hw] at hfocus
    · rintro ⟨hw, hfocus⟩
      dsimp only at hw ⊢
      rw [hw, hfocus]
  · intro hw hfocus
    dsimp only at hw hfocus ⊢
    rw [hfocus, hw]

/-- The outputs of a plan's list are the ones whose workspace or focus differs. -/
theorem affected_iff (h : Placed configured state)
    (hp : state.planResponse response advertised = .ok plan) (o : OutputId) :
    o ∈ plan.affectedOutputs ↔
      state.shown o ≠ plan.candidate.shown o ∨ state.focused o ≠ plan.candidate.focused o := by
  obtain ⟨progress, hplanned, -, hout, -, haffected⟩ := planResponse_eq_ok h hp
  rw [haffected]
  cases ha : state.outputs[o]? with
  | none =>
    have hnone : plan.candidate.outputs[o]? = none := by
      obtain ⟨f, hf⟩ := outputs_rearranged state response.commands o
      rw [hout, hplanned.outputs, hf, ha]
      rfl
    simp [shown, focused, ha, hnone]
  | some a =>
    obtain ⟨b, hb, -, -, heq⟩ := output_of_planned hplanned hout ha
    simp only [shown, focused, ha, hb, Option.map_some, Option.bind_some, Option.some.injEq,
      exists_eq_left', ne_eq]
    constructor
    · intro hne
      by_contra hsame
      push Not at hsame
      exact hne (heq hsame.1.symm hsame.2.symm).symm
    · rintro (hw | hf) rfl
      · exact hw rfl
      · exact hf rfl

/-- With the outputs and surfaces in their places, the list is complete exactly when every move of
a surface shows in the workspace or the focus of the outputs concerned. -/
theorem affected_complete_placed (h : Placed configured state)
    (hp : state.planResponse response advertised = .ok plan) :
    (∀ o, o ∈ plan.affectedOutputs ↔ Changed state plan.candidate o) ↔
      MovesNoticed state response.commands := by
  obtain ⟨progress, hplanned, hsurf, hout, -, -⟩ := planResponse_eq_ok h hp
  constructor
  · intro hall s w hm hne o a ha hon hstays hkeeps
    obtain ⟨b, hb, hshown, hsame, -⟩ := output_of_planned hplanned hout ha
    have hw : b.workspace = a.workspace := Option.some.inj (hshown.symm.trans hstays)
    cases hsame.mpr ⟨hw, hkeeps⟩
    have hafter : plan.candidate.surfaces[s]? = some w := by
      rw [hsurf]
      exact (hplanned.surfaces s w).mpr (Or.inl hm)
    -- The surface is seen on the output on one side of the plan only.
    have hchanged : Changed state plan.candidate o := by
      refine Or.inr (Or.inr ⟨s, fun hiff => ?_⟩)
      simp only [visible_iff, shown, ha, hb, Option.map_some, Option.some.injEq,
        exists_eq_left', hafter] at hiff
      rcases hon with he | he
      · exact hne (he ▸ hiff.mpr he.symm)
      · exact hne (he.trans (congrArg some (hiff.mp he).symm))
    have hlisted := (affected_iff h hp o).mp ((hall o).mpr hchanged)
    simp [shown, focused, ha, hb] at hlisted
  · intro hnoticed o
    rw [affected_iff h hp]
    constructor
    · exact fun hd => hd.elim Or.inl fun hf => Or.inr (Or.inl hf)
    rintro (hs | hf | ⟨s, hs⟩)
    · exact Or.inl hs
    · exact Or.inr hf
    by_contra hsame
    push Not at hsame
    obtain ⟨hshown, hfocus⟩ := hsame
    rw [visible_iff, visible_iff, ← hshown] at hs
    cases ha : state.outputs[o]? with
    | none => simp [shown, ha] at hs
    | some a =>
      obtain ⟨b, hb, hstays, hiff, heq⟩ := output_of_planned hplanned hout ha
      simp only [shown, focused, ha, hb, Option.map_some, Option.bind_some,
        Option.some.injEq] at hshown hfocus
      cases heq hshown.symm hfocus.symm
      simp only [shown, ha, Option.map_some, Option.some.injEq, exists_eq_left', hsurf,
        hplanned.surfaces] at hs
      -- Only a surface of the batch can differ.
      have hmoved : ∃ w, .assignWorkspace s w ∈ response.commands := by
        by_contra hnone
        push Not at hnone
        exact hs (by simp [Settled, hnone])
      obtain ⟨w, hm⟩ := hmoved
      have hsettled : ∀ v, Settled state response.commands s v ↔ w = v := by
        intro v
        rw [← hplanned.surfaces, (hplanned.surfaces s w).mpr (Or.inl hm), Option.some.injEq]
      rw [hsettled] at hs
      refine hnoticed s w hm ?_ o a ha ?_ hstays (hiff.mp rfl).2
      · intro he
        rw [he, Option.some.injEq] at hs
        exact hs Iff.rfl
      · by_contra hon
        push Not at hon
        exact hs (iff_of_false hon.2 fun he => hon.1 he.symm)

end Outputs

section Runs

variable {state : WmWorkspaceState} {configured : List WorkspaceId}

theorem Placed.call (h : Placed configured state) (c : Call τ) :
    Placed configured (state.call c) := by
  cases c with
  | register surface workspace =>
    simp only [WmWorkspaceState.call]
    split
    · rename_i state' hok
      obtain ⟨-, hw, rfl⟩ := registerSurface_eq_ok.mp hok
      exact h.insert_surface (h.workspaces_eq ▸ hw)
    · exact h
  | remove surface => exact h.removeSurface
  | adopt response advertised =>
    simp only [WmWorkspaceState.call]
    split
    · rename_i plan hp
      exact (h.planResponse hp).placed
    · exact h

theorem placed_exec (h : Placed configured state) (calls : List (Call τ)) :
    Placed configured (Run.exec call state calls) := by
  induction calls generalizing state with
  | nil => exact h
  | cons c calls ih => exact ih (h.call c)

/-- In every state the calls lead to, the affected outputs of an accepted plan are those that look
different in its candidate, exactly when every move of a surface shows in the workspace or the
focus of the outputs concerned. -/
theorem affected_outputs_complete_iff {outputs : List (OutputId × Rect)} {count : ℕ}
    {initial : WmWorkspaceState} (hnew : new outputs count = .ok initial) (calls : List (Call τ))
    {response : WmResponsePacket τ} {advertised : List WmSessionAction} {plan : WmPolicyPlan τ}
    (hp : (Run.exec call initial calls).planResponse response advertised = .ok plan) :
    (∀ o, o ∈ plan.affectedOutputs ↔
      Changed (Run.exec call initial calls) plan.candidate o) ↔
      MovesNoticed (Run.exec call initial calls) response.commands :=
  affected_complete_placed (placed_exec (consistent_new hnew).placed calls) hp

/-- An output shows another workspace and is listed. -/
theorem affected_outputs_complete_activation :
    ∃ initial, new [(⟨1⟩, ⟨0, 0, 8, 8⟩)] 2 = .ok initial ∧
      ∃ plan : WmPolicyPlan Transform,
        (Run.exec call initial ([] : List (Call Transform))).planResponse
          ⟨⟨2⟩, [.activateWorkspace ⟨1⟩ ⟨2⟩], 0⟩ [] = .ok plan ∧
        ∀ o, o ∈ plan.affectedOutputs ↔
          Changed (Run.exec call initial ([] : List (Call Transform))) plan.candidate o := by
  obtain ⟨initial, hnew, hplan⟩ : ∃ initial, new [(⟨1⟩, ⟨0, 0, 8, 8⟩)] 2 = .ok initial ∧
      ∃ plan : WmPolicyPlan Transform,
        (Run.exec call initial ([] : List (Call Transform))).planResponse
          ⟨⟨2⟩, [.activateWorkspace ⟨1⟩ ⟨2⟩], 0⟩ [] = .ok plan := ⟨_, rfl, _, rfl⟩
  obtain ⟨plan, hp⟩ := hplan
  refine ⟨initial, hnew, plan, hp, (affected_outputs_complete_iff hnew [] hp).mpr ?_⟩
  simp [MovesNoticed]

/-- A window that has no focus is moved to a hidden workspace: its output is not listed. -/
theorem move_not_listed :
    ∃ initial, new [(⟨1⟩, ⟨0, 0, 8, 8⟩)] 2 = .ok initial ∧
      ∃ plan : WmPolicyPlan Transform, (Run.exec call initial
          [(.register ⟨0, 1⟩ ⟨1⟩ : Call Transform)]).planResponse
            ⟨⟨2⟩, [.assignWorkspace ⟨0, 1⟩ ⟨2⟩], 0⟩ [] = .ok plan ∧
        ⟨1⟩ ∉ plan.affectedOutputs ∧ Changed (Run.exec call initial
          [(.register ⟨0, 1⟩ ⟨1⟩ : Call Transform)]) plan.candidate ⟨1⟩ := by
  refine ⟨_, rfl, _, rfl, by decide +kernel, Or.inr (Or.inr ⟨⟨0, 1⟩, ?_⟩)⟩
  intro hiff
  rw [visible_iff, visible_iff] at hiff
  obtain ⟨w, hw, hs⟩ := hiff.mp ⟨⟨1⟩, by decide +kernel, by decide +kernel⟩
  have hshown : some w = some ⟨1⟩ := hw.symm.trans (by decide +kernel)
  have hsurface : some w = some ⟨2⟩ := hs.symm.trans (by decide +kernel)
  cases hshown.symm.trans hsurface

end Runs

end Sophia.Engine.WmWorkspaceState
