import Sophia.Session.LayoutWindows
import Sophia.Session.WmSession

/-! What becomes of the workspace state when proposals commit long after they were planned. -/
namespace Sophia.Session

open Std Sophia.Protocol Sophia.Engine PersistentLiveLayout Fallible

/-- The session with the surfaces registered and not removed since. -/
structure TrackedSession where
  session : LiveSession
  registered : ExtTreeSet SurfaceId := ∅

/-- Two workspace states know the same surfaces. -/
def SameSurfaces (a b : WmWorkspaceState) : Prop := ∀ s, s ∈ a.surfaces ↔ s ∈ b.surfaces

section Requests

variable {config : SessionConfig} {layout : PersistentLiveLayout} {wm wm' : LiveWmSession}
  {proposal : LiveWmProposal} {reply resyncReply : WmReply} {surface : SurfaceId}

/-- The proposal carries a candidate for the surfaces of the state. -/
def PlannedOn (wm : LiveWmSession) (proposal : LiveWmProposal) : Prop :=
  ∃ effects, proposal.effects = some effects ∧
    SameSurfaces effects.workspaceState wm.workspaceState

theorem effects_of_proposeLayout {transaction : LayoutTransaction Transform} {bounds : Rect}
    {effects : Option LiveWmCommitEffects}
    (h : proposeLayout layout transaction bounds effects = .ok proposal) :
    proposal.effects = effects := by
  rw [proposeLayout, bind_eq_ok] at h
  obtain ⟨-, -, h⟩ := h
  simp only at h
  split at h <;> cases h
  rfl

theorem plannedOn_request (h : wm.request config layout reply = .ok proposal) :
    PlannedOn wm proposal := by
  simp only [LiveWmSession.request, bind_eq_ok] at h
  obtain ⟨response, -, h⟩ := h
  split at h
  · cases h
  rename_i plan hplan
  refine ⟨_, effects_of_proposeLayout h, ?_⟩
  exact fun s => WmWorkspaceState.mem_surfaces_planResponse hplan s

theorem workspaceState_mintTransaction {transaction : TransactionId}
    (h : wm.mintTransaction = .ok (transaction, wm')) : wm'.workspaceState = wm.workspaceState := by
  unfold LiveWmSession.mintTransaction at h
  split at h <;> cases h
  rfl

theorem requestRelayout_spec (h : wm.requestRelayout config layout reply = .ok (proposal, wm')) :
    wm'.workspaceState = wm.workspaceState ∧ PlannedOn wm' proposal := by
  simp only [LiveWmSession.requestRelayout, bind_eq_ok] at h
  obtain ⟨-, -, ⟨_, minted⟩, hmint, proposal', hreq, h⟩ := h
  cases h
  exact ⟨workspaceState_mintTransaction hmint, plannedOn_request hreq⟩

theorem requestManage_spec
    (h : wm.requestManage config surface layout reply resyncReply = .ok (proposal, wm')) :
    (∀ s, s ∈ wm'.workspaceState.surfaces ↔ surface = s ∨ s ∈ wm.workspaceState.surfaces) ∧
      PlannedOn wm' proposal := by
  unfold LiveWmSession.requestManage at h
  split at h
  · cases h
  simp only [bind_eq_ok] at h
  obtain ⟨shown, -, registered, hreg, ⟨_, minted⟩, hmint, h⟩ := h
  have hkeys : ∀ s, s ∈ minted.workspaceState.surfaces ↔
      surface = s ∨ s ∈ wm.workspaceState.surfaces := by
    intro s
    rw [workspaceState_mintTransaction hmint]
    unfold LiveWmSession.registerSurface at hreg
    split at hreg <;> cases hreg
    rename_i state hok
    obtain ⟨-, -, rfl⟩ := WmWorkspaceState.registerSurface_eq_ok.mp hok
    exact Ordered.mem_insert
  simp only at h
  split at h
  · rename_i proposal' hreq
    cases h
    exact ⟨hkeys, plannedOn_request hreq⟩
  · obtain ⟨hsame, hplan⟩ := requestRelayout_spec h
    exact ⟨fun s => hsame ▸ hkeys s, hplan⟩
  · cases h

theorem mem_surfaces_notifySurfaceRemoved
    (h : wm.notifySurfaceRemoved surface reply = .ok wm') (s : SurfaceId) :
    s ∈ wm'.workspaceState.surfaces ↔ s ∈ wm.workspaceState.surfaces ∧ s ≠ surface := by
  unfold LiveWmSession.notifySurfaceRemoved at h
  split at h
  · rename_i hnone
    cases h
    refine ⟨fun hm => ⟨hm, ?_⟩, fun hm => hm.1⟩
    rintro rfl
    rw [ExtTreeMap.mem_iff_isSome_getElem?] at hm
    simp only [WmWorkspaceState.surfaceWorkspace] at hnone
    simp [hnone] at hm
  · simp only [bind_eq_ok] at h
    obtain ⟨⟨_, minted⟩, hmint, -, -, h⟩ := h
    cases h
    simp only [WmWorkspaceState.removeSurface, ExtTreeMap.mem_erase,
      workspaceState_mintTransaction hmint]
    rw [and_comm, ne_eq, LawfulEqCmp.compare_eq_iff_eq, eq_comm]

theorem mem_surfaces_notifyRemoved {removed : List SurfaceId} {removalReply : SurfaceId → WmReply}
    (h : LiveSession.notifyRemoved wm removed removalReply = .ok wm') (s : SurfaceId) :
    s ∈ wm'.workspaceState.surfaces ↔ s ∈ wm.workspaceState.surfaces ∧ s ∉ removed := by
  induction removed generalizing wm with
  | nil =>
    cases h
    simp
  | cons surface rest ih =>
    rw [LiveSession.notifyRemoved, List.foldlM_cons, bind_eq_ok] at h
    obtain ⟨next, hnext, hrest⟩ := h
    rw [ih hrest, mem_surfaces_notifySurfaceRemoved hnext, List.mem_cons, not_or, and_assoc]

theorem pollRestart_spec {found : WmRestart} {made : Option LiveWmProposal}
    (h : wm.pollRestart config layout found = .ok (made, wm')) :
    wm'.workspaceState = wm.workspaceState ∧ ∀ proposal, made = some proposal →
      PlannedOn wm' proposal := by
  have hnone : ∀ wm proposal, (none : Option LiveWmProposal) = some proposal →
      PlannedOn wm proposal := by
    intro wm proposal he
    cases he
  unfold LiveWmSession.pollRestart at h
  split at h
  · cases h
    exact ⟨rfl, hnone _⟩
  · split at h
    · cases h
      exact ⟨rfl, hnone _⟩
    split at h <;> cases h
    exact ⟨rfl, hnone _⟩
  · split at h
    · cases h
      exact ⟨rfl, hnone _⟩
    simp only [bind_eq_ok] at h
    obtain ⟨⟨proposal, relaid⟩, hreq, h⟩ := h
    cases h
    obtain ⟨hsame, hplan⟩ := requestRelayout_spec hreq
    refine ⟨hsame, ?_⟩
    rintro _ ⟨⟩
    exact hplan

end Requests

section Layout

variable {layout layout' : PersistentLiveLayout} {known : SurfaceId → Prop}
  {proposal : LiveWmProposal} {control : Control} {now : ℕ} {result : Option LiveWmCommitResult}

/-- The candidate of a pending proposal has all the known surfaces. -/
def Covers (known : SurfaceId → Prop) (layout : PersistentLiveLayout) : Prop :=
  ∀ pending effects, layout.pending = some pending → pending.effects = some effects →
    ∀ s, known s → s ∈ effects.workspaceState.surfaces

/-- The proposal asks for a size that is neither refused nor drawn already. -/
def Waits (layout : PersistentLiveLayout) (proposal : LiveWmProposal) : Prop :=
  (layout.reduceProposal proposal).requestedSizes.toList ≠ []

theorem Covers.of_pending (h : Covers known layout) (hp : layout'.pending = layout.pending) :
    Covers known layout' := by
  intro pending effects he
  exact h pending effects (hp ▸ he)

theorem covers_of_none (hp : layout.pending = none) : Covers known layout := by
  intro pending effects he
  cases hp.symm.trans he

/-- A proposal that still has to wait for a size does not commit at once. -/
theorem stage_of_waits (hw : Waits layout proposal)
    (h : layout.stage proposal control now = .ok (result, layout')) : result = none := by
  unfold stage at h
  split at h
  · cases h
    rfl
  simp only [bind_eq_ok] at h
  obtain ⟨-, -, h⟩ := h
  split at h
  · rename_i hready
    obtain ⟨⟨surface, size⟩, hm⟩ := List.exists_mem_of_ne_nil _ hw
    have hdrawn := List.all_eq_true.mp hready _ hm
    have hreq := ExtTreeMap.mem_toList_iff_getElem?_eq_some.mp hm
    rw [PersistentLiveLayout.reduceProposal, ExtTreeMap.getElem?_filter',
      Option.filter_eq_some_iff] at hreq
    simp only [ne_eq, decide_eq_true_eq] at hdrawn hreq
    exact absurd hdrawn hreq.2.1
  · cases h
    rfl

theorem stage_effects (h : layout.stage proposal control now = .ok (result, layout'))
    {r : LiveWmCommitResult} (hr : result = some r) : r.effects = proposal.effects := by
  cases stage_stages h with
  | busy hp => cases hr
  | committed hp =>
    cases hr
    rfl
  | waits hp => cases hr

theorem Covers.stage (hcov : Covers known layout)
    (h : layout.stage proposal control now = .ok (result, layout'))
    (hprop : ∀ effects, proposal.effects = some effects →
      ∀ s, known s → s ∈ effects.workspaceState.surfaces) : Covers known layout' := by
  cases stage_stages h with
  | busy hp => exact hcov
  | committed hp => exact covers_of_none hp
  | waits hp =>
    rintro _ effects ⟨⟩ he
    exact hprop effects he

theorem Observes.effects {index : ℕ} {transaction : SurfaceTransaction}
    {observation : Observation}
    (h : PersistentLiveLayout.Observes layout index transaction (observation, layout')) :
    layout'.pending.map PendingLiveWmLayout.effects = layout.pending.map PendingLiveWmLayout.effects := by
  cases h with
  | fenced => rfl
  | staged pending resize hp hawait => simp [hp, stageTransaction]
  | drawn layer resize hlayer hnot => rfl
  | created geometry center resize hnone hnot => rfl

theorem effects_observeTransactions (transactions : List (SurfaceTransaction × ℕ)) :
    (layout.observeTransactions transactions).2.pending.map PendingLiveWmLayout.effects =
      layout.pending.map PendingLiveWmLayout.effects := by
  induction transactions generalizing layout with
  | nil => rfl
  | cons entry rest ih =>
    obtain ⟨transaction, index⟩ := entry
    rcases hone : layout.observeTransaction index transaction with ⟨observation, next⟩
    have ho : PersistentLiveLayout.Observes layout index transaction (observation, next) :=
      hone ▸ observeTransaction_observes
    simp only [PersistentLiveLayout.observeTransactions, hone]
    exact ih.trans (Observes.effects ho)

theorem effects_observeAuthorityBatch (layout : PersistentLiveLayout)
    (batch : XAuthorityObservedTransactionBatch) :
    (layout.observeAuthorityBatch batch).2.pending.map PendingLiveWmLayout.effects =
      layout.pending.map PendingLiveWmLayout.effects := by
  rw [observeAuthorityBatch, effects_observeTransactions]
  unfold PersistentLiveLayout.removeSurfaces
  split
  · rfl
  · simp only [Option.map_map]
    rfl

theorem Covers.observe (h : Covers known layout) (batch : XAuthorityObservedTransactionBatch) :
    Covers known (layout.observeAuthorityBatch batch).2 := by
  intro pending effects hp he
  have heff := effects_observeAuthorityBatch layout batch
  rw [hp, Option.map_some, he] at heff
  obtain ⟨old, hold, heo⟩ := Option.map_eq_some_iff.mp heff.symm
  exact h old effects hold heo

theorem Covers.expire (h : Covers known layout) (control : Control) (now : ℕ) :
    Covers known (layout.expirePending control now).2 := by
  obtain ⟨-, -, hp | hp⟩ := expirePending_spec layout control now
  · exact h.of_pending hp
  · exact covers_of_none hp

theorem pending_takeNextUnmanagedSurface {surface : Option SurfaceId}
    (h : layout.takeNextUnmanagedSurface = (surface, layout')) :
    layout'.pending = layout.pending := by
  unfold takeNextUnmanagedSurface at h
  split at h <;> cases h <;> rfl

/-- The pending proposal is ready to commit and carries this candidate. -/
def ReadyWith (layout : PersistentLiveLayout) (effects : LiveWmCommitEffects) : Prop :=
  ∃ pending, layout.pending = some pending ∧ pendingReady pending = true ∧
    pending.effects = some effects

theorem resolvePending_spec (layout : PersistentLiveLayout) :
    (layout.resolvePending.1 = none ∧ layout.resolvePending.2 = layout) ∨
    (∃ r, layout.resolvePending.1 = some r ∧ layout.resolvePending.2.pending = none ∧
      ∀ effects, r.effects = some effects → ReadyWith layout effects) := by
  unfold resolvePending
  split
  · exact Or.inl ⟨rfl, rfl⟩
  rename_i pending hp
  split
  · rename_i hready
    exact Or.inr ⟨_, rfl, rfl, fun effects he => ⟨pending, hp, hready, he⟩⟩
  · exact Or.inl ⟨rfl, rfl⟩

end Layout

namespace LiveSession

variable {config : SessionConfig} {session session' : LiveSession} {known : SurfaceId → Prop}

/-- The window manager was restarted and made a proposal that can be staged. -/
def RestartProposes (session : LiveSession) (config : SessionConfig) (found : WmRestart)
    (proposal : LiveWmProposal) : Prop :=
  session.layout.pending = none ∧
    ∃ wm, session.wm.pollRestart config session.layout found = .ok (some proposal, wm)

/-- The configured resize has not been staged yet. -/
def ProofDue (session : LiveSession) (config : SessionConfig) : Prop :=
  config.injectSurfaceResize.isSome = true ∧ session.resizeProofStaged = false

/-- Everything a restart can do. -/
theorem restart_cases {found : WmRestart} {control : Control} {now : ℕ}
    {restarted : Option (Option LiveWmCommitResult)}
    (h : session.restart config found control now = .ok (restarted, session')) :
    (restarted = none ∧ session'.layout = session.layout ∧
      session'.wm.workspaceState = session.wm.workspaceState ∧
      session'.resizeProofStaged = session.resizeProofStaged) ∨
    (∃ proposal result, restarted = some result ∧
      session.RestartProposes config found proposal ∧ PlannedOn session.wm proposal ∧
      session.layout.stage proposal control now = .ok (result, session'.layout) ∧
      session'.wm.workspaceState = session.wm.workspaceState ∧
      session'.resizeProofStaged = session.resizeProofStaged) := by
  unfold restart at h
  split at h
  · cases h
    exact Or.inl ⟨rfl, rfl, rfl, rfl⟩
  rename_i hp
  simp only [bind_eq_ok] at h
  obtain ⟨⟨made, wm⟩, hpoll, h⟩ := h
  obtain ⟨hstate, hplan⟩ := pollRestart_spec hpoll
  simp only at h
  split at h
  · cases h
    exact Or.inl ⟨rfl, rfl, hstate, rfl⟩
  · rename_i proposal
    simp only [bind_eq_ok] at h
    obtain ⟨⟨result, layout⟩, hstage, h⟩ := h
    cases h
    obtain ⟨effects, heff, hsame⟩ := hplan proposal rfl
    refine Or.inr ⟨proposal, result, rfl, ⟨by simpa using hp, wm, hpoll⟩,
      ⟨effects, heff, fun s => hstate ▸ hsame s⟩, hstage, hstate, rfl⟩

theorem effects_of_committedEffects {result : LiveWmCommitResult} {effects : LiveWmCommitEffects}
    (h : result.committedEffects = some effects) : result.effects = some effects := by
  unfold LiveWmCommitResult.committedEffects at h
  split at h
  · exact h
  · cases h

/-- The candidates a stage call commits are those of its proposal. -/
theorem mem_effectsOf {layout layout' : PersistentLiveLayout} {proposal : LiveWmProposal}
    {control : Control} {now : ℕ} {result : Option LiveWmCommitResult} {wm : LiveWmSession}
    (h : layout.stage proposal control now = .ok (result, layout')) (hplan : PlannedOn wm proposal)
    {effects : LiveWmCommitEffects} (he : effects ∈ effectsOf result) :
    SameSurfaces effects.workspaceState wm.workspaceState := by
  obtain ⟨planned, hplanned, hsame⟩ := hplan
  rw [effectsOf, Option.mem_toList, Option.bind_eq_some_iff] at he
  obtain ⟨r, hr, hre⟩ := he
  have heff := (stage_effects h hr).symm.trans (effects_of_committedEffects hre)
  cases hplanned.symm.trans heff
  exact hsame

theorem restart_spec {found : WmRestart} {control : Control} {now : ℕ}
    {restarted : Option (Option LiveWmCommitResult)}
    (h : session.restart config found control now = .ok (restarted, session')) :
    session'.wm.workspaceState = session.wm.workspaceState ∧
      session'.resizeProofStaged = session.resizeProofStaged ∧
      ∀ effects ∈ effectsOf (restarted.getD none),
        SameSurfaces effects.workspaceState session.wm.workspaceState := by
  rcases restart_cases h with ⟨rfl, -, hw, hr⟩ | ⟨proposal, result, rfl, -, hplan, hstage, hw, hr⟩
  · exact ⟨hw, hr, nofun⟩
  · exact ⟨hw, hr, fun effects he => mem_effectsOf hstage hplan he⟩

theorem covers_restart {found : WmRestart} {control : Control} {now : ℕ}
    {restarted : Option (Option LiveWmCommitResult)}
    (h : session.restart config found control now = .ok (restarted, session'))
    (hcov : Covers known session.layout)
    (hkeys : ∀ s, known s → s ∈ session.wm.workspaceState.surfaces) :
    Covers known session'.layout := by
  rcases restart_cases h with ⟨-, hl, -⟩ | ⟨proposal, result, -, -, hplan, hstage, -⟩
  · exact hl ▸ hcov
  · obtain ⟨planned, hplanned, hsame⟩ := hplan
    refine hcov.stage hstage fun effects heff s hk => ?_
    cases hplanned.symm.trans heff
    exact (hsame s).mpr (hkeys s hk)

theorem restart_of_not_proposes {found : WmRestart} {control : Control} {now : ℕ}
    {restarted : Option (Option LiveWmCommitResult)}
    (h : session.restart config found control now = .ok (restarted, session'))
    (hnot : ∀ proposal, ¬ session.RestartProposes config found proposal) : restarted = none := by
  rcases restart_cases h with ⟨rfl, -⟩ | ⟨proposal, result, -, hprop, -⟩
  · rfl
  · exact absurd hprop (hnot proposal)

theorem restart_of_waits {found : WmRestart} {control : Control} {now : ℕ}
    {restarted : Option (Option LiveWmCommitResult)}
    (h : session.restart config found control now = .ok (restarted, session'))
    (hwait : ∀ proposal, session.RestartProposes config found proposal →
      Waits session.layout proposal) : restarted.getD none = none := by
  rcases restart_cases h with ⟨rfl, -⟩ | ⟨proposal, result, rfl, hprop, -, hstage, -⟩
  · rfl
  · exact stage_of_waits (hwait proposal hprop) hstage

/-- The resize proof changes nothing, or stages a proposal without a candidate. -/
theorem resizeProof_cases {control : Control} {now : ℕ}
    {proof : Option (Option LiveWmCommitResult)}
    (h : session.resizeProof config control now = .ok (proof, session')) :
    (proof = none ∧ session' = session) ∨
    (∃ proposal result, proof = some result ∧ session.ProofDue config ∧ proposal.effects = none ∧
      session.layout.stage proposal control now = .ok (result, session'.layout) ∧
      session'.wm = session.wm) := by
  unfold resizeProof at h
  split at h
  · cases h
    exact Or.inl ⟨rfl, rfl⟩
  rename_i size hsize
  split at h
  · cases h
    exact Or.inl ⟨rfl, rfl⟩
  rename_i hdue
  split at h
  · cases h
  rename_i proposal hprop
  simp only [bind_eq_ok] at h
  obtain ⟨⟨result, layout⟩, hstage, h⟩ := h
  cases h
  refine Or.inr ⟨proposal, result, rfl, ⟨by simp [hsize], ?_⟩, ?_, hstage, rfl⟩
  · rw [not_or] at hdue
    simpa using hdue.1
  · obtain ⟨surface, -, rfl⟩ := Option.map_eq_some_iff.mp hprop
    rfl

theorem resizeProof_spec {control : Control} {now : ℕ}
    {proof : Option (Option LiveWmCommitResult)}
    (h : session.resizeProof config control now = .ok (proof, session')) :
    session'.wm = session.wm ∧ effectsOf (proof.getD none) = [] ∧
      (¬ session.ProofDue config → proof = none) := by
  rcases resizeProof_cases h with ⟨rfl, rfl⟩ | ⟨proposal, result, rfl, hdue, hnone, hstage, hwm⟩
  · exact ⟨rfl, rfl, fun _ => rfl⟩
  · refine ⟨hwm, ?_, fun hnot => absurd hdue hnot⟩
    cases result with
    | none => rfl
    | some r => simp [effectsOf, LiveWmCommitResult.committedEffects, stage_effects hstage rfl, hnone]

theorem covers_resizeProof {control : Control} {now : ℕ}
    {proof : Option (Option LiveWmCommitResult)}
    (h : session.resizeProof config control now = .ok (proof, session'))
    (hcov : Covers known session.layout) : Covers known session'.layout := by
  rcases resizeProof_cases h with ⟨-, rfl⟩ | ⟨proposal, result, -, -, hnone, hstage, -⟩
  · exact hcov
  · exact hcov.stage hstage (by simp [hnone])

theorem effectsOf_expirePending {layout layout' : PersistentLiveLayout} {control : Control}
    {now : ℕ} {expired : Option LiveWmCommitResult}
    (h : layout.expirePending control now = (.ok expired, layout')) :
    expired.bind LiveWmCommitResult.committedEffects = none := by
  unfold expirePending at h
  split at h
  · cases h
    rfl
  split at h
  · cases h
    rfl
  split at h
  · cases h
  simp only at h
  split at h <;> cases h
  rfl

theorem expire_eq_ok {layout layout' : PersistentLiveLayout} {control : Control} {now : ℕ}
    {expired : Option LiveWmCommitResult} (h : expire layout control now = .ok (expired, layout')) :
    layout.expirePending control now = (.ok expired, layout') := by
  unfold expire at h
  split at h
  · cases h
  · rename_i he
    cases h
    exact he

/-- Either nothing commits, or the pending proposal does and is the update. -/
theorem settle_cases {layout layout' : PersistentLiveLayout} {control : Control} {now : ℕ}
    {resolved update : Option LiveWmCommitResult}
    (h : settle layout control now = .ok (resolved, update, layout')) :
    (resolved = none ∧ update.bind LiveWmCommitResult.committedEffects = none ∧
      layout' = (layout.expirePending control now).2) ∨
    (∃ r, resolved = some r ∧ update = some r ∧ layout'.pending = none ∧
      ∀ effects, r.effects = some effects → ReadyWith layout effects) := by
  unfold settle at h
  rcases resolvePending_spec layout with ⟨hnone, hsame⟩ | ⟨r, hr, hp, heff⟩
  · rcases hres : layout.resolvePending with ⟨resolved', layout₁⟩
    rw [hres] at h hnone hsame
    cases hnone
    cases hsame
    simp only [bind_eq_ok] at h
    obtain ⟨⟨expired, layout₂⟩, hexp, h⟩ := h
    cases h
    have hexpired := expire_eq_ok hexp
    exact Or.inl ⟨rfl, effectsOf_expirePending hexpired, by rw [hexpired]⟩
  · rcases hres : layout.resolvePending with ⟨resolved', layout₁⟩
    rw [hres] at h hr hp
    cases hr
    cases h
    exact Or.inr ⟨r, rfl, rfl, hp, heff⟩

end LiveSession

namespace TrackedSession

open LiveSession

variable {config : SessionConfig} {tracked : TrackedSession}

def removedBy : SessionAction → List SurfaceId
  | .batch observed _ => observed.removedSurfaces
  | _ => []

/-- An iteration that fails ends the session. -/
def step (config : SessionConfig) (tracked : TrackedSession) (a : SessionAction) : TrackedSession :=
  match tracked.session.iterate config a with
  | .error _ => tracked
  | .ok (report, session) =>
    { session
      registered := (tracked.registered.filter fun surface => surface ∉ removedBy a).insertMany
        report.registered.toList }

/-- Every candidate that commits is adopted once, and an adopted one has exactly the surfaces that
were registered and not removed. -/
def NoLostUpdate (config : SessionConfig) (tracked : TrackedSession) (a : SessionAction) : Prop :=
  ∀ report session, tracked.session.iterate config a = .ok (report, session) →
    report.adopted = report.committed ∧
      (report.adopted ≠ [] → ∀ surface, surface ∈ session.wm.workspaceState.surfaces ↔
        surface ∈ (tracked.step config a).registered)

/-- No proposal of the timeout branch commits at once. -/
def IdleWaits (config : SessionConfig) (session : LiveSession) (env : IdleEnvironment) : Prop :=
  ∀ expired layout, session.layout.expirePending env.expireControl env.now = (.ok expired, layout) →
    (∀ proposal, { session with layout }.RestartProposes config env.found proposal →
      Waits layout proposal) ∧
    ∀ restarted next, { session with layout }.restart config env.found env.restartControl env.now =
        .ok (restarted, next) →
      ∀ surface left proposal wm, next.layout.takeNextUnmanagedSurface = (some surface, left) →
        next.wm.requestManage config surface left env.reply env.resyncReply = .ok (proposal, wm) →
          Waits left proposal

/-- No surface of a candidate that is ready was removed since it was planned, and no later stage
call of the iteration overwrites an update that committed. -/
def BatchKeeps (config : SessionConfig) (tracked : TrackedSession)
    (observed : XAuthorityObservedTransactionBatch) (env : BatchEnvironment) : Prop :=
  ∀ wm resolved update layout,
    notifyRemoved tracked.session.wm observed.removedSurfaces env.removalReply = .ok wm →
    settle (tracked.session.layout.observeAuthorityBatch observed).2 env.expireControl env.now =
      .ok (resolved, update, layout) →
    (∀ effects, ReadyWith (tracked.session.layout.observeAuthorityBatch observed).2 effects →
      (∀ surface, surface ∈ effects.workspaceState.surfaces →
        surface ∈ tracked.registered ∧ surface ∉ observed.removedSurfaces) ∧
      (∀ proposal, ¬ { tracked.session with wm, layout }.RestartProposes config env.found proposal) ∧
      ¬ tracked.session.ProofDue config) ∧
    (tracked.session.ProofDue config → ∀ proposal,
      { tracked.session with wm, layout }.RestartProposes config env.found proposal →
        Waits layout proposal)

def KeepsUpdates (config : SessionConfig) (tracked : TrackedSession) : SessionAction → Prop
  | .shortcut _ _ _ => True
  | .batch observed env => BatchKeeps config tracked observed env
  | .idle env => IdleWaits config tracked.session env

/-- The workspace state knows the registered surfaces, and so does a candidate that waits. -/
structure Tracks (tracked : TrackedSession) : Prop where
  keys : ∀ s, s ∈ tracked.session.wm.workspaceState.surfaces ↔ s ∈ tracked.registered
  covers : Covers (fun s => s ∈ tracked.registered) tracked.session.layout

theorem mem_registered_step {report : IterationReport} {session : LiveSession} {a : SessionAction}
    (h : tracked.session.iterate config a = .ok (report, session)) (s : SurfaceId) :
    s ∈ (tracked.step config a).registered ↔
      (s ∈ tracked.registered ∧ s ∉ removedBy a) ∨ report.registered = some s := by
  simp only [step, h]
  rw [ExtTreeSet.mem_insertMany_list, Ordered.mem_filter_set, List.contains_iff_mem]
  simp

/-- The surfaces known after an iteration. -/
def Known (tracked : TrackedSession) (a : SessionAction) (report : IterationReport) (s : SurfaceId) :
    Prop :=
  (s ∈ tracked.registered ∧ s ∉ removedBy a) ∨ report.registered = some s

theorem tracks_of_report {report : IterationReport} {session : LiveSession} {a : SessionAction}
    (h : tracked.session.iterate config a = .ok (report, session))
    (hadopt : report.adopted = report.committed)
    (hkeys : ∀ s, s ∈ session.wm.workspaceState.surfaces ↔ tracked.Known a report s)
    (hcov : Covers (tracked.Known a report) session.layout) :
    Tracks (tracked.step config a) ∧ NoLostUpdate config tracked a := by
  have hsession : (tracked.step config a).session = session := by simp only [step, h]
  have hreg := mem_registered_step h
  refine ⟨⟨fun s => ?_, ?_⟩, ?_⟩
  · rw [hsession, hkeys, hreg]
    rfl
  · rw [hsession]
    exact fun pending effects hp he s hs => hcov pending effects hp he s ((hreg s).mp hs)
  · intro report' session' h'
    cases h.symm.trans h'
    exact ⟨hadopt, fun _ s => (hkeys s).trans (hreg s).symm⟩

theorem tracks_shortcut (ht : Tracks tracked) {reply : WmReply} {control : Control} {now : ℕ}
    {report : IterationReport} {session : LiveSession}
    (h : tracked.session.iterate config (.shortcut reply control now) = .ok (report, session)) :
    Tracks (tracked.step config (.shortcut reply control now)) ∧
      NoLostUpdate config tracked (.shortcut reply control now) := by
  have hit := h
  simp only [iterate, shortcut, bind_eq_ok] at h
  obtain ⟨⟨proposal, wm⟩, hreq, ⟨result, layout⟩, hstage, h⟩ := h
  obtain ⟨hstate, effects, heff, hsame⟩ := requestRelayout_spec hreq
  have hkeys : ∀ s, s ∈ wm.workspaceState.surfaces ↔ s ∈ tracked.registered := by
    rw [hstate]
    exact ht.keys
  have hcov : Covers (fun s => s ∈ tracked.registered) layout := by
    refine ht.covers.stage hstage fun effects' he s hs => ?_
    cases heff.symm.trans he
    exact (hsame s).mpr ((hkeys s).mpr hs)
  have hknown : ∀ committed adopted s,
      tracked.Known (.shortcut reply control now) ⟨committed, adopted, none⟩ s ↔
        s ∈ tracked.registered := by
    simp [Known, removedBy]
  cases result with
  | none =>
    cases h
    refine tracks_of_report hit rfl (fun s => (hkeys s).trans (hknown [] [] s).symm) ?_
    exact fun p e hp he s hs => hcov p e hp he s ((hknown [] [] s).mp hs)
  | some result =>
    cases h
    refine tracks_of_report hit rfl (fun s => ?_)
      fun p e hp he s hs => hcov p e hp he s ((hknown _ _ s).mp hs)
    rw [hknown, ← hkeys]
    -- The adopted candidate was planned on the current state.
    cases hcom : result.committedEffects with
    | none => rfl
    | some adopted =>
      have hmem : adopted ∈ effectsOf (some result) := by simp [effectsOf, hcom]
      exact mem_effectsOf hstage ⟨effects, heff, hsame⟩ hmem s

theorem tracks_idle (ht : Tracks tracked) {env : IdleEnvironment}
    (hwait : IdleWaits config tracked.session env) {report : IterationReport}
    {session : LiveSession}
    (h : tracked.session.iterate config (.idle env) = .ok (report, session)) :
    Tracks (tracked.step config (.idle env)) ∧ NoLostUpdate config tracked (.idle env) := by
  have hit := h
  simp only [iterate, idle, bind_eq_ok] at h
  obtain ⟨⟨expired, layout⟩, hexp, ⟨restarted, next⟩, hrestart, ⟨surface, managed, last⟩, hmanage, h⟩ :=
    h
  have hexpired := expire_eq_ok hexp
  have hcov : Covers (fun s => s ∈ tracked.registered) layout := by
    have hcov' := ht.covers.expire env.expireControl env.now
    rwa [hexpired] at hcov'
  obtain ⟨hrw, hmw⟩ := hwait expired layout hexpired
  have hcov₁ := covers_restart hrestart hcov fun s hs => (ht.keys s).mpr hs
  obtain ⟨hstate, -, -⟩ := restart_spec hrestart
  have hnone : restarted.getD none = none := restart_of_waits hrestart hrw
  have hkeys : ∀ s, s ∈ next.wm.workspaceState.surfaces ↔ s ∈ tracked.registered := by
    rw [hstate]
    exact ht.keys
  cases h
  unfold manageNext at hmanage
  split at hmanage
  · cases hmanage
    refine tracks_of_report hit (by simp [hnone, effectsOf]) (fun s => ?_) ?_
    · simp [Known, removedBy, hkeys]
    · exact fun p e hp he s hs => hcov₁ p e hp he s (by simpa [Known, removedBy] using hs)
  rename_i hidle
  have hp : next.layout.pending = none := by
    rw [not_or] at hidle
    simpa using hidle.1
  split at hmanage
  · rename_i left htake
    cases hmanage
    refine tracks_of_report hit (by simp [hnone, effectsOf]) (fun s => ?_) ?_
    · simp [Known, removedBy, hkeys]
    · exact covers_of_none ((pending_takeNextUnmanagedSurface htake).trans hp)
  · rename_i taken left htake
    simp only [bind_eq_ok] at hmanage
    obtain ⟨⟨proposal, wm⟩, hreq, ⟨result, staged⟩, hstage, hmanage⟩ := hmanage
    cases hmanage
    obtain ⟨hadded, effects, heff, hsame⟩ := requestManage_spec hreq
    have hwaits := stage_of_waits (hmw restarted next hrestart taken left proposal wm htake hreq) hstage
    subst hwaits
    have hknown : ∀ s, s ∈ wm.workspaceState.surfaces ↔
        tracked.Known (.idle env) ⟨[], [], some taken⟩ s := by
      intro s
      rw [hadded, hkeys, or_comm]
      simp [Known, removedBy]
    refine tracks_of_report hit (by simp [hnone, effectsOf]) hknown ?_
    refine Covers.stage (covers_of_none ((pending_takeNextUnmanagedSurface htake).trans hp)) hstage ?_
    intro effects' he s hs
    cases heff.symm.trans he
    exact (hsame s).mpr ((hknown s).mpr hs)

/-- The tail of a batch iteration whose own pending proposal committed no candidate. -/
theorem adopted_of_nothing_resolved {session₁ session₂ session₃ : LiveSession} {found : WmRestart}
    {restartControl proofControl : Control} {now : ℕ} {update : Option LiveWmCommitResult}
    {restarted proof : Option (Option LiveWmCommitResult)}
    (hrestart : session₁.restart config found restartControl now = .ok (restarted, session₂))
    (hproof : session₂.resizeProof config proofControl now = .ok (proof, session₃))
    (hupdate : update.bind LiveWmCommitResult.committedEffects = none)
    (hdue : session₁.ProofDue config → ∀ proposal,
      session₁.RestartProposes config found proposal → Waits session₁.layout proposal) :
    ((proof.getD (restarted.getD update)).bind LiveWmCommitResult.committedEffects).toList =
      effectsOf (restarted.getD none) ++ effectsOf (proof.getD none) := by
  obtain ⟨-, hnone, hnot⟩ := resizeProof_spec hproof
  obtain ⟨-, hstaged, -⟩ := restart_spec hrestart
  rw [hnone, List.append_nil]
  by_cases hd : session₁.ProofDue config
  · have hrest := restart_of_waits hrestart (hdue hd)
    rw [hrest]
    cases proof with
    | none =>
      cases restarted with
      | none => simp [effectsOf, hupdate]
      | some result =>
        cases hrest
        simp [effectsOf]
    | some result => exact hnone
  · have hd' : ¬ session₂.ProofDue config := by
      rw [ProofDue, hstaged]
      exact hd
    rw [hnot hd']
    cases restarted with
    | none => simp [effectsOf, hupdate]
    | some result => rfl

theorem tracks_batch (ht : Tracks tracked) {observed : XAuthorityObservedTransactionBatch}
    {env : BatchEnvironment} (hkeep : BatchKeeps config tracked observed env)
    {report : IterationReport} {session : LiveSession}
    (h : tracked.session.iterate config (.batch observed env) = .ok (report, session)) :
    Tracks (tracked.step config (.batch observed env)) ∧
      NoLostUpdate config tracked (.batch observed env) := by
  have hit := h
  simp only [iterate, batch, bind_eq_ok] at h
  obtain ⟨wm, hremoved, ⟨resolved, update, layout⟩, hsettle, ⟨restarted, session₂⟩, hrestart,
    ⟨proof, session₃⟩, hproof, h⟩ := h
  obtain ⟨hready, hdue⟩ := hkeep wm resolved update layout hremoved hsettle
  have hknown : ∀ committed adopted s,
      tracked.Known (.batch observed env) ⟨committed, adopted, none⟩ s ↔
        s ∈ tracked.registered ∧ s ∉ observed.removedSurfaces := by
    simp [Known, removedBy]
  have hkeys : ∀ s, s ∈ wm.workspaceState.surfaces ↔
      s ∈ tracked.registered ∧ s ∉ observed.removedSurfaces := by
    intro s
    rw [mem_surfaces_notifyRemoved hremoved, ht.keys]
  have hcov₁ : Covers (fun s => s ∈ tracked.registered ∧ s ∉ observed.removedSurfaces)
      (tracked.session.layout.observeAuthorityBatch observed).2 :=
    Covers.observe (fun p e hp he s hs => ht.covers p e hp he s hs.1) observed
  have hcov₂ : Covers (fun s => s ∈ tracked.registered ∧ s ∉ observed.removedSurfaces) layout := by
    rcases settle_cases hsettle with ⟨-, -, rfl⟩ | ⟨r, -, -, hp, -⟩
    · exact hcov₁.expire _ _
    · exact covers_of_none hp
  have hcov₃ := covers_restart hrestart hcov₂ fun s hs => (hkeys s).mpr hs
  have hcov₄ := covers_resizeProof hproof hcov₃
  obtain ⟨hstate, hstaged, hsame⟩ := restart_spec hrestart
  obtain ⟨hwm, hnone, hnot⟩ := resizeProof_spec hproof
  cases h
  -- Either the pending proposal committed a candidate, or only the restart may have.
  by_cases hres : effectsOf resolved = []
  · have hupdate : update.bind LiveWmCommitResult.committedEffects = none := by
      rcases settle_cases hsettle with ⟨-, hupdate, -⟩ | ⟨r, rfl, rfl, -⟩
      · exact hupdate
      · simpa [effectsOf] using hres
    have hadopt := adopted_of_nothing_resolved hrestart hproof hupdate hdue
    refine tracks_of_report hit ?_ (fun s => ?_)
      fun p e hp he s hs => hcov₄ p e hp he s ((hknown _ _ s).mp hs)
    · simpa [hres] using hadopt
    · rw [hknown, ← hkeys]
      rw [hnone, List.append_nil] at hadopt
      cases had : (proof.getD (restarted.getD update)).bind
          LiveWmCommitResult.committedEffects with
      | none =>
        rw [adoptCommitted, Option.isSome_none, if_neg (by simp), hwm, hstate]
      | some effects =>
        rw [had] at hadopt
        exact hsame effects (hadopt ▸ by simp) s
  · rcases settle_cases hsettle with ⟨rfl, -⟩ | ⟨r, rfl, rfl, -, hwith⟩
    · exact absurd rfl hres
    cases heff : r.committedEffects with
    | none => simp [effectsOf, heff] at hres
    | some effects =>
      have hreff := effects_of_committedEffects heff
      obtain ⟨hsub, hno, hnd⟩ := hready effects (hwith effects hreff)
      have hr : restarted = none := restart_of_not_proposes hrestart hno
      have hd : ¬ session₂.ProofDue config := by
        rw [ProofDue, hstaged]
        exact hnd
      have hpr : proof = none := hnot hd
      subst hr hpr
      refine tracks_of_report hit (by simp [effectsOf, heff]) (fun s => ?_)
        fun p e hp he s hs => hcov₄ p e hp he s ((hknown _ _ s).mp hs)
      rw [hknown]
      obtain ⟨pending, hp, -, hpe⟩ := hwith effects hreff
      simp only [Option.getD_none, Option.bind_some, heff]
      exact ⟨hsub s, hcov₁ pending effects hp hpe s⟩

theorem tracks_step (ht : Tracks tracked) {a : SessionAction} (ha : KeepsUpdates config tracked a) :
    Tracks (tracked.step config a) ∧ NoLostUpdate config tracked a := by
  cases hit : tracked.session.iterate config a with
  | error error =>
    have hstep : tracked.step config a = tracked := by simp only [step, hit]
    refine ⟨?_, ?_⟩
    · rw [hstep]
      exact ht
    · intro report session h
      cases hit.symm.trans h
  | ok result =>
    obtain ⟨report, session⟩ := result
    cases a with
    | shortcut reply control now => exact tracks_shortcut ht hit
    | batch observed env => exact tracks_batch ht ha hit
    | idle env => exact tracks_idle ht ha hit

/-- A session before its first iteration. -/
def start (workspaceState : WmWorkspaceState) (sessionActions : List WmSessionAction)
    (offset : Bool) (center : Option Size) : TrackedSession where
  session := {
    wm := { workspaceState, sessionActions }
    layout := .new offset center }

/-- From a fresh workspace state, whatever the window manager, the authority and the control channel
do: as long as every iteration meets the condition, every candidate that commits is adopted exactly
once and leaves exactly the surfaces registered and not removed. -/
theorem workspace_updates_kept {outputs : List (OutputId × Rect)} {count : ℕ}
    {workspaceState : WmWorkspaceState}
    (hnew : WmWorkspaceState.new outputs count = .ok workspaceState) (config : SessionConfig)
    (sessionActions : List WmSessionAction) (offset : Bool) (center : Option Size)
    (actions : List SessionAction)
    (hkeep : Run.Guarded (step config) (KeepsUpdates config)
      (start workspaceState sessionActions offset center) actions) :
    Run.Guarded (step config) (NoLostUpdate config)
      (start workspaceState sessionActions offset center) actions := by
  have hempty : workspaceState.surfaces = ∅ := WmWorkspaceState.surfaces_new hnew
  have hstart : Tracks (start workspaceState sessionActions offset center) := by
    refine ⟨fun s => ?_, covers_of_none rfl⟩
    simp [start, hempty]
  intro before a after he
  have hpre : Tracks (Run.exec (step config) (start workspaceState sessionActions offset center)
      before) := by
    rw [he] at hkeep
    exact Run.invariant (P := Tracks) hstart (fun _ _ ha ht => (tracks_step ht ha).1) hkeep.left
  exact (tracks_step hpre (hkeep before a after he)).2

/-- One output of sixty-four by sixty-four, nothing injected. -/
def plainConfig : SessionConfig := ⟨⟨1⟩, ⟨0, 0, 64, 64⟩, none, false⟩

/-- The fresh state of that output with nine workspaces. -/
def plainState : WmWorkspaceState where
  workspaces := configuredWorkspaces 9
  outputs := (∅ : ExtTreeMap OutputId WmOutputPolicyState).insert ⟨1⟩ ⟨⟨0, 0, 64, 64⟩, ⟨1⟩, none⟩
  surfaces := ∅

/-- The window manager answers without a command and the control channel stays silent. -/
def quietBatch : BatchEnvironment where
  removalReply _ := some ⟨⟨1⟩, [], 100⟩
  expireControl := ⟨fun _ => true, []⟩
  found := .running
  restartControl := ⟨fun _ => true, []⟩
  proofControl := ⟨fun _ => true, []⟩
  now := 0

def quietIdle : IdleEnvironment where
  expireControl := ⟨fun _ => true, []⟩
  found := .running
  restartControl := ⟨fun _ => true, []⟩
  settled := true
  reply := some ⟨⟨1⟩, [], 100⟩
  resyncReply := none
  manageControl := ⟨fun _ => true, []⟩
  now := 0

/-- A window is drawn and a shortcut commits an empty plan. -/
theorem workspace_updates_kept_shortcut :
    WmWorkspaceState.new [(⟨1⟩, ⟨0, 0, 64, 64⟩)] 9 = .ok plainState ∧
      Run.Guarded (step plainConfig) (NoLostUpdate plainConfig) (start plainState [] false none)
        [.batch (TrackedLayout.drawBatch ⟨0, 1⟩ ⟨8, 8⟩ 0 1) quietBatch,
          .shortcut (some ⟨⟨1⟩, [], 100⟩) ⟨fun _ => true, []⟩ 0] := by
  have hnew : WmWorkspaceState.new [(⟨1⟩, ⟨0, 0, 64, 64⟩)] 9 = .ok plainState := rfl
  refine ⟨hnew, workspace_updates_kept hnew plainConfig [] false none _ ?_⟩
  refine .cons ?_ (.cons trivial Run.guarded_nil)
  rintro wm resolved update layout - -
  refine ⟨?_, fun hdue => by cases hdue.1⟩
  rintro effects ⟨pending, hp, -⟩
  cases hp

/-- The first window of a session is managed: its proposal commits at once in the timeout branch,
and the candidate is never adopted. -/
theorem managed_candidate_dropped :
    WmWorkspaceState.new [(⟨1⟩, ⟨0, 0, 64, 64⟩)] 9 = .ok plainState ∧
      ¬ NoLostUpdate plainConfig
        (Run.exec (step plainConfig) (start plainState [] false none)
          [.batch (TrackedLayout.drawBatch ⟨0, 1⟩ ⟨8, 8⟩ 0 1) quietBatch])
        (.idle quietIdle) := by
  refine ⟨rfl, fun h => ?_⟩
  have hcounts : ((Run.exec (step plainConfig) (start plainState [] false none)
      [.batch (TrackedLayout.drawBatch ⟨0, 1⟩ ⟨8, 8⟩ 0 1) quietBatch]).session.iterate plainConfig
        (.idle quietIdle)).toOption.map
          (fun result => (result.1.committed.length, result.1.adopted.length)) = some (1, 0) := by
    decide +kernel
  obtain ⟨⟨report, session⟩, hit, hcount⟩ := Option.map_eq_some_iff.mp hcounts
  have hok : (Run.exec (step plainConfig) (start plainState [] false none)
      [.batch (TrackedLayout.drawBatch ⟨0, 1⟩ ⟨8, 8⟩ 0 1) quietBatch]).session.iterate plainConfig
        (.idle quietIdle) = .ok (report, session) := Fallible.toOption_eq_some.mp hit
  have hsame := congrArg List.length (h report session hok).1
  simp only [Prod.mk.injEq] at hcount
  omega

end TrackedSession
end Sophia.Session
