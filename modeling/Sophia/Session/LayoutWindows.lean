import Sophia.Lib.History
import Sophia.Session.LiveLayout

/-! Which windows the live layout holds along any interleaving of its calls. -/
namespace Sophia.Session

open Std Sophia.Protocol Sophia.Engine

/-- A call on the layout; a proposal is made of the layers it finds and staged at once. -/
inductive LayoutAction where
  | observe (batch : XAuthorityObservedTransactionBatch)
  | takeNextUnmanaged
  | stage (transaction : LayoutTransaction Transform) (bounds : Rect)
      (effects : Option LiveWmCommitEffects) (control : Control) (now : ℕ)
  | stageResize (size : Size) (control : Control) (now : ℕ)
  | resolve
  | expire (control : Control) (now : ℕ)

namespace PersistentLiveLayout

/-- A proposal that fails to stage leaves the layout as it was. -/
def stageProposal (layout : PersistentLiveLayout) (proposal : LiveWmProposal) (control : Control)
    (now : ℕ) : PersistentLiveLayout :=
  match layout.stage proposal control now with
  | .ok (_, layout') => layout'
  | .error _ => layout

def step (layout : PersistentLiveLayout) : LayoutAction → PersistentLiveLayout
  | .observe batch => (layout.observeAuthorityBatch batch).2
  | .takeNextUnmanaged => layout.takeNextUnmanagedSurface.2
  | .stage transaction bounds effects control now =>
    match proposeLayout layout transaction bounds effects with
    | .ok proposal => layout.stageProposal proposal control now
    | .error _ => layout
  | .stageResize size control now => match proposeResize layout size with
    | some proposal => layout.stageProposal proposal control now
    | none => layout
  | .resolve => layout.resolvePending.2
  | .expire control now => (layout.expirePending control now).2

/-- Layers are stored under their surface, and what a proposal holds is on the layout. -/
structure Sound (layout : PersistentLiveLayout) : Prop where
  keyed : Ordered.KeyedBy LayerSnapshot.surface layout.layers
  proposed : ∀ pending, layout.pending = some pending →
    ∀ layer ∈ pending.layers, layer.surface ∈ layout.layers
  requested : ∀ pending, layout.pending = some pending →
    ∀ surface, surface ∈ pending.requestedSizes → surface ∈ layout.layers
  distinct : ∀ pending, layout.pending = some pending →
    Keyed.NodupKeys LayerSnapshot.surface pending.layers

section Observe

/-- No proposal waits for the transaction. -/
def Unawaited (layout : PersistentLiveLayout) (transaction : SurfaceTransaction) : Prop :=
  ∀ pending, layout.pending = some pending → awaitedBy pending transaction = false

/-- Everything one observed transaction can do to the layout. -/
inductive Observes (layout : PersistentLiveLayout) (index : ℕ) (transaction : SurfaceTransaction) :
    Observation × PersistentLiveLayout → Prop where
  | fenced : Observes layout index transaction (.fenced, layout)
  | staged (pending : PendingLiveWmLayout) (resize : ResizeRollbackCoordinator)
      (hp : layout.pending = some pending) (hawait : awaitedBy pending transaction = true) :
      Observes layout index transaction (.staged, { layout with
        resize
        pending := some (stageTransaction pending transaction) })
  | drawn (layer : LayerSnapshot) (resize : ResizeRollbackCoordinator)
      (hlayer : layout.layers[transaction.surface]? = some layer)
      (hnot : layout.Unawaited transaction) :
      Observes layout index transaction (.drawn, { layout with
        resize
        layers := layout.layers.insert transaction.surface (drawLayer transaction layer) })
  | created (geometry : Rect) (centerFirstSurfaceIn : Option Size)
      (resize : ResizeRollbackCoordinator) (hnone : layout.layers[transaction.surface]? = none)
      (hnot : layout.Unawaited transaction) :
      Observes layout index transaction (.created, { layout with
        resize
        centerFirstSurfaceIn
        unmanagedSurfaces := layout.unmanagedSurfaces.insert transaction.surface
        layers := layout.layers.insert transaction.surface (newLayer geometry index transaction) })

variable {layout layout' : PersistentLiveLayout} {index : ℕ} {transaction : SurfaceTransaction}
  {observation : Observation} {surface : SurfaceId}

theorem drawTransaction_observes (index : ℕ) (resize : ResizeRollbackCoordinator)
    (hnot : layout.Unawaited transaction) :
    Observes layout index transaction
      ({ layout with resize }.drawTransaction index transaction) := by
  simp only [drawTransaction]
  split
  · rename_i layer hlayer
    exact .drawn layer _ hlayer hnot
  · rename_i hnone
    exact .created _ _ _ hnone hnot

theorem observeTransaction_observes :
    Observes layout index transaction (layout.observeTransaction index transaction) := by
  unfold observeTransaction
  split
  · exact .fenced
  rename_i resize _
  simp only
  cases hp : layout.pending with
  | none =>
    have hnot : layout.Unawaited transaction := by
      intro pending' hp'
      cases hp.symm.trans hp'
    have hdraw := drawTransaction_observes index resize hnot
    simpa only [hp] using hdraw
  | some pending =>
    simp only
    split
    · rename_i hawait
      exact .staged pending resize hp hawait
    · rename_i hawait
      have hnot : layout.Unawaited transaction := by
        intro pending' hp'
        cases hp.symm.trans hp'
        simpa using hawait
      have hdraw := drawTransaction_observes index resize hnot
      simpa only [hp] using hdraw

theorem Sound.observes (hs : Sound layout)
    (h : Observes layout index transaction (observation, layout')) : Sound layout' := by
  cases h with
  | fenced => exact hs
  | staged pending resize hp hawait =>
    -- The staged copy has the surfaces the proposal had.
    have hkeys : (stageTransaction pending transaction).layers.map LayerSnapshot.surface =
        pending.layers.map LayerSnapshot.surface :=
      Keyed.map_key_modify (f := drawLayer transaction) (fun _ => rfl) _
    refine ⟨hs.keyed, ?_, ?_, ?_⟩
    · rintro _ ⟨⟩ layer hlayer
      have hmem := List.mem_map_of_mem (f := LayerSnapshot.surface) hlayer
      rw [hkeys] at hmem
      obtain ⟨old, hold, he⟩ := List.mem_map.mp hmem
      exact he ▸ hs.proposed pending hp old hold
    · rintro _ ⟨⟩ surface hreq
      exact hs.requested pending hp surface hreq
    · rintro _ ⟨⟩
      have hnodup := hs.distinct pending hp
      rwa [Keyed.NodupKeys, ← hkeys] at hnodup
  | drawn layer resize hlayer hnot =>
    have hkey : (drawLayer transaction layer).surface = transaction.surface :=
      hs.keyed transaction.surface layer hlayer
    refine ⟨?_, ?_, ?_, hs.distinct⟩
    · have hins := hs.keyed.insert (drawLayer transaction layer)
      rwa [hkey] at hins
    · exact fun p hp l hm => Ordered.mem_insert.mpr (Or.inr (hs.proposed p hp l hm))
    · exact fun p hp s hm => Ordered.mem_insert.mpr (Or.inr (hs.requested p hp s hm))
  | created geometry center resize hnone hnot =>
    refine ⟨hs.keyed.insert (newLayer geometry index transaction), ?_, ?_, hs.distinct⟩
    · exact fun p hp l hm => Ordered.mem_insert.mpr (Or.inr (hs.proposed p hp l hm))
    · exact fun p hp s hm => Ordered.mem_insert.mpr (Or.inr (hs.requested p hp s hm))

/-- Exactly the surface of an accepted transaction joins the layers. -/
theorem Observes.mem_layers (h : Observes layout index transaction (observation, layout'))
    (hs : Sound layout) :
    surface ∈ layout'.layers ↔
      surface ∈ layout.layers ∨ (observation ≠ .fenced ∧ transaction.surface = surface) := by
  cases h with
  | fenced => simp
  | staged pending resize hp hawait =>
    have hreq : pending.requestedSizes[transaction.surface]? = some (drawnSize transaction) := by
      simpa [awaitedBy] using hawait
    have hmem := hs.requested pending hp transaction.surface
      (ExtTreeMap.mem_iff_isSome_getElem?.mpr (by simp [hreq]))
    constructor
    · exact Or.inl
    · rintro (hm | ⟨-, rfl⟩)
      · exact hm
      · exact hmem
  | drawn layer resize hlayer hnot =>
    rw [Ordered.mem_insert]
    simp [or_comm]
  | created geometry center resize hnone hnot =>
    rw [Ordered.mem_insert]
    simp [or_comm]

theorem Observes.unmanaged (h : Observes layout index transaction (observation, layout'))
    (hu : ∀ s ∈ layout.unmanagedSurfaces, s ∈ layout.layers) :
    ∀ s ∈ layout'.unmanagedSurfaces, s ∈ layout'.layers := by
  cases h with
  | fenced => exact hu
  | staged pending resize hp hawait => exact hu
  | drawn layer resize hlayer hnot =>
    exact fun s hm => Ordered.mem_insert.mpr (Or.inr (hu s hm))
  | created geometry center resize hnone hnot =>
    intro s hm
    rw [ExtTreeSet.mem_insert, LawfulEqCmp.compare_eq_iff_eq] at hm
    rcases hm with he | hm
    · exact Ordered.mem_insert.mpr (Or.inl he)
    · exact Ordered.mem_insert.mpr (Or.inr (hu s hm))

theorem Sound.removeSurfaces (hs : Sound layout) (removed : List SurfaceId) :
    Sound (layout.removeSurfaces removed) := by
  unfold PersistentLiveLayout.removeSurfaces
  split
  · exact hs
  refine ⟨hs.keyed.filter _, ?_, ?_, ?_⟩
  · intro pending hp layer hm
    obtain ⟨old, hold, rfl⟩ := Option.map_eq_some_iff.mp hp
    rw [List.mem_filter] at hm
    rw [Ordered.mem_filter_key]
    exact ⟨hs.proposed old hold layer hm.1, hm.2⟩
  · intro pending hp surface hm
    obtain ⟨old, hold, rfl⟩ := Option.map_eq_some_iff.mp hp
    rw [Ordered.mem_filter_key] at hm ⊢
    exact ⟨hs.requested old hold surface hm.1, hm.2⟩
  · intro pending hp
    obtain ⟨old, hold, rfl⟩ := Option.map_eq_some_iff.mp hp
    exact (hs.distinct old hold).filter _

theorem mem_layers_removeSurfaces {removed : List SurfaceId} :
    surface ∈ (layout.removeSurfaces removed).layers ↔
      surface ∈ layout.layers ∧ surface ∉ removed := by
  unfold removeSurfaces
  split
  · rename_i he
    simp [List.isEmpty_iff.mp he]
  · rw [Ordered.mem_filter_key]
    simp

theorem unmanaged_removeSurfaces {removed : List SurfaceId}
    (hu : ∀ s ∈ layout.unmanagedSurfaces, s ∈ layout.layers) :
    ∀ s ∈ (layout.removeSurfaces removed).unmanagedSurfaces,
      s ∈ (layout.removeSurfaces removed).layers := by
  intro s hm
  rw [mem_layers_removeSurfaces]
  unfold removeSurfaces at hm
  split at hm
  · rename_i he
    exact ⟨hu s hm, by simp [List.isEmpty_iff.mp he]⟩
  · rw [Ordered.mem_filter_set] at hm
    exact ⟨hu s hm.1, by simpa using hm.2⟩

/-- The surfaces of the transactions that got past the resize fence. -/
def acceptedSurfaces (observations : List (SurfaceTransaction × Observation)) : List SurfaceId :=
  (observations.filter fun (_, observation) => observation ≠ .fenced).map fun (t, _) => t.surface

theorem observeTransactions_spec (hs : Sound layout) (transactions : List (SurfaceTransaction × ℕ)) :
    Sound (layout.observeTransactions transactions).2 ∧
    (∀ surface, surface ∈ (layout.observeTransactions transactions).2.layers ↔
      surface ∈ layout.layers ∨
        surface ∈ acceptedSurfaces (layout.observeTransactions transactions).1) ∧
    ((∀ s ∈ layout.unmanagedSurfaces, s ∈ layout.layers) →
      ∀ s ∈ (layout.observeTransactions transactions).2.unmanagedSurfaces,
        s ∈ (layout.observeTransactions transactions).2.layers) := by
  induction transactions generalizing layout with
  | nil => exact ⟨hs, by simp [observeTransactions, acceptedSurfaces], fun h => h⟩
  | cons entry rest ih =>
    obtain ⟨transaction, index⟩ := entry
    rcases hone : layout.observeTransaction index transaction with ⟨observation, next⟩
    have hobs : Observes layout index transaction (observation, next) :=
      hone ▸ observeTransaction_observes
    obtain ⟨hsound, hmem, hman⟩ := ih (hs.observes hobs)
    simp only [observeTransactions, hone]
    refine ⟨hsound, fun surface => ?_, fun hu => hman (hobs.unmanaged hu)⟩
    rw [hmem, hobs.mem_layers hs]
    by_cases ho : observation = .fenced
    · simp [acceptedSurfaces, ho]
    · have haccept : acceptedSurfaces ((transaction, observation) ::
          (next.observeTransactions rest).1) =
          transaction.surface :: acceptedSurfaces (next.observeTransactions rest).1 := by
        simp [acceptedSurfaces, ho]
      rw [haccept, List.mem_cons, @eq_comm _ surface, or_assoc]
      simp [ho]

end Observe

section Stage

variable {layout layout' : PersistentLiveLayout} {proposal : LiveWmProposal} {control : Control}
  {now : ℕ} {surface : SurfaceId}

/-- A proposal for exactly the windows of the layout: every layer keeps its pixels, and its
generation does not go down. -/
structure Proposes (layout : PersistentLiveLayout) (proposal : LiveWmProposal) : Prop where
  moved : List.Forall₂ Moved (Ordered.values layout.layers) proposal.layers
  requested : ∀ surface, surface ∈ proposal.requestedSizes → surface ∈ layout.layers

theorem Proposes.surfaces (h : Proposes layout proposal) :
    proposal.layers.map LayerSnapshot.surface =
      (Ordered.values layout.layers).map LayerSnapshot.surface :=
  (Keyed.map_key_of_forall₂ (fun _ _ hm => hm.surface) h.moved).symm

theorem moved_sizeLayer (size : Size) (layer : LayerSnapshot) : Moved layer (sizeLayer size layer) :=
  ⟨rfl, rfl, UInt64.le_refl _⟩

theorem surfaces_values (hk : Ordered.KeyedBy LayerSnapshot.surface layout.layers)
    (surface : SurfaceId) :
    surface ∈ (Ordered.values layout.layers).map LayerSnapshot.surface ↔
      surface ∈ layout.layers := by
  rw [List.mem_map, ExtTreeMap.mem_iff_isSome_getElem?]
  constructor
  · rintro ⟨layer, hm, rfl⟩
    rw [hk.mem_values_iff.mp hm, Option.isSome_some]
  · intro hm
    obtain ⟨layer, hl⟩ := Option.isSome_iff_exists.mp hm
    exact ⟨layer, Ordered.mem_values.mpr ⟨surface, hl⟩, hk surface layer hl⟩

theorem proposeLayout_proposes {transaction : LayoutTransaction Transform} {bounds : Rect}
    {effects : Option LiveWmCommitEffects}
    (h : proposeLayout layout transaction bounds effects = .ok proposal) :
    Proposes layout proposal := by
  rw [proposeLayout, Fallible.bind_eq_ok] at h
  obtain ⟨_, hvalid, h⟩ := h
  -- The requested sizes were all checked against the layers.
  have hsizes : ∀ request ∈ transaction.requestedSizes, request.surface ∈ layout.layers := by
    unfold validateLiveWmTransaction at hvalid
    split at hvalid
    · cases hvalid
    split at hvalid
    · cases hvalid
    rename_i hall
    intro request hm
    simp only [Bool.not_eq_true', Bool.not_eq_false, List.all_eq_true, Bool.and_eq_true] at hall
    exact (hall request hm).1.1.1.1
  have hmoved := moved_commitLayoutTransaction transaction (Ordered.values layout.layers)
  rcases hcommit : commitLayoutTransaction transaction (Ordered.values layout.layers) with
    ⟨commit, proposed⟩
  rw [hcommit] at h hmoved
  simp only at h hmoved
  split at h
  · cases h
  cases h
  refine ⟨hmoved, fun surface hm => ?_⟩
  · rw [ExtTreeMap.mem_ofList, List.map_map, List.contains_iff_mem, List.mem_map] at hm
    obtain ⟨request, hreq, rfl⟩ := hm
    exact hsizes request hreq

theorem proposeResize_proposes {size : Size} (h : proposeResize layout size = some proposal) :
    Proposes layout proposal := by
  obtain ⟨surface, hmin, rfl⟩ := Option.map_eq_some_iff.mp h
  refine ⟨?_, fun s hm => ?_⟩
  · exact Keyed.forall₂_modify Moved.refl (moved_sizeLayer _) _ _
  · rw [Ordered.mem_insert] at hm
    rcases hm with rfl | hm
    · exact ExtTreeMap.mem_keys.mp (List.mem_of_head? hmin)
    · simp at hm

theorem Proposes.reduceProposal (h : Proposes layout proposal) :
    Proposes layout (layout.reduceProposal proposal) := by
  refine ⟨?_, fun surface hm => ?_⟩
  · have hfold : ∀ (requests : List (SurfaceId × Size)) (layers : List LayerSnapshot),
        List.Forall₂ Moved (Ordered.values layout.layers) layers →
        List.Forall₂ Moved (Ordered.values layout.layers)
          (requests.foldl (restoreRefused layout.resize) layers) := by
      intro requests
      induction requests with
      | nil => exact fun _ hm => hm
      | cons request rest ih =>
        intro layers hm
        rw [List.foldl_cons]
        refine ih _ ?_
        simp only [restoreRefused]
        split
        · exact hm
        split
        · exact hm
        · exact Keyed.forall₂_trans (S := Moved) (fun _ _ _ => Moved.trans) hm
            (Keyed.forall₂_modify Moved.refl (moved_sizeLayer _) _ _)
    exact hfold _ _ h.moved
  · have hmem : surface ∈ proposal.requestedSizes := by
      rw [PersistentLiveLayout.reduceProposal, ExtTreeMap.mem_filter] at hm
      exact hm.1
    exact h.requested surface hmem

/-- Staging does nothing, commits the reduced proposal, or leaves it pending. -/
inductive Stages (layout : PersistentLiveLayout) (proposal : LiveWmProposal) (now : ℕ) :
    Option LiveWmCommitResult × PersistentLiveLayout → Prop where
  | busy (hp : layout.pending.isSome = true) : Stages layout proposal now (none, layout)
  | committed (hp : layout.pending = none) :
      Stages layout proposal now
        (some (layout.commitPending (proposedLayout (layout.reduceProposal proposal) now)).1,
          (layout.commitPending (proposedLayout (layout.reduceProposal proposal) now)).2)
  | waits (hp : layout.pending = none) :
      Stages layout proposal now (none, { layout with
        pending := some (proposedLayout (layout.reduceProposal proposal)
          (now + proposal.timeout)) })

theorem stage_stages {result : Option LiveWmCommitResult × PersistentLiveLayout}
    (h : layout.stage proposal control now = .ok result) : Stages layout proposal now result := by
  unfold stage at h
  split at h
  · rename_i hp
    cases h
    exact .busy hp
  rename_i hp
  have hp : layout.pending = none := by simpa using hp
  rw [Fallible.bind_eq_ok] at h
  obtain ⟨_, -, h⟩ := h
  simp only at h
  split at h
  · cases h
    exact .committed hp
  · cases h
    exact .waits hp

theorem mem_layers_commitPending {pending : PendingLiveWmLayout} :
    surface ∈ (layout.commitPending pending).2.layers ↔
      surface ∈ pending.layers.map LayerSnapshot.surface := by
  rw [commitPending, Ordered.mem_ofList_map, List.mem_map]

theorem Sound.commitPending (pending : PendingLiveWmLayout) (hp : layout.pending = none) :
    Sound (layout.commitPending pending).2 := by
  refine ⟨Ordered.KeyedBy.ofList _ _, ?_, ?_, ?_⟩
  · intro p he
    cases hp.symm.trans he
  · intro p he
    cases hp.symm.trans he
  · intro p he
    cases hp.symm.trans he

theorem Sound.stages (hs : Sound layout) (hprop : Proposes layout proposal)
    {result : Option LiveWmCommitResult} (h : Stages layout proposal now (result, layout')) :
    Sound layout' := by
  cases h with
  | busy hp => exact hs
  | committed hp => exact .commitPending _ hp
  | waits hp =>
    have hsurfaces := hprop.reduceProposal.surfaces
    refine ⟨hs.keyed, ?_, ?_, ?_⟩
    · rintro _ ⟨⟩ layer hm
      have hmem := List.mem_map_of_mem (f := LayerSnapshot.surface) hm
      rw [proposedLayout, hsurfaces] at hmem
      exact (surfaces_values hs.keyed _).mp hmem
    · rintro _ ⟨⟩ surface hm
      exact hprop.reduceProposal.requested surface hm
    · rintro _ ⟨⟩
      have hnodup := hs.keyed.nodup_values
      rwa [Keyed.NodupKeys, ← hsurfaces] at hnodup

/-- A staged proposal keeps exactly the windows it found, committed or not. -/
theorem Stages.mem_layers (hs : Sound layout) (hprop : Proposes layout proposal) {result : Option LiveWmCommitResult}
    (h : Stages layout proposal now (result, layout')) :
    (∀ surface, surface ∈ layout'.layers ↔ surface ∈ layout.layers) ∧
      layout'.unmanagedSurfaces = layout.unmanagedSurfaces := by
  cases h with
  | busy hp => exact ⟨fun _ => Iff.rfl, rfl⟩
  | committed hp =>
    refine ⟨fun surface => ?_, rfl⟩
    rw [mem_layers_commitPending, proposedLayout, hprop.reduceProposal.surfaces]
    exact surfaces_values hs.keyed surface
  | waits hp => exact ⟨fun _ => Iff.rfl, rfl⟩

end Stage

section Step

variable {layout : PersistentLiveLayout} {surface : SurfaceId}

theorem sound_new (offset : Bool) (center : Option Size) : Sound (new offset center) := by
  have hnone : (new offset center).pending = none := rfl
  refine ⟨Ordered.keyedBy_empty, ?_, ?_, ?_⟩
  · intro pending he
    cases hnone.symm.trans he
  · intro pending he
    cases hnone.symm.trans he
  · intro pending he
    cases hnone.symm.trans he

/-- Expiry drops the proposal and touches no layer. -/
theorem expirePending_spec (layout : PersistentLiveLayout) (control : Control) (now : ℕ) :
    (layout.expirePending control now).2.layers = layout.layers ∧
      (layout.expirePending control now).2.unmanagedSurfaces = layout.unmanagedSurfaces ∧
      ((layout.expirePending control now).2.pending = layout.pending ∨
        (layout.expirePending control now).2.pending = none) := by
  unfold expirePending
  split
  · exact ⟨rfl, rfl, Or.inl rfl⟩
  split
  · exact ⟨rfl, rfl, Or.inl rfl⟩
  split
  · exact ⟨rfl, rfl, Or.inr rfl⟩
  simp only
  split
  · exact ⟨rfl, rfl, Or.inr rfl⟩
  · exact ⟨rfl, rfl, Or.inr rfl⟩

theorem Sound.expirePending (hs : Sound layout) (control : Control) (now : ℕ) :
    Sound (layout.expirePending control now).2 := by
  obtain ⟨hl, -, hp⟩ := expirePending_spec layout control now
  refine ⟨hl ▸ hs.keyed, ?_, ?_, ?_⟩
  · intro pending he layer hm
    rw [hl]
    rcases hp with hp | hp
    · exact hs.proposed pending (hp ▸ he) layer hm
    · cases hp.symm.trans he
  · intro pending he surface hm
    rw [hl]
    rcases hp with hp | hp
    · exact hs.requested pending (hp ▸ he) surface hm
    · cases hp.symm.trans he
  · intro pending he
    rcases hp with hp | hp
    · exact hs.distinct pending (hp ▸ he)
    · cases hp.symm.trans he

theorem Sound.resolvePending (hs : Sound layout) : Sound layout.resolvePending.2 := by
  unfold PersistentLiveLayout.resolvePending
  split
  · exact hs
  split
  · exact .commitPending _ rfl
  · exact hs

theorem Sound.takeNextUnmanagedSurface (hs : Sound layout) :
    Sound layout.takeNextUnmanagedSurface.2 := by
  unfold PersistentLiveLayout.takeNextUnmanagedSurface
  split
  · exact hs
  · exact ⟨hs.keyed, hs.proposed, hs.requested, hs.distinct⟩

theorem stageProposal_spec {proposal : LiveWmProposal} (hs : Sound layout)
    (hprop : Proposes layout proposal) (control : Control) (now : ℕ) :
    Sound (layout.stageProposal proposal control now) ∧
      (∀ s, s ∈ (layout.stageProposal proposal control now).layers ↔ s ∈ layout.layers) ∧
      (layout.stageProposal proposal control now).unmanagedSurfaces =
        layout.unmanagedSurfaces := by
  unfold stageProposal
  split
  · rename_i result next hok
    have hst := stage_stages hok
    exact ⟨hs.stages hprop hst, hst.mem_layers hs hprop⟩
  · exact ⟨hs, fun _ => Iff.rfl, rfl⟩

theorem Sound.step (hs : Sound layout) (a : LayoutAction) : Sound (layout.step a) := by
  cases a with
  | observe batch =>
    have hs' : Sound { layout with clientRoutes := layout.clientRoutes.observe batch } :=
      ⟨hs.keyed, hs.proposed, hs.requested, hs.distinct⟩
    exact (observeTransactions_spec (hs'.removeSurfaces _) _).1
  | takeNextUnmanaged => exact hs.takeNextUnmanagedSurface
  | stage transaction bounds effects control now =>
    simp only [PersistentLiveLayout.step]
    split
    · rename_i proposal hp
      exact (stageProposal_spec hs (proposeLayout_proposes hp) control now).1
    · exact hs
  | stageResize size control now =>
    simp only [PersistentLiveLayout.step]
    split
    · rename_i proposal hp
      exact (stageProposal_spec hs (proposeResize_proposes hp) control now).1
    · exact hs
  | resolve => exact hs.resolvePending
  | expire control now => exact hs.expirePending control now

end Step
end PersistentLiveLayout

/-- The layout together with the surfaces accepted from some batch and not removed since. -/
structure TrackedLayout where
  layout : PersistentLiveLayout
  accepted : ExtTreeSet SurfaceId := ∅

namespace TrackedLayout

open PersistentLiveLayout

def step (tracked : TrackedLayout) (a : LayoutAction) : TrackedLayout where
  layout := tracked.layout.step a
  accepted := match a with
    | .observe batch =>
      (tracked.accepted.filter fun surface => surface ∉ batch.removedSurfaces).insertMany
        (acceptedSurfaces (tracked.layout.observeAuthorityBatch batch).1)
    | _ => tracked.accepted

/-- The layers are those of the accepted surfaces, and every unmanaged surface has one. -/
structure Windows (tracked : TrackedLayout) : Prop where
  layers : ∀ surface, surface ∈ tracked.layout.layers ↔ surface ∈ tracked.accepted
  unmanaged : ∀ surface, surface ∈ tracked.layout.unmanagedSurfaces →
    surface ∈ tracked.layout.layers

/-- A proposal that is ready to commit holds every window there is by then. -/
def KeepsWindows (tracked : TrackedLayout) : LayoutAction → Prop
  | .resolve => ∀ pending, tracked.layout.pending = some pending → pendingReady pending = true →
    ∀ surface, surface ∈ tracked.layout.layers →
      surface ∈ pending.layers.map LayerSnapshot.surface
  | _ => True

variable {tracked : TrackedLayout}

theorem Windows.of_same {layout' : PersistentLiveLayout} (h : Windows tracked)
    (hl : ∀ s, s ∈ layout'.layers ↔ s ∈ tracked.layout.layers)
    (hu : ∀ s, s ∈ layout'.unmanagedSurfaces → s ∈ tracked.layout.unmanagedSurfaces) :
    Windows { tracked with layout := layout' } :=
  ⟨fun s => (hl s).trans (h.layers s), fun s hm => (hl s).mpr (h.unmanaged s (hu s hm))⟩

theorem Windows.observe (h : Windows tracked) (hs : Sound tracked.layout)
    (batch : XAuthorityObservedTransactionBatch) : Windows (tracked.step (.observe batch)) := by
  have hs' : Sound { tracked.layout with
      clientRoutes := tracked.layout.clientRoutes.observe batch } :=
    ⟨hs.keyed, hs.proposed, hs.requested, hs.distinct⟩
  obtain ⟨-, hmem, hman⟩ := observeTransactions_spec (hs'.removeSurfaces batch.removedSurfaces)
    batch.transactions.zipIdx
  refine ⟨fun surface => ?_, hman (unmanaged_removeSurfaces h.unmanaged)⟩
  have hlive := hmem surface
  rw [mem_layers_removeSurfaces] at hlive
  refine hlive.trans ?_
  show _ ↔ surface ∈ ExtTreeSet.insertMany _ _
  rw [ExtTreeSet.mem_insertMany_list, Ordered.mem_filter_set, List.contains_iff_mem]
  refine or_congr ?_ Iff.rfl
  rw [decide_eq_true_iff]
  exact and_congr (h.layers surface) Iff.rfl

theorem Windows.resolve_iff (h : Windows tracked) (hs : Sound tracked.layout) :
    Windows (tracked.step .resolve) ↔ tracked.KeepsWindows .resolve := by
  simp only [KeepsWindows, step, PersistentLiveLayout.step, resolvePending]
  cases hp : tracked.layout.pending with
  | none =>
    refine iff_of_true h ?_
    intro pending he
    cases he
  | some pending =>
    simp only
    by_cases hr : pendingReady pending = true
    · rw [if_pos hr]
      constructor
      · rintro hw _ ⟨⟩ - surface hm
        exact mem_layers_commitPending.mp ((hw.layers surface).mpr ((h.layers surface).mp hm))
      · intro hk
        have hsame : ∀ surface, surface ∈ pending.layers.map LayerSnapshot.surface ↔
            surface ∈ tracked.layout.layers := by
          intro surface
          refine ⟨fun hm => ?_, hk pending rfl hr surface⟩
          obtain ⟨layer, hlayer, rfl⟩ := List.mem_map.mp hm
          exact hs.proposed pending hp layer hlayer
        exact h.of_same (fun s => mem_layers_commitPending.trans (hsame s)) (fun _ hm => hm)
    · rw [if_neg hr]
      refine iff_of_true h ?_
      rintro _ ⟨⟩ hready
      exact absurd hready hr

theorem windows_step_iff (h : Windows tracked) (hs : Sound tracked.layout) (a : LayoutAction) :
    Windows (tracked.step a) ↔ tracked.KeepsWindows a := by
  cases a with
  | observe batch => exact iff_of_true (h.observe hs batch) trivial
  | takeNextUnmanaged =>
    refine iff_of_true (h.of_same (fun s => ?_) fun s hm => ?_) trivial
    · simp only [PersistentLiveLayout.step, takeNextUnmanagedSurface]
      split <;> rfl
    · simp only [PersistentLiveLayout.step, takeNextUnmanagedSurface] at hm
      split at hm
      · exact hm
      · exact (ExtTreeSet.mem_erase.mp hm).2
  | stage transaction bounds effects control now =>
    refine iff_of_true ?_ trivial
    simp only [step, PersistentLiveLayout.step]
    split
    · rename_i proposal hp
      obtain ⟨-, hl, hu⟩ := stageProposal_spec hs (proposeLayout_proposes hp) control now
      exact h.of_same hl fun s hm => hu ▸ hm
    · exact h
  | stageResize size control now =>
    refine iff_of_true ?_ trivial
    simp only [step, PersistentLiveLayout.step]
    split
    · rename_i proposal hp
      obtain ⟨-, hl, hu⟩ := stageProposal_spec hs (proposeResize_proposes hp) control now
      exact h.of_same hl fun s hm => hu ▸ hm
    · exact h
  | resolve => exact h.resolve_iff hs
  | expire control now =>
    obtain ⟨hl, hu, -⟩ := expirePending_spec tracked.layout control now
    exact iff_of_true (h.of_same (fun s => by rw [PersistentLiveLayout.step, hl])
      fun s hm => hu ▸ hm) trivial

/-- Along every interleaving of calls on a new layout, whatever the control channel does: its layers
are exactly those of the windows accepted and not removed, and every unmanaged window has one, if
and only if every proposal that commits holds all the windows seen by then. -/
theorem no_window_lost_iff (offset : Bool) (center : Option Size) (actions : List LayoutAction) :
    Run.Throughout step (fun _ tracked => Windows tracked) ⟨new offset center, ∅⟩ actions ↔
      Run.Guarded step KeepsWindows ⟨new offset center, ∅⟩ actions := by
  show _ ↔ Run.GuardedBy step (fun _ => KeepsWindows) ⟨new offset center, ∅⟩ actions
  refine Run.throughout_iff ?_ ?_
  · exact ⟨fun s => by simp [new], fun s hm => by simp [new] at hm⟩
  · intro before a after _ hw
    refine windows_step_iff hw ?_ a
    exact Run.invariant (P := fun tracked : TrackedLayout => Sound tracked.layout)
      (sound_new offset center) (fun _ a _ hs => hs.step a) Run.guarded_true

/-- A batch of one client with one CPU draw at the origin. -/
def drawBatch (surface : SurfaceId) (size : Size) (previous handle : UInt64) :
    XAuthorityObservedTransactionBatch where
  client := some ⟨1⟩
  transactions := [{ SurfaceTransaction.draw ⟨handle⟩ surface previous handle with
    targetGeometry := ⟨0, 0, size.width, size.height⟩ }]
  removedSurfaces := []

/-- A control channel that delivers one configure of a surface. -/
def deliveringControl (transaction : TransactionId) (surface : SurfaceId) : Control where
  takes _ := true
  acknowledgements := [⟨⟨1⟩, ⟨transaction, surface, .delivered⟩⟩]

/-- A second window is drawn while the first one's resize is pending; the commit drops it. -/
def lostWindowRun : List LayoutAction :=
  [.observe (drawBatch ⟨0, 1⟩ ⟨8, 8⟩ 0 1),
    .stage ⟨⟨1⟩, [⟨⟨0, 1⟩, ⟨16, 16⟩⟩], none, [], 100⟩ ⟨0, 0, 64, 64⟩ none
      (deliveringControl ⟨1⟩ ⟨0, 1⟩) 0,
    .observe (drawBatch ⟨1, 1⟩ ⟨8, 8⟩ 0 2),
    .observe (drawBatch ⟨0, 1⟩ ⟨16, 16⟩ 1 3),
    .resolve]

theorem pending_commit_loses_window :
    ¬ Windows (Run.exec step ⟨new false none, ∅⟩ lostWindowRun) := by
  intro h
  have hlayer := (h.layers ⟨1, 1⟩).mpr (by decide +kernel)
  revert hlayer
  decide +kernel

end TrackedLayout
end Sophia.Session
