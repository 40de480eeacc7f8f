import Sophia.Session.LayoutWindows
import Sophia.Session.ResizeQuarantine

/-! The calls the live layout makes on its coordinator. -/
namespace Sophia.Session

open Std Sophia.Protocol Sophia.Engine

/-- The session runs the layout's coordinator, and what a proposal has staged was accepted. -/
structure Follows (layout : PersistentLiveLayout) (session : ResizeSession) : Prop where
  resize : session.resize = layout.resize
  staged : ∀ pending, layout.pending = some pending →
    ∀ transaction ∈ Ordered.values pending.stagedTransactions,
      (transaction.surface, drawnSize transaction) ∈ session.accepted

/-- Driven calls take the session to one that the layout follows. -/
def Drives (session : ResizeSession) (layout : PersistentLiveLayout) : Prop :=
  ∃ actions, Run.Guarded ResizeSession.step ResizeSession.Driven session actions ∧
    Follows layout (Run.exec ResizeSession.step session actions)

namespace Follows

variable {layout : PersistentLiveLayout} {session : ResizeSession}

theorem drives (h : Follows layout session) : Drives session layout :=
  ⟨[], Run.guarded_nil, h⟩

theorem congr (h : Follows layout session) {next : PersistentLiveLayout}
    (hresize : next.resize = layout.resize) (hpending : next.pending = layout.pending) :
    Follows next session :=
  ⟨h.resize.trans hresize.symm, by rw [hpending]; exact h.staged⟩

/-- With nothing pending only the coordinators have to agree. -/
theorem idle (hpending : layout.pending = none) (hresize : session.resize = layout.resize) :
    Follows layout session := by
  refine ⟨hresize, fun pending h => ?_⟩
  rw [hpending] at h
  cases h

end Follows

theorem Drives.trans {session : ResizeSession} {layout next : PersistentLiveLayout}
    (h : Drives session layout)
    (hnext : ∀ session, Follows layout session → Drives session next) : Drives session next := by
  obtain ⟨actions, hguarded, hfollows⟩ := h
  obtain ⟨more, hmore, hnext⟩ := hnext _ hfollows
  refine ⟨actions ++ more, hguarded.append hmore, ?_⟩
  rwa [Run.exec_append]

theorem Drives.cons {session : ResizeSession} (action : ResizeAction)
    {layout : PersistentLiveLayout} (hdriven : session.Driven action)
    (h : Drives (session.step action) layout) : Drives session layout := by
  obtain ⟨actions, hguarded, hfollows⟩ := h
  exact ⟨action :: actions, .cons hdriven hguarded, hfollows⟩

namespace ResizeSession

variable {session : ResizeSession}

/-- Observations that were accepted are recorded one after the other. -/
theorem exec_records {transactions : List SurfaceTransaction}
    (h : ∀ transaction ∈ transactions,
      (transaction.surface, drawnSize transaction) ∈ session.accepted) :
    let actions := transactions.map fun transaction =>
      ResizeAction.recordCommitted transaction.surface (drawnSize transaction)
    Run.Guarded step Driven session actions ∧
      Run.exec step session actions = { session with
        resize := transactions.foldl (fun resize transaction =>
          resize.recordCommitted transaction.surface (drawnSize transaction)) session.resize } := by
  induction transactions generalizing session with
  | nil => exact ⟨Run.guarded_nil, rfl⟩
  | cons transaction rest ih =>
    have hrest := @ih (session.step (.recordCommitted transaction.surface (drawnSize transaction)))
      fun other hm => h other (List.mem_cons_of_mem _ hm)
    exact ⟨.cons (h transaction List.mem_cons_self) hrest.1, hrest.2⟩

theorem exec_removes (surfaces : List SurfaceId) :
    Run.Guarded step Driven session (surfaces.map .remove) ∧
      Run.exec step session (surfaces.map .remove) = { session with
        resize := surfaces.foldl ResizeRollbackCoordinator.remove session.resize } := by
  induction surfaces generalizing session with
  | nil => exact ⟨Run.guarded_nil, rfl⟩
  | cons surface rest ih =>
    have hrest := @ih (session.step (.remove surface))
    exact ⟨.cons trivial hrest.1, hrest.2⟩

end ResizeSession

namespace Follows

variable {layout : PersistentLiveLayout} {session : ResizeSession}

theorem removeSurfaces (h : Follows layout session) (removed : List SurfaceId) :
    Drives session (layout.removeSurfaces removed) := by
  unfold PersistentLiveLayout.removeSurfaces
  split
  · exact h.drives
  · obtain ⟨hguarded, hexec⟩ := @ResizeSession.exec_removes session removed
    refine ⟨removed.map .remove, hguarded, ?_⟩
    rw [hexec]
    refine ⟨by rw [← h.resize], fun pending hp => ?_⟩
    obtain ⟨pending, hpending, rfl⟩ := Option.map_eq_some_iff.mp hp
    exact h.staged pending hpending

theorem commitPending (h : Follows layout session) {pending : PendingLiveWmLayout}
    (hp : layout.pending = none)
    (hstaged : ∀ transaction ∈ Ordered.values pending.stagedTransactions,
      (transaction.surface, drawnSize transaction) ∈ session.accepted) :
    Drives session (layout.commitPending pending).2 := by
  obtain ⟨hguarded, hexec⟩ := ResizeSession.exec_records hstaged
  refine ⟨_, hguarded, ?_⟩
  rw [hexec]
  refine ⟨by rw [PersistentLiveLayout.commitPending, h.resize], fun other hother => ?_⟩
  cases hp.symm.trans hother

theorem drawTransaction (h : Follows layout session) (index : ℕ) (transaction : SurfaceTransaction)
    (haccepted : (transaction.surface, drawnSize transaction) ∈ session.accepted) :
    Drives session (layout.drawTransaction index transaction).2 := by
  have hresize : (layout.drawTransaction index transaction).2.resize =
      layout.resize.recordCommitted transaction.surface (drawnSize transaction) := by
    unfold PersistentLiveLayout.drawTransaction
    simp only
    split <;> rfl
  have hpending : (layout.drawTransaction index transaction).2.pending = layout.pending := by
    unfold PersistentLiveLayout.drawTransaction
    simp only
    split <;> rfl
  refine ⟨[.recordCommitted transaction.surface (drawnSize transaction)],
    .cons haccepted Run.guarded_nil, ?_, ?_⟩
  · rw [hresize, ← h.resize]
    rfl
  · rw [hpending]
    exact h.staged

theorem observeTransaction (h : Follows layout session) (index : ℕ)
    (transaction : SurfaceTransaction) :
    Drives session (layout.observeTransaction index transaction).2 := by
  refine .cons (.acceptObservation transaction.surface (drawnSize transaction)) trivial ?_
  have hrefused := @ResizeRollbackCoordinator.acceptObservation_refused layout.resize
    transaction.surface (drawnSize transaction)
  simp only [ResizeSession.step, PersistentLiveLayout.observeTransaction, h.resize]
  generalize layout.resize.acceptObservation transaction.surface (drawnSize transaction) = result
    at hrefused ⊢
  obtain ⟨_ | _, resize⟩ := result
  · exact drives ⟨hrefused rfl, h.staged⟩
  · have hfollows : Follows { layout with resize } { session with
        resize
        accepted := (transaction.surface, drawnSize transaction) :: session.accepted } :=
      ⟨rfl, fun pending hp other hm => List.mem_cons_of_mem _ (h.staged pending hp other hm)⟩
    simp only
    cases hp : layout.pending with
    | none =>
      have hdrawn := hfollows.drawTransaction index transaction List.mem_cons_self
      simpa only [hp] using hdrawn
    | some pending =>
      simp only
      split
      · refine drives ⟨rfl, ?_⟩
        rintro _ ⟨⟩ other hm
        obtain ⟨surface, hsurface⟩ := Ordered.mem_values.mp hm
        simp only [PersistentLiveLayout.stageTransaction, ExtTreeMap.getElem?_insert] at hsurface
        split at hsurface
        · cases hsurface
          exact List.mem_cons_self
        · exact hfollows.staged pending hp other (Ordered.mem_values.mpr ⟨surface, hsurface⟩)
      · have hdrawn := hfollows.drawTransaction index transaction List.mem_cons_self
        simpa only [hp] using hdrawn

theorem observeTransactions (h : Follows layout session)
    (transactions : List (SurfaceTransaction × ℕ)) :
    Drives session (layout.observeTransactions transactions).2 := by
  induction transactions generalizing layout session with
  | nil => exact h.drives
  | cons entry rest ih =>
    obtain ⟨transaction, index⟩ := entry
    exact (h.observeTransaction index transaction).trans fun session hfollows => ih hfollows

theorem stageProposal (h : Follows layout session) (proposal : LiveWmProposal) (control : Control)
    (now : ℕ) : Drives session (layout.stageProposal proposal control now) := by
  unfold PersistentLiveLayout.stageProposal
  split
  · rename_i result next hstage
    have hstages := PersistentLiveLayout.stage_stages hstage
    have hnone (deadline : ℕ) : ∀ transaction ∈ Ordered.values
        (PersistentLiveLayout.proposedLayout (layout.reduceProposal proposal) deadline).stagedTransactions,
        (transaction.surface, drawnSize transaction) ∈ session.accepted := by
      intro transaction hm
      obtain ⟨surface, hsurface⟩ := Ordered.mem_values.mp hm
      simp [PersistentLiveLayout.proposedLayout] at hsurface
    cases hstages with
    | busy hp => exact h.drives
    | committed hp => exact h.commitPending hp (hnone now)
    | waits hp =>
      refine drives ⟨h.resize, ?_⟩
      rintro _ ⟨⟩
      exact hnone _
  · exact h.drives

theorem expirePending (h : Follows layout session) (control : Control) (now : ℕ) :
    Drives session (layout.expirePending control now).2 := by
  unfold PersistentLiveLayout.expirePending
  cases hp : layout.pending with
  | none => exact h.drives
  | some pending =>
    simp only
    split
    · exact h.drives
    refine .cons (.beginRollback pending.requestedSizes) trivial ?_
    simp only [ResizeSession.step, h.resize]
    generalize layout.resize.beginRollback pending.requestedSizes.toList = result
    obtain ⟨_ | rollback, resize⟩ := result
    · exact drives (idle rfl rfl)
    · simp only
      split
      · exact drives (idle rfl rfl)
      · exact drives (idle rfl rfl)

/-- Every call of the layout makes driven calls on its coordinator. -/
theorem step (h : Follows layout session) (action : LayoutAction) :
    Drives session (layout.step action) := by
  cases action with
  | observe batch =>
    have hroutes : Follows { layout with clientRoutes := layout.clientRoutes.observe batch } session :=
      h.congr rfl rfl
    exact (hroutes.removeSurfaces batch.removedSurfaces).trans fun _ hfollows =>
      hfollows.observeTransactions batch.transactions.zipIdx
  | takeNextUnmanaged =>
    simp only [PersistentLiveLayout.step, PersistentLiveLayout.takeNextUnmanagedSurface]
    split
    · exact h.drives
    · exact drives ⟨h.resize, h.staged⟩
  | stage transaction bounds effects control now =>
    simp only [PersistentLiveLayout.step]
    split
    · exact h.stageProposal _ control now
    · exact h.drives
  | stageResize size control now =>
    simp only [PersistentLiveLayout.step]
    split
    · exact h.stageProposal _ control now
    · exact h.drives
  | resolve =>
    simp only [PersistentLiveLayout.step, PersistentLiveLayout.resolvePending]
    cases hp : layout.pending with
    | none => exact h.drives
    | some pending =>
      simp only
      split
      · have hfollows : Follows { layout with pending := none } session := idle rfl h.resize
        exact hfollows.commitPending rfl (h.staged pending hp)
      · exact h.drives
  | expire control now => exact h.expirePending control now

end Follows

/-- The coordinator of a layout is in a state that a driven run reaches. -/
theorem layout_driven (offset : Bool) (center : Option Size) (actions : List LayoutAction) :
    Drives {} (Run.exec PersistentLiveLayout.step (PersistentLiveLayout.new offset center)
      actions) := by
  induction actions using List.reverseRecOn with
  | nil => exact Follows.drives (Follows.idle rfl rfl)
  | append_singleton before action ih =>
    rw [Run.exec_snoc]
    exact ih.trans fun _ hfollows => hfollows.step action

/-- Along every run of the layout a fenced surface goes back to the size that is still committed. -/
theorem layout_fence (offset : Bool) (center : Option Size) (actions : List LayoutAction)
    {surface : SurfaceId} {size : Size} :
    let layout := Run.exec PersistentLiveLayout.step (PersistentLiveLayout.new offset center) actions
    layout.resize.rollbackSizes[surface]? = some size →
      layout.resize.committedSize surface = some size := by
  intro layout hfence
  obtain ⟨calls, hdriven, hfollows⟩ := layout_driven offset center actions
  have hsound := ResizeSession.sound_driven hdriven
  rw [← hfollows.resize] at hfence ⊢
  exact hsound.committed surface size hfence

open TrackedLayout in
/-- A window that does not answer in time is fenced at the size it is drawn at. -/
theorem layout_fence_unanswered :
    (Run.exec PersistentLiveLayout.step (PersistentLiveLayout.new false none)
      [.observe (drawBatch ⟨0, 1⟩ ⟨8, 8⟩ 0 1),
        .stage ⟨⟨1⟩, [⟨⟨0, 1⟩, ⟨16, 16⟩⟩], none, [], 100⟩ ⟨0, 0, 64, 64⟩ none
          (deliveringControl ⟨1⟩ ⟨0, 1⟩) 0,
        .expire (deliveringControl ⟨1⟩ ⟨0, 1⟩) 1000]).resize.committedSize ⟨0, 1⟩ =
      some ⟨8, 8⟩ :=
  layout_fence false none _ (by decide +kernel)

end Sophia.Session
