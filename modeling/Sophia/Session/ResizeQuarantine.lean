import Sophia.Lib.History
import Sophia.Lib.Ordered
import Sophia.Session.ResizeTransaction

/-! What a surface may draw and be asked for between a resize that timed out and its rollback. -/
namespace Sophia.Session

open Std Sophia.Protocol

/-- The requests up to the first surface without a committed size. -/
def attempted (committed : ExtTreeMap SurfaceId Size) :
    List (SurfaceId × Size) → List (SurfaceId × Size)
  | [] => []
  | request :: rest =>
    request :: if (committed[request.1]?).isSome then attempted committed rest else []

/-- The surfaces of the requests with the sizes they go back to. -/
def restored (committed : ExtTreeMap SurfaceId Size) (requests : List (SurfaceId × Size)) :
    List (SurfaceId × Size) :=
  requests.filterMap fun request => (committed[request.1]?).map (request.1, ·)

section Requests

variable {committed : ExtTreeMap SurfaceId Size} {requests : List (SurfaceId × Size)}

theorem attempted_sublist : (attempted committed requests).Sublist requests := by
  induction requests with
  | nil => exact List.Sublist.slnil
  | cons request rest ih =>
    rw [attempted]
    split
    · exact ih.cons_cons _
    · exact (List.nil_sublist rest).cons_cons _

theorem attempted_eq (h : ∀ request ∈ requests, committed[request.1]? ≠ none) :
    attempted committed requests = requests := by
  induction requests with
  | nil => rfl
  | cons request rest ih =>
    rw [attempted, ih fun request hm => h request (List.mem_cons_of_mem _ hm),
      if_pos (Option.isSome_iff_ne_none.mpr (h request List.mem_cons_self))]

theorem mem_restored {surface : SurfaceId} {size : Size} :
    (surface, size) ∈ restored committed requests ↔
      (∃ rejected, (surface, rejected) ∈ requests) ∧ committed[surface]? = some size := by
  simp only [restored, List.mem_filterMap, Option.map_eq_some_iff, Prod.mk.injEq]
  constructor
  · rintro ⟨⟨_, rejected⟩, hm, _, hsize, rfl, rfl⟩
    exact ⟨⟨rejected, hm⟩, hsize⟩
  · rintro ⟨⟨rejected, hm⟩, hsize⟩
    exact ⟨_, hm, size, hsize, rfl, rfl⟩

theorem restored_distinct (h : requests.Pairwise fun a b => ¬ compare a.1 b.1 = .eq) :
    (restored committed requests).Pairwise fun a b => ¬ compare a.1 b.1 = .eq := by
  refine h.filterMap _ fun a b hab c hc d hd => ?_
  obtain ⟨_, -, rfl⟩ := Option.map_eq_some_iff.mp hc
  obtain ⟨_, -, rfl⟩ := Option.map_eq_some_iff.mp hd
  exact hab

end Requests

namespace ResizeRollbackCoordinator

/-- A surface has no committed size, or the transaction ids are used up. -/
def Refuses (resize : ResizeRollbackCoordinator) (requests : List (SurfaceId × Size)) : Prop :=
  (∃ request ∈ requests, resize.committedSize request.1 = none) ∨
    resize.nextTransaction.toNat + 1 = UInt64.size

instance (resize : ResizeRollbackCoordinator) (requests : List (SurfaceId × Size)) :
    Decidable (resize.Refuses requests) :=
  inferInstanceAs (Decidable ((∃ request ∈ requests, _) ∨ _))

variable {resize : ResizeRollbackCoordinator} {requests : List (SurfaceId × Size)}
  {surface : SurfaceId} {size : Size}

/-- The loop over the requests rejects those it comes to. -/
theorem rejectSizes_state :
    (resize.rejectSizes requests).2 = { resize with
      rejectedSizes := resize.rejectedSizes.insertMany
        (attempted resize.committedSizes requests) } := by
  induction requests generalizing resize with
  | nil => simp [rejectSizes, attempted]
  | cons request rest ih =>
    obtain ⟨surface, rejected⟩ := request
    simp only [rejectSizes, attempted, committedSize]
    cases hsize : resize.committedSizes[surface]? with
    | none => simp
    | some size =>
      have hrest := @ih { resize with
        rejectedSizes := resize.rejectedSizes.insert surface rejected }
      simp only [Option.isSome_some, if_true, ExtTreeMap.insertMany_cons]
      split
      · rename_i result hresult
        rw [hresult] at hrest
        exact hrest
      · rename_i result hresult
        rw [hresult] at hrest
        exact hrest

theorem rejectSizes_ok (h : ∀ request ∈ requests, resize.committedSize request.1 ≠ none) :
    (resize.rejectSizes requests).1 = .ok (restored resize.committedSizes requests) := by
  induction requests generalizing resize with
  | nil => rfl
  | cons request rest ih =>
    obtain ⟨surface, rejected⟩ := request
    obtain ⟨size, hsize⟩ := Option.ne_none_iff_exists'.mp (h _ List.mem_cons_self)
    have hsize : resize.committedSizes[surface]? = some size := hsize
    have hrest := @ih { resize with
      rejectedSizes := resize.rejectedSizes.insert surface rejected }
        fun request hm => h request (List.mem_cons_of_mem _ hm)
    simp only [rejectSizes, committedSize, hsize, restored, List.filterMap_cons, Option.map_some]
    generalize rejectSizes _ rest = result at hrest
    obtain ⟨result, next⟩ := result
    cases hrest
    rfl

theorem rejectSizes_error (h : ∃ request ∈ requests, resize.committedSize request.1 = none) :
    (resize.rejectSizes requests).1 = .error .noCommittedSize := by
  induction requests generalizing resize with
  | nil =>
    obtain ⟨request, hm, -⟩ := h
    cases hm
  | cons request rest ih =>
    obtain ⟨surface, rejected⟩ := request
    simp only [rejectSizes, committedSize]
    cases hsize : resize.committedSizes[surface]? with
    | none => rfl
    | some size =>
      have hrest := @ih { resize with
        rejectedSizes := resize.rejectedSizes.insert surface rejected } (by
          obtain ⟨request, hm, hnone⟩ := h
          rcases List.mem_cons.mp hm with rfl | hm
          · cases hnone.symm.trans hsize
          · exact ⟨request, hm, hnone⟩)
      simp only
      generalize rejectSizes _ rest = result at hrest
      obtain ⟨result, next⟩ := result
      cases hrest
      rfl

/-- A refused rollback has rejected the requests it came to all the same. -/
theorem beginRollback_refused (h : resize.Refuses requests) :
    (∃ error, (resize.beginRollback requests).1 = .error error) ∧
      (resize.beginRollback requests).2 = { resize with
        rejectedSizes := resize.rejectedSizes.insertMany
          (attempted resize.committedSizes requests) } := by
  have hstate := @rejectSizes_state resize requests
  unfold beginRollback
  by_cases hnone : ∃ request ∈ requests, resize.committedSize request.1 = none
  · have hresult := rejectSizes_error hnone
    generalize resize.rejectSizes requests = result at hstate hresult
    obtain ⟨result, next⟩ := result
    cases hresult
    exact ⟨⟨_, rfl⟩, hstate⟩
  · have hfull := h.resolve_left hnone
    have hresult := rejectSizes_ok fun request hm hnot => hnone ⟨request, hm, hnot⟩
    generalize resize.rejectSizes requests = result at hstate hresult
    obtain ⟨result, next⟩ := result
    cases hresult
    cases hstate
    simp only [hfull, if_true]
    exact ⟨⟨_, rfl⟩, trivial⟩

theorem beginRollback_granted (h : ¬ resize.Refuses requests) :
    resize.beginRollback requests =
      (.ok ((restored resize.committedSizes requests).map fun (surface, size) =>
          ⟨.fromRaw resize.nextTransaction, surface, size⟩),
        { resize with
          rejectedSizes := resize.rejectedSizes.insertMany requests
          nextTransaction := resize.nextTransaction + 1
          rollbackSizes :=
            resize.rollbackSizes.insertMany (restored resize.committedSizes requests) }) := by
  obtain ⟨hall, hroom⟩ := not_or.mp h
  have hall : ∀ request ∈ requests, resize.committedSize request.1 ≠ none :=
    fun request hm hnone => hall ⟨request, hm, hnone⟩
  have hstate := @rejectSizes_state resize requests
  have hresult := rejectSizes_ok hall
  rw [attempted_eq hall] at hstate
  unfold beginRollback
  generalize resize.rejectSizes requests = result at hstate hresult
  obtain ⟨result, next⟩ := result
  cases hresult
  cases hstate
  simp only [hroom, if_false]

/-- A refused observation changes nothing. -/
theorem acceptObservation_refused (h : (resize.acceptObservation surface size).1 = false) :
    (resize.acceptObservation surface size).2 = resize := by
  unfold acceptObservation at h ⊢
  split
  · rfl
  · rename_i expected hexpected
    by_cases hsize : size = expected
    · simp [hexpected, hsize] at h
    · simp [hsize]

theorem acceptObservation_false :
    (resize.acceptObservation surface size).1 = false ↔
      ∃ expected, resize.rollbackSizes[surface]? = some expected ∧ size ≠ expected := by
  unfold acceptObservation
  cases hrollback : resize.rollbackSizes[surface]? with
  | none => simp
  | some expected =>
    by_cases hsize : size = expected
    · simp [hsize]
    · simp [hsize]

end ResizeRollbackCoordinator

/-- A call of the layout on its coordinator; the requests of a rollback come out of a map. -/
inductive ResizeAction where
  | recordCommitted (surface : SurfaceId) (size : Size)
  | acceptObservation (surface : SurfaceId) (size : Size)
  | beginRollback (requests : ExtTreeMap SurfaceId Size)
  | remove (surface : SurfaceId)

/-- A coordinator with the accepted observations that may still be recorded and the rollbacks it
has given out. -/
structure ResizeSession where
  resize : ResizeRollbackCoordinator := {}
  accepted : List (SurfaceId × Size) := []
  rollbacks : List (List ResizeRollbackRequest) := []

namespace ResizeSession

/-- A rollback ends the proposal that the observations waited in. -/
def step (session : ResizeSession) : ResizeAction → ResizeSession
  | .recordCommitted surface size =>
    { session with resize := session.resize.recordCommitted surface size }
  | .acceptObservation surface size =>
    match session.resize.acceptObservation surface size with
    | (true, resize) => { session with resize, accepted := (surface, size) :: session.accepted }
    | (false, resize) => { session with resize }
  | .beginRollback requests =>
    match session.resize.beginRollback requests.toList with
    | (.ok rollback, resize) =>
      { resize, accepted := [], rollbacks := session.rollbacks ++ [rollback] }
    | (.error _, resize) => { session with resize, accepted := [] }
  | .remove surface => { session with resize := session.resize.remove surface }

/-- An observation is recorded only after it was accepted. -/
def Driven (session : ResizeSession) : ResizeAction → Prop
  | .recordCommitted surface size => (surface, size) ∈ session.accepted
  | _ => True

instance (session : ResizeSession) (action : ResizeAction) : Decidable (session.Driven action) := by
  cases action <;> unfold Driven <;> infer_instance

/-- A surface with the size it failed to reach and the one it goes back to. -/
structure Quarantine where
  surface : SurfaceId
  abandoned : Size
  committed : Size

/-- A rollback of the surface is given out. -/
def Begins (session : ResizeSession) (action : ResizeAction) (hold : Quarantine) : Prop :=
  ∃ requests, action = .beginRollback requests ∧ requests[hold.surface]? = some hold.abandoned ∧
    session.resize.committedSize hold.surface = some hold.committed ∧
    ¬ session.resize.Refuses requests.toList

/-- The surface is observed at its committed size, or removed. -/
def Ends (action : ResizeAction) (surface : SurfaceId) (committed : Size) : Prop :=
  action = .acceptObservation surface committed ∨ action = .remove surface

def Quarantined (start : ResizeSession) (actions : List ResizeAction) (hold : Quarantine) : Prop :=
  Run.Held step Begins (fun action hold => Ends action hold.surface hold.committed) start actions
    hold

/-- What the coordinator owes after a history. -/
structure Keeps (start : ResizeSession) (history : List ResizeAction) (session : ResizeSession) :
    Prop where
  quarantine : ∀ hold, start.Quarantined history hold →
    (∀ size, size ≠ hold.committed →
      (session.resize.acceptObservation hold.surface size).1 = false) ∧
    session.resize.committedSize hold.surface = some hold.committed ∧
    session.resize.requestAllowed hold.surface hold.abandoned = false
  distinct : session.rollbacks.Pairwise fun a b =>
    ∀ request ∈ a, ∀ later ∈ b, request.transaction ≠ later.transaction
  removed : ∀ before surface, history = before ++ [.remove surface] →
    session.resize.committedSize surface = none ∧
    session.resize.rollbackPending surface = false ∧
    session.resize.rejectedSizes[surface]? = none
  refused : ∀ before requests, history = before ++ [.beginRollback requests] →
    (∃ error, ((Run.exec step start before).resize.beginRollback requests.toList).1 =
      .error error) →
    session.resize = (Run.exec step start before).resize

/-- A rollback that is refused rejects no size anew, and one that is given out rejects no other size
of a surface in quarantine. -/
def RejectsOnce (session : ResizeSession) : ResizeAction → Prop
  | .beginRollback requests =>
    if session.resize.Refuses requests.toList then
      ∀ request ∈ attempted session.resize.committedSizes requests.toList,
        session.resize.rejectedSizes[request.1]? = some request.2
    else ∀ request ∈ requests.toList, session.resize.rollbackPending request.1 = true →
      session.resize.rejectedSizes[request.1]? = some request.2
  | _ => True

instance (session : ResizeSession) (action : ResizeAction) :
    Decidable (session.RejectsOnce action) := by
  cases action <;> unfold RejectsOnce <;> infer_instance

/-- What driven calls keep without any condition. -/
structure Sound (session : ResizeSession) : Prop where
  committed : ∀ (surface : SurfaceId) (size : Size),
    session.resize.rollbackSizes[surface]? = some size →
      session.resize.committedSizes[surface]? = some size
  accepted : ∀ (surface : SurfaceId) (size : Size), (surface, size) ∈ session.accepted →
    session.resize.rollbackSizes[surface]? = none
  distinct : session.rollbacks.Pairwise fun a b =>
    ∀ request ∈ a, ∀ later ∈ b, request.transaction ≠ later.transaction
  issued : ∀ rollback ∈ session.rollbacks, ∀ request ∈ rollback,
    request.transaction.raw.toNat < session.resize.nextTransaction.toNat

variable {session : ResizeSession} {action : ResizeAction} {surface : SurfaceId} {size : Size}

/-- Everything an observation can do to the session. -/
inductive Observes (session : ResizeSession) (surface : SurfaceId) (size : Size) :
    ResizeSession → Prop
  | free (hnone : session.resize.rollbackSizes[surface]? = none) :
    Observes session surface size { session with accepted := (surface, size) :: session.accepted }
  | confirmed (hexpected : session.resize.rollbackSizes[surface]? = some size) :
    Observes session surface size { session with
      resize := { session.resize with
        rollbackSizes := session.resize.rollbackSizes.erase surface
        rejectedSizes := session.resize.rejectedSizes.erase surface }
      accepted := (surface, size) :: session.accepted }
  | refused (expected : Size) (hexpected : session.resize.rollbackSizes[surface]? = some expected)
      (hne : size ≠ expected) : Observes session surface size session

theorem step_observes :
    session.Observes surface size (session.step (.acceptObservation surface size)) := by
  cases hrollback : session.resize.rollbackSizes[surface]? with
  | none =>
    simp only [step, ResizeRollbackCoordinator.acceptObservation, hrollback]
    exact .free hrollback
  | some expected =>
    by_cases hsize : size = expected
    · subst hsize
      simp only [step, ResizeRollbackCoordinator.acceptObservation, hrollback, ne_eq,
        not_true_eq_false, if_false]
      exact .confirmed hrollback
    · simp only [step, ResizeRollbackCoordinator.acceptObservation, hrollback, ne_eq, hsize,
        not_false_eq_true, if_true]
      exact .refused expected hrollback hsize

theorem step_refused {requests : ExtTreeMap SurfaceId Size}
    (h : session.resize.Refuses requests.toList) :
    session.step (.beginRollback requests) = { session with
      resize := { session.resize with
        rejectedSizes := session.resize.rejectedSizes.insertMany
          (attempted session.resize.committedSizes requests.toList) }
      accepted := [] } := by
  obtain ⟨⟨error, hresult⟩, hstate⟩ := ResizeRollbackCoordinator.beginRollback_refused h
  simp only [step]
  generalize session.resize.beginRollback requests.toList = result at hresult hstate
  obtain ⟨result, next⟩ := result
  cases hresult
  cases hstate
  rfl

/-- The requests of a rollback that is given out. -/
def rollbackOf (resize : ResizeRollbackCoordinator) (requests : ExtTreeMap SurfaceId Size) :
    List ResizeRollbackRequest :=
  (restored resize.committedSizes requests.toList).map fun (surface, size) =>
    ⟨.fromRaw resize.nextTransaction, surface, size⟩

theorem step_granted {requests : ExtTreeMap SurfaceId Size}
    (h : ¬ session.resize.Refuses requests.toList) :
    session.step (.beginRollback requests) = {
      resize := { session.resize with
        rejectedSizes := session.resize.rejectedSizes.insertMany requests.toList
        nextTransaction := session.resize.nextTransaction + 1
        rollbackSizes := session.resize.rollbackSizes.insertMany
          (restored session.resize.committedSizes requests.toList) }
      accepted := []
      rollbacks := session.rollbacks ++ [rollbackOf session.resize requests] } := by
  simp only [step, ResizeRollbackCoordinator.beginRollback_granted h, rollbackOf]

theorem Sound.step (hs : session.Sound) (hdriven : session.Driven action) :
    (session.step action).Sound := by
  cases action with
  | recordCommitted surface size =>
    refine ⟨fun other expected hother => ?_, hs.accepted, hs.distinct, hs.issued⟩
    have hother : session.resize.rollbackSizes[other]? = some expected := hother
    have hne : surface ≠ other := by
      rintro rfl
      cases (hs.accepted surface size hdriven).symm.trans hother
    simpa only [ResizeSession.step, ResizeRollbackCoordinator.recordCommitted,
      ExtTreeMap.getElem?_insert, Std.compare_eq_iff_eq, hne, if_false]
      using hs.committed other expected hother
  | acceptObservation surface size =>
    have hobserves := @step_observes session surface size
    generalize session.step (.acceptObservation surface size) = next at hobserves
    cases hobserves with
    | free hnone =>
      refine ⟨hs.committed, fun other size' hm => ?_, hs.distinct, hs.issued⟩
      rcases List.mem_cons.mp hm with he | hm
      · cases he
        exact hnone
      · exact hs.accepted other size' hm
    | confirmed hexpected =>
      have herase (other : SurfaceId) : (session.resize.rollbackSizes.erase surface)[other]? =
          if surface = other then none else session.resize.rollbackSizes[other]? := by
        simp only [ExtTreeMap.getElem?_erase, Std.compare_eq_iff_eq]
      refine ⟨fun other expected hother => ?_, fun other size' hm => ?_, hs.distinct, hs.issued⟩
      · rw [herase] at hother
        split at hother
        · cases hother
        · exact hs.committed other expected hother
      · rw [herase]
        split
        · rfl
        · rename_i hne
          rcases List.mem_cons.mp hm with he | hm
          · cases he
            exact absurd rfl hne
          · exact hs.accepted other size' hm
    | refused expected hexpected hne => exact hs
  | beginRollback requests =>
    by_cases hrefuses : session.resize.Refuses requests.toList
    · rw [step_refused hrefuses]
      exact ⟨hs.committed, fun _ _ => nofun, hs.distinct, hs.issued⟩
    · have hroom := (not_or.mp hrefuses).2
      have hnext : (session.resize.nextTransaction + 1).toNat =
          session.resize.nextTransaction.toNat + 1 := by
        have := session.resize.nextTransaction.toNat_lt
        simp only [UInt64.size] at hroom
        simp only [UInt64.toNat_add, UInt64.toNat_one]
        omega
      have hissued : ∀ request ∈ rollbackOf session.resize requests,
          request.transaction.raw = session.resize.nextTransaction := by
        intro request hm
        obtain ⟨entry, -, rfl⟩ := List.mem_map.mp hm
        rfl
      rw [step_granted hrefuses]
      refine ⟨fun other expected hother => ?_, fun _ _ => nofun, ?_, ?_⟩
      · rcases (Ordered.getElem?_insertMany_distinct
          (restored_distinct ExtTreeMap.distinct_keys_toList)).mp hother with hm | ⟨-, hold⟩
        · exact (mem_restored.mp hm).2
        · exact hs.committed other expected hold
      · refine List.pairwise_append.mpr ⟨hs.distinct, List.pairwise_singleton _ _, ?_⟩
        intro rollback hm new hnew request hrequest later hlater he
        obtain rfl := List.mem_singleton.mp hnew
        have hlt := hs.issued rollback hm request hrequest
        rw [he, hissued later hlater] at hlt
        omega
      · intro rollback hm request hrequest
        rw [hnext]
        rcases List.mem_append.mp hm with hm | hm
        · have hlt := hs.issued rollback hm request hrequest
          omega
        · obtain rfl := List.mem_singleton.mp hm
          rw [hissued request hrequest]
          omega
  | remove surface =>
    have herase (sizes : ExtTreeMap SurfaceId Size) (other : SurfaceId) :
        (sizes.erase surface)[other]? = if surface = other then none else sizes[other]? := by
      simp only [ExtTreeMap.getElem?_erase, Std.compare_eq_iff_eq]
    refine ⟨fun other expected hother => ?_, fun other size hm => ?_, hs.distinct, hs.issued⟩
    · simp only [ResizeSession.step, ResizeRollbackCoordinator.remove, herase] at hother ⊢
      split at hother
      · cases hother
      · rename_i hne
        rw [if_neg hne]
        exact hs.committed other expected hother
    · simp only [ResizeSession.step, ResizeRollbackCoordinator.remove, herase]
      split
      · rfl
      · exact hs.accepted other size hm

/-- The fence of a surface is set by a rollback and falls with the quarantine. -/
theorem fence_step_iff (hs : session.Sound) {committed : Size} :
    (session.step action).resize.rollbackSizes[surface]? = some committed ↔
      (∃ abandoned, Begins session action ⟨surface, abandoned, committed⟩) ∨
        session.resize.rollbackSizes[surface]? = some committed ∧
          ¬ Ends action surface committed := by
  cases action with
  | recordCommitted other size =>
    have hsame : (session.step (.recordCommitted other size)).resize.rollbackSizes =
        session.resize.rollbackSizes := rfl
    simp [hsame, Begins, Ends]
  | acceptObservation other size =>
    have hobserves := @step_observes session other size
    generalize session.step (.acceptObservation other size) = next at hobserves
    cases hobserves with
    | free hnone =>
      have hne (h : session.resize.rollbackSizes[surface]? = some committed) : other ≠ surface := by
        rintro rfl
        cases hnone.symm.trans h
      simp only [Begins, Ends, reduceCtorEq, false_and, exists_false, false_or, or_false,
        ResizeAction.acceptObservation.injEq]
      exact ⟨fun h => ⟨h, fun he => hne h he.1⟩, And.left⟩
    | confirmed hexpected =>
      simp only [Begins, Ends, reduceCtorEq, false_and, exists_false, false_or, or_false,
        ResizeAction.acceptObservation.injEq, ExtTreeMap.getElem?_erase, Std.compare_eq_iff_eq]
      by_cases hother : other = surface
      · subst hother
        simp only [if_true, reduceCtorEq, false_iff, not_and, not_not, true_and]
        intro h
        exact Option.some.inj (hexpected.symm.trans h)
      · simp [hother]
    | refused expected hexpected hne =>
      simp only [Begins, Ends, reduceCtorEq, false_and, exists_false, false_or, or_false,
        ResizeAction.acceptObservation.injEq]
      refine ⟨fun h => ⟨h, ?_⟩, And.left⟩
      rintro ⟨rfl, rfl⟩
      exact hne (Option.some.inj (h.symm.trans hexpected))
  | beginRollback requests =>
    by_cases hrefuses : session.resize.Refuses requests.toList
    · rw [step_refused hrefuses]
      simp [Begins, Ends, hrefuses]
    · rw [step_granted hrefuses]
      simp only [Ordered.getElem?_insertMany_distinct
        (restored_distinct ExtTreeMap.distinct_keys_toList), mem_restored,
        ExtTreeMap.mem_toList_iff_getElem?_eq_some]
      have hbegins : (∃ abandoned, Begins session (.beginRollback requests)
          ⟨surface, abandoned, committed⟩) ↔ (∃ rejected, requests[surface]? = some rejected) ∧
            session.resize.committedSizes[surface]? = some committed := by
        constructor
        · rintro ⟨abandoned, _, ⟨rfl⟩, hrequest, hcommitted, -⟩
          exact ⟨⟨abandoned, hrequest⟩, hcommitted⟩
        · rintro ⟨⟨abandoned, hrequest⟩, hcommitted⟩
          exact ⟨abandoned, requests, rfl, hrequest, hcommitted, hrefuses⟩
      rw [hbegins]
      simp only [Ends, reduceCtorEq, or_self, not_false_eq_true, and_true]
      refine or_congr_right' fun hnot => ⟨And.right, fun hfence => ⟨fun size hsize => ?_, hfence⟩⟩
      exact hnot ⟨hsize.1, hs.committed surface committed hfence⟩
  | remove other =>
    simp only [ResizeSession.step, ResizeRollbackCoordinator.remove, Begins, Ends, reduceCtorEq,
      false_and, exists_false, false_or, ResizeAction.remove.injEq,
      ExtTreeMap.getElem?_erase, Std.compare_eq_iff_eq]
    by_cases hother : other = surface
    · simp [hother]
    · simp [hother]

theorem sound_default : Sound {} := by
  refine ⟨fun surface size h => ?_, fun _ _ => nofun, List.Pairwise.nil, fun _ => nofun⟩
  simp at h

theorem sound_driven {actions : List ResizeAction} (hdriven : Run.Guarded step Driven {} actions) :
    (Run.exec step {} actions).Sound :=
  Run.invariant sound_default (fun _ _ hok hs => hs.step hok) hdriven

/-- A surface is fenced exactly while it is in quarantine. -/
theorem fence_iff {actions : List ResizeAction} (hdriven : Run.Guarded step Driven {} actions)
    {committed : Size} :
    (Run.exec step {} actions).resize.rollbackSizes[surface]? = some committed ↔
      ∃ abandoned, Quarantined {} actions ⟨surface, abandoned, committed⟩ := by
  induction actions using List.reverseRecOn with
  | nil =>
    have hnone (abandoned : Size) : ¬ Quarantined {} [] ⟨surface, abandoned, committed⟩ :=
      Run.not_held_nil
    simp [hnone]
  | append_singleton before action ih =>
    rw [Run.exec_snoc, fence_step_iff (sound_driven hdriven.left), ih hdriven.left]
    simp only [Quarantined, Run.held_snoc]
    constructor
    · rintro (⟨abandoned, hbegins⟩ | ⟨⟨abandoned, hheld⟩, hends⟩)
      · exact ⟨abandoned, .inl hbegins⟩
      · exact ⟨abandoned, .inr ⟨hheld, hends⟩⟩
    · rintro ⟨abandoned, hbegins | ⟨hheld, hends⟩⟩
      · exact .inl ⟨abandoned, hbegins⟩
      · exact .inr ⟨⟨abandoned, hheld⟩, hends⟩

theorem requestAllowed_eq_false :
    session.resize.requestAllowed surface size = false ↔
      session.resize.rejectedSizes[surface]? = some size := by
  simp [ResizeRollbackCoordinator.requestAllowed]

/-- A step that rejects once keeps what it finds rejected for a surface in quarantine. -/
theorem rejected_step (hs : session.Sound) (hdriven : session.Driven action)
    (hrejects : session.RejectsOnce action) {hold : Quarantine}
    (hfence : session.resize.rollbackSizes[hold.surface]? = some hold.committed)
    (hrejected : session.resize.rejectedSizes[hold.surface]? = some hold.abandoned)
    (hends : ¬ Ends action hold.surface hold.committed) :
    (session.step action).resize.rejectedSizes[hold.surface]? = some hold.abandoned := by
  cases action with
  | recordCommitted other size =>
    have hne : other ≠ hold.surface := by
      rintro rfl
      cases (hs.accepted _ size hdriven).symm.trans hfence
    simp only [step, ResizeRollbackCoordinator.recordCommitted]
    split
    · simpa only [ExtTreeMap.getElem?_erase, Std.compare_eq_iff_eq, hne, if_false] using hrejected
    · exact hrejected
  | acceptObservation other size =>
    have hobserves := @step_observes session other size
    generalize session.step (.acceptObservation other size) = next at hobserves
    cases hobserves with
    | free hnone => exact hrejected
    | confirmed hexpected =>
      have hne : other ≠ hold.surface := by
        rintro rfl
        obtain rfl := Option.some.inj (hexpected.symm.trans hfence)
        exact hends (.inl rfl)
      simpa only [ExtTreeMap.getElem?_erase, Std.compare_eq_iff_eq, hne, if_false] using hrejected
    | refused expected hexpected hne => exact hrejected
  | beginRollback requests =>
    rw [RejectsOnce] at hrejects
    split at hrejects
    · rename_i hrefuses
      rw [step_refused hrefuses]
      refine (Ordered.getElem?_insertMany_distinct
        (ExtTreeMap.distinct_keys_toList.sublist attempted_sublist)).mpr ?_
      by_cases hnamed : ∃ size, (hold.surface, size) ∈
          attempted session.resize.committedSizes requests.toList
      · obtain ⟨size, hm⟩ := hnamed
        obtain rfl := Option.some.inj ((hrejects _ hm).symm.trans hrejected)
        exact .inl hm
      · exact .inr ⟨not_exists.mp hnamed, hrejected⟩
    · rename_i hgranted
      rw [step_granted hgranted]
      refine (Ordered.getElem?_insertMany_distinct ExtTreeMap.distinct_keys_toList).mpr ?_
      by_cases hnamed : ∃ size, (hold.surface, size) ∈ requests.toList
      · obtain ⟨size, hm⟩ := hnamed
        have hsame := hrejects _ hm (by simp [ResizeRollbackCoordinator.rollbackPending, hfence])
        obtain rfl := Option.some.inj (hsame.symm.trans hrejected)
        exact .inl hm
      · exact .inr ⟨not_exists.mp hnamed, hrejected⟩
  | remove other =>
    have hne : other ≠ hold.surface := by
      rintro rfl
      exact hends (.inr rfl)
    simpa only [step, ResizeRollbackCoordinator.remove, ExtTreeMap.getElem?_erase,
      Std.compare_eq_iff_eq, hne, if_false] using hrejected

/-- A refused rollback that rejects nothing anew changes nothing. -/
theorem step_refused_same {requests : ExtTreeMap SurfaceId Size}
    (hrefuses : session.resize.Refuses requests.toList)
    (hrejects : session.RejectsOnce (.beginRollback requests)) :
    (session.step (.beginRollback requests)).resize = session.resize := by
  simp only [RejectsOnce, hrefuses, if_true] at hrejects
  have hsame : session.resize.rejectedSizes.insertMany
      (attempted session.resize.committedSizes requests.toList) =
        session.resize.rejectedSizes := by
    refine ExtTreeMap.ext_getElem? fun surface => Option.ext fun size => ?_
    rw [Ordered.getElem?_insertMany_distinct
      (ExtTreeMap.distinct_keys_toList.sublist attempted_sublist)]
    refine ⟨?_, fun hold => ?_⟩
    · rintro (hm | ⟨-, hold⟩)
      · exact hrejects _ hm
      · exact hold
    · by_cases hnamed : ∃ size, (surface, size) ∈
          attempted session.resize.committedSizes requests.toList
      · obtain ⟨size', hm⟩ := hnamed
        obtain rfl := Option.some.inj ((hrejects _ hm).symm.trans hold)
        exact .inl hm
      · exact .inr ⟨not_exists.mp hnamed, hold⟩
  rw [step_refused hrefuses, hsame]

section Run

variable {before : List ResizeAction}

theorem Keeps.rejected (h : Keeps {} before session) {hold : Quarantine}
    (hheld : Quarantined {} before hold) :
    session.resize.rejectedSizes[hold.surface]? = some hold.abandoned :=
  requestAllowed_eq_false.mp (h.quarantine hold hheld).2.2

theorem rejectsOnce_of_keeps
    (hdriven : Run.Guarded step Driven {} (before ++ [action]))
    (hbefore : Keeps {} before (Run.exec step {} before))
    (hafter : Keeps {} (before ++ [action]) ((Run.exec step {} before).step action)) :
    (Run.exec step {} before).RejectsOnce action := by
  cases action with
  | beginRollback requests =>
    rw [RejectsOnce]
    split
    · rename_i hrefuses
      intro request hm
      obtain ⟨error, -⟩ := ResizeRollbackCoordinator.beginRollback_refused hrefuses
      have hsame := hafter.refused before requests rfl error
      rw [step_refused hrefuses] at hsame
      rw [← congrArg ResizeRollbackCoordinator.rejectedSizes hsame]
      exact (Ordered.getElem?_insertMany_distinct
        (ExtTreeMap.distinct_keys_toList.sublist attempted_sublist)).mpr (.inl hm)
    · rename_i hgranted
      intro request hm hpending
      obtain ⟨committed, hfence⟩ := Option.isSome_iff_exists.mp hpending
      obtain ⟨abandoned, hheld⟩ := (fence_iff hdriven.left).mp hfence
      -- The quarantine goes on, and the size given up first has to stay rejected.
      have hkept := hafter.rejected (Run.held_snoc.mpr (.inr ⟨hheld, by simp [Ends]⟩))
      rw [step_granted hgranted] at hkept
      have hnew := (Ordered.getElem?_insertMany_distinct
        (m := (Run.exec step {} before).resize.rejectedSizes)
        ExtTreeMap.distinct_keys_toList).mpr (.inl hm)
      obtain rfl : request.2 = abandoned := Option.some.inj (hnew.symm.trans hkept)
      exact hbefore.rejected hheld
  | _ => trivial

theorem keeps_of_rejectsOnce
    (hdriven : Run.Guarded step Driven {} (before ++ [action]))
    (hbefore : Keeps {} before (Run.exec step {} before))
    (hrejects : (Run.exec step {} before).RejectsOnce action) :
    Keeps {} (before ++ [action]) ((Run.exec step {} before).step action) := by
  have hs := sound_driven hdriven.left
  have hnext := hs.step hdriven.last
  constructor
  case quarantine =>
    intro hold hheld
    have hfence := (fence_iff hdriven).mpr ⟨hold.abandoned, hheld⟩
    rw [Run.exec_snoc] at hfence
    refine ⟨fun size hne => ?_, hnext.committed _ _ hfence, requestAllowed_eq_false.mpr ?_⟩
    · exact ResizeRollbackCoordinator.acceptObservation_false.mpr ⟨_, hfence, hne⟩
    rcases Run.held_snoc.mp hheld with ⟨requests, rfl, hrequest, -, hgranted⟩ | ⟨hheld, hends⟩
    · rw [step_granted hgranted]
      exact (Ordered.getElem?_insertMany_distinct ExtTreeMap.distinct_keys_toList).mpr
        (.inl (ExtTreeMap.mem_toList_iff_getElem?_eq_some.mpr hrequest))
    · exact rejected_step hs hdriven.last hrejects
        ((fence_iff hdriven.left).mpr ⟨hold.abandoned, hheld⟩) (hbefore.rejected hheld) hends
  case distinct => exact hnext.distinct
  case removed =>
    intro earlier surface he
    obtain ⟨rfl, ha⟩ := List.append_inj' he rfl
    cases ha
    simp [step, ResizeRollbackCoordinator.remove, ResizeRollbackCoordinator.committedSize,
      ResizeRollbackCoordinator.rollbackPending]
  case refused =>
    intro earlier requests he herror
    obtain ⟨rfl, ha⟩ := List.append_inj' he rfl
    cases ha
    by_cases hrefuses : (Run.exec step {} before).resize.Refuses requests.toList
    · exact step_refused_same hrefuses hrejects
    · obtain ⟨error, herror⟩ := herror
      rw [ResizeRollbackCoordinator.beginRollback_granted hrefuses] at herror
      cases herror

/-- The coordinator keeps everything it owes in a run of the layout's calls, exactly as long as no
rollback rejects a size where it must not. -/
theorem quarantine_iff {actions : List ResizeAction} (hdriven : Run.Guarded step Driven {} actions) :
    Run.Throughout step (Keeps {}) {} actions ↔ Run.Guarded step RejectsOnce {} actions := by
  have hnil : Keeps {} [] {} :=
    ⟨fun hold hheld => absurd hheld Run.not_held_nil, List.Pairwise.nil,
      fun before surface he => by simp at he, fun before requests he => by simp at he⟩
  refine Run.throughout_iff hnil fun before action after he hbefore => ?_
  have hdriven : Run.Guarded step Driven {} (before ++ [action]) := by
    rw [he, List.append_cons] at hdriven
    exact hdriven.left
  exact ⟨rejectsOnce_of_keeps hdriven hbefore, keeps_of_rejectsOnce hdriven hbefore⟩

end Run

/-- A proposal for one surface times out. -/
def timeout (size : Size) : ResizeAction :=
  .beginRollback ((∅ : ExtTreeMap SurfaceId Size).insert ⟨2, 1⟩ size)

/-- A surface is drawn at one size, then two proposals for other sizes time out in turn. -/
def secondTimeout : List ResizeAction :=
  [.acceptObservation ⟨2, 1⟩ ⟨800, 600⟩, .recordCommitted ⟨2, 1⟩ ⟨800, 600⟩,
    timeout ⟨1024, 768⟩, timeout ⟨1280, 720⟩]

/-- One proposal that times out and is confirmed keeps the quarantine. -/
theorem quarantine_single_timeout :
    Run.Throughout step (Keeps {}) {}
      (secondTimeout.take 3 ++ [.acceptObservation ⟨2, 1⟩ ⟨800, 600⟩]) :=
  (quarantine_iff (by decide +kernel)).mpr (by decide +kernel)

/-- The second timeout allows the first abandoned size again, in the middle of the quarantine; and a
rollback that is refused leaves a size rejected. -/
theorem second_timeout_allows_abandoned :
    ¬ Run.Throughout step (Keeps {}) {} secondTimeout ∧
    ¬ Run.Throughout step (Keeps {}) {} [timeout ⟨1024, 768⟩] := by
  constructor
  · intro h
    have hheld : Quarantined {} secondTimeout ⟨⟨2, 1⟩, ⟨1024, 768⟩, ⟨800, 600⟩⟩ := by
      refine ⟨secondTimeout.take 2, _, secondTimeout.drop 3, rfl,
        ⟨_, rfl, by decide +kernel, by decide +kernel, by decide +kernel⟩, ?_⟩
      simp [secondTimeout, Ends, timeout]
    have hrejected := ((h secondTimeout [] (by simp)).quarantine _ hheld).2.2
    revert hrejected
    decide +kernel
  · intro h
    have hsame := (h [timeout ⟨1024, 768⟩] [] rfl).refused []
      ((∅ : ExtTreeMap SurfaceId Size).insert ⟨2, 1⟩ ⟨1024, 768⟩) rfl
      ⟨.noCommittedSize, by decide +kernel⟩
    have hrejected := congrArg (fun resize => resize.requestAllowed ⟨2, 1⟩ ⟨1024, 768⟩) hsame
    revert hrejected
    decide +kernel

end ResizeSession
end Sophia.Session
