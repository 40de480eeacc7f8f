import Mathlib.Data.List.TakeWhile
import Sophia.Lib.Ledger
import Sophia.Lib.Run
import Sophia.Backend.PlaneResources

/-! Whether every object made for a frame is destroyed once or held once, and when. -/
namespace Sophia.Backend

open Protocol

section Resources

variable {plane : PrimaryPlaneResources} {env : DestroyEnv}

/-- The objects of what may be left. -/
def remaining (cleanup : Option PrimaryPlaneResources) : List KmsObject :=
  cleanup.elim [] PrimaryPlaneResources.objects

/-- Every call that destroys an object of the frame succeeds. -/
def DestroyEnv.completes (env : DestroyEnv) (plane : PrimaryPlaneResources) : Bool :=
  (plane.framebuffer.isNone || env.framebuffer) && (plane.modeBlob.isNone || env.modeBlob) &&
    plane.importedBuffers.all env.closes

/-- What a destruction does not get to is left for a cleanup. -/
theorem destroy_objects (env : DestroyEnv) (plane : PrimaryPlaneResources) :
    (destroyResourceCleanup env plane).destroyed ++
      remaining (destroyResourceCleanup env plane).cleanup = plane.objects := by
  unfold destroyResourceCleanup
  split
  · rfl
  · split
    · simp [remaining, PrimaryPlaneResources.objects, PrimaryPlaneResources.framebuffers,
        PrimaryPlaneResources.modeBlobs]
    · have hsplit := congrArg (List.map KmsObject.importedBuffer)
        (List.takeWhile_append_dropWhile (p := env.closes) (l := plane.importedBuffers))
      cases hleft : plane.importedBuffers.dropWhile env.closes with
      | nil =>
        rw [hleft, List.append_nil] at hsplit
        simp [remaining, PrimaryPlaneResources.objects, hsplit]
      | cons handle left =>
        rw [hleft, List.map_append] at hsplit
        simp only [remaining, Option.elim, PrimaryPlaneResources.objects]
        rw [← hsplit]
        simp [PrimaryPlaneResources.framebuffers, PrimaryPlaneResources.modeBlobs]

theorem destroyed_iff : (destroyResourceCleanup env plane).status = .destroyed ↔
    (destroyResourceCleanup env plane).cleanup = none := by
  unfold destroyResourceCleanup
  split
  · simp
  · split
    · simp
    · cases plane.importedBuffers.dropWhile env.closes <;> simp

theorem completes_iff : env.completes plane = true ↔
    (destroyResourceCleanup env plane).cleanup = none := by
  have hall : plane.importedBuffers.all env.closes = true ↔
      plane.importedBuffers.dropWhile env.closes = [] := by
    rw [List.dropWhile_eq_nil_iff, List.all_eq_true]
  have hor : ∀ {α : Type} (o : Option α) (b : Bool), (o.isNone || b) = !(o.isSome && !b) := by
    intro α o b
    cases o <;> cases b <;> rfl
  simp only [DestroyEnv.completes, Bool.and_eq_true, hall, hor, Bool.not_eq_true']
  unfold destroyResourceCleanup
  cases hf : (plane.framebuffer.isSome && !env.framebuffer) with
  | true => simp only [if_true]; simp
  | false =>
    cases hb : (plane.modeBlob.isSome && !env.modeBlob) with
    | true => simp only [Bool.false_eq_true, if_false, if_true]; simp
    | false =>
      simp only [Bool.false_eq_true, if_false]
      cases plane.importedBuffers.dropWhile env.closes <;> simp

end Resources

section Create

variable {planes : List (Option UInt32)} {handles : List UInt32} {handle : UInt32}

/-- Four slots are enough for the planes of a buffer. -/
theorem importScanoutDmaBufs_eq (planes : List (Option UInt32)) (handles : List UInt32)
    (h : handles.length + planes.length ≤ maxPlanes) :
    (importScanoutDmaBufs planes handles).2 = importedHandles planes handles := by
  induction planes generalizing handles with
  | nil => rfl
  | cons plane planes ih =>
    rw [List.length_cons] at h
    cases plane with
    | none => rfl
    | some handle =>
      rw [importScanoutDmaBufs, importedHandles, addUniqueImportedBufferForCleanup,
        if_pos (by omega : handles.length < maxPlanes)]
      apply ih
      split
      · omega
      · rw [List.length_append, List.length_singleton]
        omega

theorem importedHandles_nodup (h : handles.Nodup) : (importedHandles planes handles).Nodup := by
  induction planes generalizing handles with
  | nil => exact h
  | cons plane planes ih =>
    cases plane with
    | none => exact h
    | some handle =>
      apply ih
      split
      · exact h
      · rename_i hnew
        rw [List.nodup_append']
        exact ⟨h, List.nodup_singleton _, List.disjoint_singleton.mpr hnew⟩

theorem mem_importedHandles (h : handle ∈ importedHandles planes handles) :
    handle ∈ handles ∨ some handle ∈ planes := by
  induction planes generalizing handles with
  | nil => exact Or.inl h
  | cons plane planes ih =>
    cases plane with
    | none => exact Or.inl h
    | some first =>
      rcases ih h with hmem | hmem
      · split at hmem
        · exact Or.inl hmem
        · rcases List.mem_append.mp hmem with hmem | hmem
          · exact Or.inl hmem
          · exact Or.inr (by rw [List.mem_singleton.mp hmem]; exact List.mem_cons_self)
      · exact Or.inr (List.mem_cons_of_mem _ hmem)

/-- The handles the device may give out during a creation. -/
def CreateEnv.objects (env : CreateEnv) : List KmsObject :=
  env.framebuffer.toList.map .framebuffer ++ env.modeBlob.toList.map .modeBlob ++
    (env.planes.filterMap id).map .importedBuffer

/-- What was created is in the frame's resources, and then untouched, or destroyed or left for a
cleanup. -/
structure CreateResult.Balanced (result : CreateResult) (env : CreateEnv) : Prop where
  balance : (result.destroyed ++ remaining result.resources ++ remaining result.cleanup).Perm
    result.created
  whole : result.resources.isSome → result.destroyed = [] ∧ result.cleanup = none
  nodup : result.created.Nodup
  created : ∀ object ∈ result.created, object ∈ env.objects

theorem CreateResult.balanced_nil {env : CreateEnv} :
    CreateResult.Balanced ⟨none, none, [], []⟩ env :=
  ⟨.refl _, fun _ => ⟨rfl, rfl⟩, .nil, fun _ h => nomatch h⟩

theorem CreateResult.balanced_undo {env : CreateEnv} {destroy : DestroyEnv}
    {plane : PrimaryPlaneResources} {created : List KmsObject} (hperm : plane.objects.Perm created)
    (hnodup : created.Nodup) (hmem : ∀ object ∈ created, object ∈ env.objects) :
    (CreateResult.undo destroy plane created).Balanced env := by
  refine ⟨?_, fun h => (by cases h), hnodup, hmem⟩
  simp only [CreateResult.undo]
  rw [remaining, Option.elim, List.append_nil, destroy_objects]
  exact hperm

theorem createResources_balanced (createModeBlob : Bool) (env : CreateEnv) :
    (createResources createModeBlob env).Balanced env := by
  unfold createResources
  split
  · exact CreateResult.balanced_nil
  · rename_i hplanes
    simp only [Bool.or_eq_true, Bool.not_eq_true', decide_eq_true_eq, not_or, not_lt] at hplanes
    have hhandles := importScanoutDmaBufs_eq env.planes [] (by simpa using hplanes.2)
    have himported : ((importedHandles env.planes []).map KmsObject.importedBuffer).Nodup :=
      (importedHandles_nodup .nil).map fun _ _ h => KmsObject.importedBuffer.inj h
    have hmem : ∀ object ∈ (importedHandles env.planes []).map KmsObject.importedBuffer,
        object ∈ (env.planes.filterMap id).map KmsObject.importedBuffer := by
      intro object h
      obtain ⟨handle, hhandle, rfl⟩ := List.mem_map.mp h
      have hplane := (mem_importedHandles hhandle).resolve_left (by simp)
      exact List.mem_map_of_mem (List.mem_filterMap.mpr ⟨_, hplane, rfl⟩)
    generalize importScanoutDmaBufs env.planes [] = imported at hhandles ⊢
    obtain ⟨complete, handles⟩ := imported
    subst hhandles
    generalize importedHandles env.planes [] = handles at *
    have hundo : (CreateResult.undo env.destroy ⟨none, none, handles⟩
        (handles.map .importedBuffer)).Balanced env :=
      CreateResult.balanced_undo (.refl _) himported fun object h =>
        List.mem_append_right _ (hmem object h)
    dsimp only
    split
    · exact hundo
    generalize hblob : (if createModeBlob then env.modeBlob.filter (· ≠ 0) else none) = modeBlob
    split
    · exact hundo
    have hblobs : ∀ id ∈ modeBlob, env.modeBlob = some id := by
      intro id h
      rw [← hblob] at h
      split at h
      · exact (Option.filter_eq_some_iff.mp h).1
      · cases h
    have hnodup : (modeBlob.toList.map KmsObject.modeBlob ++
        handles.map KmsObject.importedBuffer).Nodup := by
      cases modeBlob <;> simp [himported]
    have hobjects : ∀ object ∈ modeBlob.toList.map KmsObject.modeBlob ++
        handles.map KmsObject.importedBuffer, object ∈ env.objects := by
      intro object h
      rcases List.mem_append.mp h with h | h
      · obtain ⟨id, hid, rfl⟩ := List.mem_map.mp h
        simp [CreateEnv.objects, hblobs id (Option.mem_toList.mp hid)]
      · exact List.mem_append_right _ (hmem object h)
    split
    · exact CreateResult.balanced_undo (.refl _) hnodup hobjects
    · rename_i framebuffer hframebuffer
      refine ⟨?_, fun _ => ⟨rfl, rfl⟩, ?_, ?_⟩
      · simp [remaining, PrimaryPlaneResources.objects, PrimaryPlaneResources.framebuffers,
          PrimaryPlaneResources.modeBlobs]
      · refine List.nodup_cons.mpr ⟨?_, hnodup⟩
        simp
      · intro object h
        rcases List.mem_cons.mp h with rfl | h
        · simp [CreateEnv.objects, hframebuffer]
        · exact hobjects object h

theorem submitNativePrimaryPlane_balanced (env : PlaneSubmitEnv) :
    (submitNativePrimaryPlane env).Balanced env.create := by
  have hcreate := createResources_balanced false env.create
  unfold submitNativePrimaryPlane
  split
  · exact CreateResult.balanced_nil
  dsimp only
  split
  · exact hcreate
  · rename_i plane hplane
    split
    · exact hcreate
    · obtain ⟨hdestroyed, hcleanup⟩ := hcreate.whole (by rw [hplane]; rfl)
      have hbalance := hcreate.balance
      rw [hdestroyed, hcleanup, hplane, remaining, remaining] at hbalance
      exact CreateResult.balanced_undo (by simpa using hbalance) hcreate.nodup hcreate.created

/-- What a submission leaves in the output's hands, all of it from the buffer it was for. -/
structure PlaneSubmit.Balanced (submit : PlaneSubmit) (owner : ℕ) (env : PlaneSubmitEnv) : Prop where
  balance : (submit.destroyed ++
    (submit.result.submission.toList ++ submit.result.cleanup.toList).flatMap (·.plane.objects)).Perm
      submit.created
  whole : ∀ resource ∈ submit.result.submission, resource.plane.objects.Perm submit.created
  owner : ∀ resource ∈ submit.result.submission.toList ++ submit.result.cleanup.toList,
    resource.owner = owner
  nodup : submit.created.Nodup
  created : ∀ object ∈ submit.created, object ∈ env.create.objects
  exported : env.stage ≠ .exported → submit.created = [] ∧ submit.result.submission = none ∧
    submit.result.cleanup = none

theorem submitOwnedPlane_balanced (owner : ℕ) (env : PlaneSubmitEnv) :
    (submitOwnedPlane owner env).Balanced owner env := by
  have hnone : ∀ result : SubmitResult OwnedPlane, result.submission = none →
      result.cleanup = none → (⟨result, [], []⟩ : PlaneSubmit).Balanced owner env := by
    intro result hsubmission hcleanup
    refine ⟨by simp [hsubmission, hcleanup], ?_, ?_, .nil, (fun _ h => nomatch h),
      fun _ => ⟨rfl, hsubmission, hcleanup⟩⟩
    · simp [hsubmission]
    · simp [hsubmission, hcleanup]
  have hnative := submitNativePrimaryPlane_balanced env
  unfold submitOwnedPlane
  cases hstage : env.stage with
  | scanoutTargetNotReady => exact hnone _ rfl rfl
  | frameTargetUnavailable => exact hnone _ rfl rfl
  | scanoutExportFailed => exact hnone _ rfl rfl
  | exported =>
    dsimp only
    have hbalance := hnative.balance
    cases hresources : (submitNativePrimaryPlane env).resources with
    | some plane =>
      obtain ⟨hdestroyed, hcleanup⟩ := hnative.whole (by rw [hresources]; rfl)
      rw [hdestroyed, hcleanup, hresources] at hbalance
      have hbalance : plane.objects.Perm (submitNativePrimaryPlane env).created := by
        simpa [remaining] using hbalance
      refine ⟨?_, ?_, ?_, hnative.nodup, hnative.created, fun h => absurd hstage h⟩
      · rw [hdestroyed]
        simpa [SubmitResult.submission, SubmitResult.cleanup] using hbalance
      · rintro resource ⟨⟩
        exact hbalance
      · simp [SubmitResult.submission, SubmitResult.cleanup]
    | none =>
      rw [hresources] at hbalance
      refine ⟨?_, (fun resource h => nomatch h), ?_, hnative.nodup, hnative.created,
        fun h => absurd hstage h⟩
      · cases hcleanup : (submitNativePrimaryPlane env).cleanup with
        | none => simpa [remaining, hcleanup, SubmitResult.submission, SubmitResult.cleanup] using
            hbalance
        | some plane => simpa [remaining, hcleanup, SubmitResult.submission, SubmitResult.cleanup]
            using hbalance
      · cases (submitNativePrimaryPlane env).cleanup <;>
          simp [SubmitResult.submission, SubmitResult.cleanup]

end Create

namespace PlaneOutput

variable {out : PlaneOutput} {state : LiveRenderedOutputState OwnedPlane} {taken : ℕ}
  {made gone : List KmsObject}

/-- The objects and buffers are accounted for, whatever has been submitted. -/
structure Owned (out : PlaneOutput) : Prop where
  custody : Custody (out.created.map Prod.fst) out.destroyed out.held
  tagged : ∀ holder ∈ out.state.holders, ∀ object ∈ holder.plane.objects,
    (object, holder.owner) ∈ out.created
  holders : ∀ holder ∈ out.state.holders, holder.owner < out.owners
  made : ∀ tag ∈ out.created, tag.2 < out.owners
  dropped : ∀ owner ∈ out.dropped, owner < out.owners ∧
    ∀ holder ∈ out.state.holders, holder.owner ≠ owner

/-- A holder after the call has its objects from a holder before it, or has those just made for a
buffer just taken. -/
def FromBefore (out : PlaneOutput) (taken : ℕ) (made : List KmsObject) (holder : OwnedPlane) : Prop :=
  (∃ before ∈ out.state.holders, holder.owner = before.owner ∧
    ∀ object ∈ holder.plane.objects, object ∈ before.plane.objects) ∨
  (0 < taken ∧ holder.owner = out.owners ∧ ∀ object ∈ holder.plane.objects, object ∈ made)

theorem owned_settle (h : out.Owned) (hmade : made ≠ [] → 0 < taken)
    (hnew : (out.created.map Prod.fst ++ made).Nodup)
    (hmove : (gone ++ state.holders.flatMap (·.plane.objects)).Perm (out.held ++ made))
    (hfrom : ∀ holder ∈ state.holders, out.FromBefore taken made holder) :
    (out.settle state taken made gone).Owned := by
  have hcreated : (out.created ++ made.map (·, out.owners)).map Prod.fst =
      out.created.map Prod.fst ++ made := by simp [Function.comp_def]
  constructor
  · show Custody ((out.created ++ made.map (·, out.owners)).map Prod.fst) (out.destroyed ++ gone)
      (state.holders.flatMap (·.plane.objects))
    rw [hcreated]
    exact h.custody.move hnew hmove
  · intro holder hholder object hobject
    rcases hfrom holder hholder with ⟨before, hbefore, howner, hsub⟩ | ⟨-, howner, hsub⟩
    · rw [howner]
      exact List.mem_append_left _ (h.tagged before hbefore object (hsub object hobject))
    · rw [howner]
      exact List.mem_append_right _ (List.mem_map_of_mem (hsub object hobject))
  · intro holder hholder
    rcases hfrom holder hholder with ⟨before, hbefore, howner, -⟩ | ⟨htaken, howner, -⟩
    · rw [howner]
      exact Nat.lt_add_right taken (h.holders before hbefore)
    · rw [howner]
      exact Nat.lt_add_of_pos_right htaken
  · intro tag htag
    rcases List.mem_append.mp htag with htag | htag
    · exact Nat.lt_add_right taken (h.made tag htag)
    · obtain ⟨object, hobject, rfl⟩ := List.mem_map.mp htag
      exact Nat.lt_add_of_pos_right (hmade (List.ne_nil_of_mem hobject))
  · intro owner howner
    rcases List.mem_append.mp howner with howner | howner
    · obtain ⟨hlt, hne⟩ := h.dropped owner howner
      refine ⟨Nat.lt_add_right taken hlt, ?_⟩
      intro holder hholder
      rcases hfrom holder hholder with ⟨before, hbefore, heq, -⟩ | ⟨-, heq, -⟩
      · rw [heq]
        exact hne before hbefore
      · rw [heq]
        omega
    · obtain ⟨hmem, hout⟩ := List.mem_filter.mp howner
      refine ⟨?_, ?_⟩
      · rcases List.mem_append.mp hmem with hmem | hmem
        · obtain ⟨holder, hholder, rfl⟩ := List.mem_map.mp hmem
          exact Nat.lt_add_right taken (h.holders holder hholder)
        · obtain ⟨-, hlt⟩ := List.mem_range'_1.mp hmem
          exact hlt
      · rintro holder hholder rfl
        have hout : holder.owner ∉ state.holders.map (·.owner) := by simpa using hout
        exact hout (List.mem_map_of_mem hholder)

theorem destroyOwned_cleanup {env : DestroyEnv} {resource : Option OwnedPlane} {left : OwnedPlane}
    (h : (destroyOwned env resource).1.cleanup = some left) :
    ∃ before, resource = some before ∧ left.owner = before.owner ∧
      ∀ object ∈ left.plane.objects, object ∈ before.plane.objects := by
  cases resource with
  | none => cases h
  | some before =>
    obtain ⟨plane, hplane, rfl⟩ := Option.map_eq_some_iff.mp h
    refine ⟨before, rfl, rfl, ?_⟩
    intro object hobject
    rw [← destroy_objects env before.plane, hplane]
    exact List.mem_append_right _ hobject

theorem destroyOwned_objects (env : DestroyEnv) (resource : Option OwnedPlane) :
    (destroyOwned env resource).2 ++
      (destroyOwned env resource).1.cleanup.toList.flatMap (·.plane.objects) =
    resource.toList.flatMap (·.plane.objects) := by
  cases resource with
  | none => rfl
  | some resource =>
    have hobjects := destroy_objects env resource.plane
    rw [remaining] at hobjects
    cases hcleanup : (destroyResourceCleanup env resource.plane).cleanup with
    | none =>
      rw [hcleanup] at hobjects
      simpa [destroyOwned, hcleanup] using hobjects
    | some plane =>
      rw [hcleanup] at hobjects
      simpa [destroyOwned, hcleanup] using hobjects

/-- A call that destroys what one holder has, as far as that goes, and otherwise moves the holders
around. -/
theorem owned_destroy {env : DestroyEnv} {resource : Option OwnedPlane} {rest : List OwnedPlane}
    (h : out.Owned) (hbefore : out.state.holders.Perm (resource.toList ++ rest))
    (hafter : state.holders.Perm ((destroyOwned env resource).1.cleanup.toList ++ rest)) :
    (out.settle state 0 [] (destroyOwned env resource).2).Owned := by
  refine owned_settle h (fun h => absurd rfl h) (by simpa using h.custody.nodup) ?_ ?_
  · have hheld := hafter.flatMap_right (fun holder => holder.plane.objects)
    have hwas := hbefore.flatMap_right (fun holder => holder.plane.objects)
    rw [List.flatMap_append] at hheld hwas
    rw [List.append_nil]
    have hmoved := hheld.append_left (destroyOwned env resource).2
    rw [← List.append_assoc, destroyOwned_objects] at hmoved
    exact hmoved.trans hwas.symm
  · intro holder hholder
    refine Or.inl ?_
    rcases List.mem_append.mp (hafter.mem_iff.mp hholder) with hleft | hrest
    · obtain ⟨before, rfl, howner, hsub⟩ := destroyOwned_cleanup (Option.mem_toList.mp hleft)
      exact ⟨before, hbefore.mem_iff.mpr (by simp), howner, hsub⟩
    · exact ⟨holder, hbefore.mem_iff.mpr (List.mem_append_right _ hrest), rfl, fun _ h => h⟩

/-- Every retirement that leaves something behind finds the cleanup slot free, and every frame to
adopt an output without one. -/
def KeepsHold (out : PlaneOutput) : PlaneAction → Prop
  | .trackSubmit _ _ | .retryCleanup _ => True
  | .retireAfterPageFlip callback env =>
    ∀ resource ∈ out.state.retiredResource callback,
      env.completes resource.plane = true ∨ out.state.scanoutCleanup = none
  | .adoptPresented _ => out.state.retainDisplayedSubmission = true ∧ out.state.holders = []
  | .retireDisplayed env =>
    ∀ submission ∈ out.state.displayedSubmission,
      env.completes submission.resource.plane = true ∨ out.state.scanoutCleanup = none

/-- The handles the device gives out are new. -/
def FreshHandles (out : PlaneOutput) : PlaneAction → Prop
  | .trackSubmit _ env => ∀ object ∈ env.create.objects, object ∉ out.created.map Prod.fst
  | .adoptPresented plane =>
    plane.objects.Nodup ∧ ∀ object ∈ plane.objects, object ∉ out.created.map Prod.fst
  | .retireAfterPageFlip _ _ | .retryCleanup _ | .retireDisplayed _ => True

/-- What is left of a frame and the slot it goes into. -/
theorem cleanup_or {env : DestroyEnv} {resource : Option OwnedPlane} {slot : Option OwnedPlane}
    (h : ∀ owned ∈ resource, env.completes owned.plane = true ∨ slot = none) :
    ((destroyOwned env resource).1.cleanup.or slot).toList =
      (destroyOwned env resource).1.cleanup.toList ++ slot.toList := by
  cases resource with
  | none => rfl
  | some owned =>
    rcases h owned rfl with hcompletes | rfl
    · rw [completes_iff] at hcompletes
      simp [destroyOwned, hcompletes]
    · simp

theorem destroyOwned_status (env : DestroyEnv) (resource : Option OwnedPlane) :
    (if (destroyOwned env resource).1.status = .destroyed then none
      else (destroyOwned env resource).1.cleanup) = (destroyOwned env resource).1.cleanup := by
  split
  · rename_i h
    cases resource with
    | none => rfl
    | some owned =>
      have hnone := destroyed_iff.mp h
      simp [destroyOwned, hnone]
  · rfl

theorem waiting_eq_not_flippedBy {ρ : Type} {submission : ScanoutSubmission ρ}
    {callback : LivePageFlipCallbackReport} :
    submission.waitingForNewerPageFlip callback = !submission.flippedBy callback := by
  unfold ScanoutSubmission.waitingForNewerPageFlip ScanoutSubmission.flippedBy
  cases submission.submittedAfterPageFlipSerial with
  | none => cases callback.decision <;> cases callback.event.status <;> simp
  | some baseline =>
    cases callback.event.frameSerial with
    | none => cases callback.decision <;> cases callback.event.status <;> simp
    | some serial =>
      have hlt : decide (baseline < serial) = !decide (serial ≤ baseline) := by
        rw [← decide_not, decide_eq_decide, UInt64.not_le]
      cases callback.decision <;> cases callback.event.status <;> simp [hlt]

/-- A retirement, told by its holders: what it destroys and what it leaves where it was. -/
theorem retire_holders {callback : LivePageFlipCallbackReport} {env : DestroyEnv}
    (state : LiveRenderedOutputState OwnedPlane)
    (hkeeps : ∀ resource ∈ state.retiredResource callback,
      env.completes resource.plane = true ∨ state.scanoutCleanup = none) :
    ∃ rest, state.holders.Perm ((state.retiredResource callback).toList ++ rest) ∧
      (state.retireTrackedOutputAfterPageFlip
        (destroyOwned env (state.retiredResource callback)).1 callback).2.holders.Perm
        ((destroyOwned env (state.retiredResource callback)).1.cleanup.toList ++ rest) := by
  have hslot := cleanup_or hkeeps
  have hstatus := destroyOwned_status env (state.retiredResource callback)
  unfold LiveRenderedOutputState.retireTrackedOutputAfterPageFlip
    LiveRenderedOutputState.retiredResource at *
  cases hflight : state.scanoutSubmission with
  | none => exact ⟨state.holders, .refl _, .refl _⟩
  | some submission =>
    simp only [hflight] at hslot hstatus ⊢
    cases hwait : submission.waitingForNewerPageFlip callback with
    | true => exact ⟨state.holders, .refl _, .refl _⟩
    | false =>
      simp only [hwait, Bool.false_eq_true, if_false] at hslot hstatus ⊢
      cases hretain : state.retainDisplayedSubmission with
      | false =>
        simp only [hretain, Bool.false_eq_true, if_false] at hslot hstatus ⊢
        simp only [hstatus]
        refine ⟨(state.displayedSubmission.map (·.resource)).toList ++ state.scanoutCleanup.toList,
          ?_, ?_⟩
        · simp [LiveRenderedOutputState.holders, hflight]
        · simp only [LiveRenderedOutputState.holders, LiveRenderedOutputState.pushRetireState,
            LiveRenderedOutputState.takeOutOfFlight, hslot]
          exact List.perm_append_comm_assoc _ _ _
      | true =>
        simp only [hretain, if_true] at hslot hstatus ⊢
        cases hdisplayed : state.displayedSubmission with
        | none =>
          refine ⟨state.holders, .refl _, ?_⟩
          simp [LiveRenderedOutputState.holders, LiveRenderedOutputState.pushRetireState,
            LiveRenderedOutputState.takeOutOfFlight, hflight, hdisplayed, destroyOwned]
        | some previous =>
          simp only [hdisplayed, Option.map_some] at hslot hstatus ⊢
          simp only [hstatus]
          refine ⟨submission.resource :: state.scanoutCleanup.toList, ?_, ?_⟩
          · simp only [LiveRenderedOutputState.holders, hflight, hdisplayed]
            exact List.Perm.swap _ _ _
          · simp only [LiveRenderedOutputState.holders, LiveRenderedOutputState.pushRetireState,
              LiveRenderedOutputState.takeOutOfFlight, hslot]
            exact List.perm_append_comm_assoc [submission.resource] _ _

/-- A call that leaves the device alone and the holders what they were. -/
theorem owned_quiet (h : out.Owned) (hsame : state.holders = out.state.holders) :
    (out.settle state 0 [] []).Owned := by
  refine owned_settle h (fun h => absurd rfl h) (by simpa using h.custody.nodup) ?_ ?_
  · rw [hsame, List.append_nil]
    exact .refl _
  · intro holder hholder
    exact Or.inl ⟨holder, hsame ▸ hholder, rfl, fun _ h => h⟩

theorem trackSubmit_busy (baseline : Option UInt64)
    (h : (out.state.inFlight || out.state.cleanupPending) = true) :
    ∃ runtimeState, (out.state.trackSubmit baseline .scanoutTargetNotReady).2 =
      { out.state with runtimeScanoutState := runtimeState } := by
  unfold LiveRenderedOutputState.trackSubmit
  split
  · exact ⟨_, rfl⟩
  · split
    · exact ⟨_, rfl⟩
    · simp_all

/-- An output with nothing in flight and nothing to clean up takes what the submission leaves. -/
theorem trackSubmit_idle (baseline : Option UInt64) (result : SubmitResult OwnedPlane)
    (h : ¬ (out.state.inFlight || out.state.cleanupPending) = true) :
    out.state.scanoutSubmission = none ∧ out.state.scanoutCleanup = none ∧
    (out.state.trackSubmit baseline result).2.scanoutSubmission =
      result.submission.map (⟨·, baseline⟩) ∧
    (out.state.trackSubmit baseline result).2.displayedSubmission =
      out.state.displayedSubmission ∧
    (out.state.trackSubmit baseline result).2.scanoutCleanup = result.cleanup := by
  simp only [Bool.or_eq_true, not_or, Bool.not_eq_true] at h
  obtain ⟨hflight, hcleanup⟩ := h
  simp only [LiveRenderedOutputState.trackSubmit, hflight, hcleanup, Bool.false_eq_true, if_false]
  exact ⟨by simpa [LiveRenderedOutputState.inFlight] using hflight,
    by simpa [LiveRenderedOutputState.cleanupPending] using hcleanup, trivial, trivial, trivial⟩

theorem owned_submit {baseline : Option UInt64} {env : PlaneSubmitEnv} (h : out.Owned)
    (hfresh : ∀ object ∈ env.create.objects, object ∉ out.created.map Prod.fst)
    (hidle : ¬ (out.state.inFlight || out.state.cleanupPending) = true) :
    (out.settle (out.state.trackSubmit baseline (submitOwnedPlane out.owners env).result).2
      (if env.stage = .exported then 1 else 0) (submitOwnedPlane out.owners env).created
      (submitOwnedPlane out.owners env).destroyed).Owned := by
  have hsubmit := submitOwnedPlane_balanced out.owners env
  generalize submitOwnedPlane out.owners env = submit at hsubmit ⊢
  obtain ⟨hflight, hcleanup, hflight', hdisplayed', hcleanup'⟩ :=
    trackSubmit_idle baseline submit.result hidle
  have hholders : out.state.holders = (out.state.displayedSubmission.map (·.resource)).toList := by
    simp [LiveRenderedOutputState.holders, hflight, hcleanup]
  have hholders' : (out.state.trackSubmit baseline submit.result).2.holders.Perm
      ((submit.result.submission.toList ++ submit.result.cleanup.toList) ++ out.state.holders) := by
    rw [hholders]
    unfold LiveRenderedOutputState.holders
    rw [hflight', hdisplayed', hcleanup', Option.map_map]
    have hsubmission : submit.result.submission.map
        ((·.resource) ∘ fun x => (⟨x, baseline⟩ : ScanoutSubmission OwnedPlane)) =
        submit.result.submission := by cases submit.result.submission <;> rfl
    rw [hsubmission, List.append_assoc, List.append_assoc]
    exact List.perm_append_comm.append_left _
  refine owned_settle h ?_ ?_ ?_ ?_
  · intro hmade
    by_cases hstage : env.stage = .exported
    · rw [if_pos hstage]
      exact Nat.one_pos
    · exact absurd (hsubmit.exported hstage).1 hmade
  · rw [List.nodup_append']
    exact ⟨h.custody.nodup, hsubmit.nodup, fun object hold hnew =>
      hfresh object (hsubmit.created object hnew) hold⟩
  · have hheld := (hholders'.flatMap_right fun holder => holder.plane.objects).append_left
      submit.destroyed
    rw [List.flatMap_append, ← List.append_assoc] at hheld
    refine hheld.trans ((hsubmit.balance.append_right _).trans ?_)
    exact List.perm_append_comm
  · intro holder hholder
    rcases List.mem_append.mp (hholders'.mem_iff.mp hholder) with hnew | hold
    · refine Or.inr ⟨?_, hsubmit.owner holder hnew, ?_⟩
      · by_cases hstage : env.stage = .exported
        · rw [if_pos hstage]
          exact Nat.one_pos
        · obtain ⟨-, hsubmission, hcleaned⟩ := hsubmit.exported hstage
          simp [hsubmission, hcleaned] at hnew
      · intro object hobject
        rw [← hsubmit.balance.mem_iff]
        exact List.mem_append_right _ (List.mem_flatMap.mpr ⟨holder, hnew, hobject⟩)
    · exact Or.inl ⟨holder, hold, rfl, fun _ h => h⟩

theorem holders_eq_nil (h : state.holders = []) : state.scanoutSubmission = none ∧
    state.displayedSubmission = none ∧ state.scanoutCleanup = none := by
  simpa [LiveRenderedOutputState.holders, and_assoc] using h

theorem adopt_of_none (resource : OwnedPlane) (hretain : state.retainDisplayedSubmission = true)
    (h : state.holders = []) : state.adoptPresented resource =
      some { state with displayedSubmission := some ⟨resource, none⟩ } := by
  obtain ⟨hflight, hdisplayed, hcleanup⟩ := holders_eq_nil h
  simp [LiveRenderedOutputState.adoptPresented, LiveRenderedOutputState.inFlight,
    LiveRenderedOutputState.cleanupPending, hretain, hflight, hdisplayed, hcleanup]

theorem owned_step {action : PlaneAction} (h : out.Owned) (hfresh : out.FreshHandles action)
    (hkeeps : out.KeepsHold action) : (out.step action).Owned := by
  cases action with
  | trackSubmit baseline env =>
    simp only [step]
    split
    · rename_i hbusy
      obtain ⟨runtimeState, hstate⟩ := trackSubmit_busy baseline hbusy
      rw [hstate]
      exact owned_quiet h rfl
    · rename_i hidle
      obtain ⟨hcustody, htagged, hholders, hmade, hdropped⟩ := owned_submit h hfresh hidle
      exact ⟨hcustody, htagged, hholders, hmade, hdropped⟩
  | retireAfterPageFlip callback env =>
    obtain ⟨rest, hbefore, hafter⟩ := retire_holders out.state hkeeps
    obtain ⟨hcustody, htagged, hholders, hmade, hdropped⟩ := owned_destroy h hbefore hafter
    exact ⟨hcustody, htagged, hholders, hmade, hdropped⟩
  | retryCleanup env =>
    simp only [step]
    refine owned_destroy h List.perm_append_comm ?_
    unfold LiveRenderedOutputState.retryTrackedOutputCleanup LiveRenderedOutputState.cleanupPending
    cases hcleanup : out.state.scanoutCleanup with
    | none => simp [LiveRenderedOutputState.holders, hcleanup, destroyOwned]
    | some resource => exact List.perm_append_comm
  | adoptPresented plane =>
    obtain ⟨hretain, hnone⟩ := hkeeps
    have hadopt := adopt_of_none ⟨out.owners, plane⟩ hretain hnone
    simp only [step, hadopt, Option.getD_some]
    have hafter : LiveRenderedOutputState.holders { out.state with
        displayedSubmission := some ⟨⟨out.owners, plane⟩, none⟩ } = [⟨out.owners, plane⟩] := by
      obtain ⟨hflight, -, hcleanup⟩ := holders_eq_nil hnone
      simp [LiveRenderedOutputState.holders, hflight, hcleanup]
    refine owned_settle h (fun _ => Nat.one_pos) ?_ ?_ ?_
    · rw [List.nodup_append']
      exact ⟨h.custody.nodup, hfresh.1, fun object hold hnew => hfresh.2 object hnew hold⟩
    · rw [hafter, held, hnone]
      simp
    · intro holder hholder
      rw [hafter, List.mem_singleton] at hholder
      subst hholder
      exact Or.inr ⟨Nat.one_pos, rfl, fun _ h => h⟩
  | retireDisplayed env =>
    simp only [step]
    cases hdisplayed : out.state.displayedSubmission with
    | none =>
      refine owned_quiet h ?_
      simp [LiveRenderedOutputState.retireDisplayed, LiveRenderedOutputState.holders, hdisplayed]
    | some submission =>
      have hkeeps : ∀ resource ∈ some submission.resource,
          env.completes resource.plane = true ∨ out.state.scanoutCleanup = none := by
        rintro resource ⟨⟩
        exact hkeeps submission hdisplayed
      have hslot := cleanup_or hkeeps
      have hbefore : out.state.holders.Perm ((some submission.resource).toList ++
          ((out.state.scanoutSubmission.map (·.resource)).toList ++
            out.state.scanoutCleanup.toList)) := by
        rw [LiveRenderedOutputState.holders, hdisplayed, List.append_assoc]
        exact List.perm_append_comm_assoc _ _ _
      refine owned_destroy h hbefore ?_
      simp only [LiveRenderedOutputState.retireDisplayed, hdisplayed,
        LiveRenderedOutputState.holders, Option.map_some, Option.map_none, Option.toList_none,
        List.append_nil]
      rw [hslot]
      exact List.perm_append_comm_assoc _ _ _

/-- What is in flight still has all its objects, and what has left was let go by its page flip. -/
structure Landed (out : PlaneOutput) : Prop where
  flight : ∀ submission ∈ out.state.scanoutSubmission, ∀ tag ∈ out.created,
    tag.2 = submission.resource.owner → tag.1 ∈ submission.resource.plane.objects
  landed : ∀ owner ∈ out.submitted, owner ∈ out.flipped ∨
    ∃ submission ∈ out.state.scanoutSubmission, submission.resource.owner = owner

theorem holder_of_flight {submission : ScanoutSubmission OwnedPlane}
    (h : out.state.scanoutSubmission = some submission) :
    submission.resource ∈ out.state.holders := by
  simp [LiveRenderedOutputState.holders, h]

/-- Objects of other buffers do not matter to the frame in flight. -/
theorem flight_settle (taken : ℕ) (made gone : List KmsObject) (h : out.Owned) (hl : out.Landed)
    (hflight : ∀ submission ∈ state.scanoutSubmission,
      out.state.scanoutSubmission = some submission) :
    ∀ submission ∈ state.scanoutSubmission, ∀ tag ∈ (out.settle state taken made gone).created,
      tag.2 = submission.resource.owner → tag.1 ∈ submission.resource.plane.objects := by
  intro submission hsubmission tag htag howner
  have hbefore := hflight submission hsubmission
  rcases List.mem_append.mp htag with htag | htag
  · exact hl.flight submission hbefore tag htag howner
  · obtain ⟨object, -, rfl⟩ := List.mem_map.mp htag
    have hlt := h.holders _ (holder_of_flight hbefore)
    have howner : out.owners = submission.resource.owner := howner
    omega

theorem landed_settle (h : out.Owned) (hl : out.Landed)
    (hflight : state.scanoutSubmission = out.state.scanoutSubmission) :
    (out.settle state taken made gone).Landed := by
  refine ⟨flight_settle taken made gone h hl fun _ hsubmission => hflight ▸ hsubmission, ?_⟩
  intro owner howner
  rcases hl.landed owner howner with hflipped | ⟨submission, hsubmission, howner⟩
  · exact Or.inl hflipped
  · exact Or.inr ⟨submission, hflight ▸ hsubmission, howner⟩

/-- A retirement takes a frame out of flight only with a page flip of its own. -/
theorem retire_flight (state : LiveRenderedOutputState OwnedPlane)
    (destroy : ResourceDestroyReport OwnedPlane) (callback : LivePageFlipCallbackReport) :
    (state.retireTrackedOutputAfterPageFlip destroy callback).2.scanoutSubmission =
      state.scanoutSubmission.filter (!·.flippedBy callback) := by
  unfold LiveRenderedOutputState.retireTrackedOutputAfterPageFlip
  cases hflight : state.scanoutSubmission with
  | none => simp [hflight]
  | some submission =>
    simp only [waiting_eq_not_flippedBy]
    cases hflipped : submission.flippedBy callback with
    | false => simp [hflight, Option.filter, hflipped]
    | true =>
      simp only [Bool.not_true, Bool.false_eq_true, if_false, Option.filter_some, hflipped]
      split <;> rfl

theorem landed_step {action : PlaneAction} (h : out.Owned) (hl : out.Landed) :
    (out.step action).Landed := by
  cases action with
  | trackSubmit baseline env =>
    simp only [step]
    split
    · rename_i hbusy
      obtain ⟨runtimeState, hstate⟩ := trackSubmit_busy baseline hbusy
      rw [hstate]
      exact landed_settle h hl rfl
    · rename_i hidle
      obtain ⟨hnone, -, hflight, -, -⟩ := trackSubmit_idle baseline
        (submitOwnedPlane out.owners env).result hidle
      have hsubmit := submitOwnedPlane_balanced out.owners env
      generalize submitOwnedPlane out.owners env = submit at hsubmit hflight ⊢
      refine ⟨?_, ?_⟩
      · intro submission hsubmission tag htag howner
        have hsubmission := hflight.symm.trans hsubmission
        obtain ⟨resource, hresource, rfl⟩ := Option.map_eq_some_iff.mp hsubmission
        have hnumber := hsubmit.owner resource (by simp [hresource])
        have howner : tag.2 = resource.owner := howner
        rcases List.mem_append.mp htag with htag | htag
        · have hlt := h.made tag htag
          omega
        · obtain ⟨object, hobject, rfl⟩ := List.mem_map.mp htag
          exact (hsubmit.whole resource hresource).mem_iff.mpr hobject
      · intro owner howner
        rcases List.mem_append.mp howner with howner | howner
        · refine Or.inl ((hl.landed owner howner).resolve_right ?_)
          rintro ⟨submission, hsubmission, -⟩
          cases hnone.symm.trans hsubmission
        · obtain ⟨resource, hresource, rfl⟩ :=
            Option.map_eq_some_iff.mp (Option.mem_toList.mp howner)
          refine Or.inr ⟨⟨resource, baseline⟩, ?_, rfl⟩
          exact hflight.trans (by rw [hresource]; rfl)
  | retireAfterPageFlip callback env =>
    have hflight := retire_flight out.state
      (destroyOwned env (out.state.retiredResource callback)).1 callback
    refine ⟨?_, ?_⟩
    · refine flight_settle 0 [] (destroyOwned env (out.state.retiredResource callback)).2 h hl
        fun submission hsubmission => ?_
      exact (Option.filter_eq_some_iff.mp (hflight.symm.trans hsubmission)).1
    · intro owner howner
      rcases hl.landed owner howner with hflipped | ⟨submission, hsubmission, rfl⟩
      · exact Or.inl (List.mem_append_left _ hflipped)
      have hsubmission : out.state.scanoutSubmission = some submission := hsubmission
      cases hnew : submission.flippedBy callback with
      | true =>
        refine Or.inl (List.mem_append_right _ ?_)
        simp [hsubmission, Option.filter, hnew]
      | false =>
        refine Or.inr ⟨submission, hflight.trans ?_, rfl⟩
        simp [hsubmission, Option.filter, hnew]
  | retryCleanup env =>
    simp only [step]
    refine landed_settle h hl ?_
    unfold LiveRenderedOutputState.retryTrackedOutputCleanup
    split <;> rfl
  | adoptPresented plane =>
    simp only [step]
    refine landed_settle h hl ?_
    unfold LiveRenderedOutputState.adoptPresented
    split <;> rfl
  | retireDisplayed env =>
    simp only [step]
    refine landed_settle h hl ?_
    unfold LiveRenderedOutputState.retireDisplayed
    dsimp only
    split <;> rfl

/-- Each object is destroyed once and held by nobody, or held by one and not destroyed; a buffer is
dropped when its objects are gone; and a submission's objects go after a page flip of its own. -/
structure Accounted (out : PlaneOutput) : Prop where
  once : ∀ tag ∈ out.created, out.destroyed.count tag.1 + out.held.count tag.1 = 1
  dropped : ∀ tag ∈ out.created, tag.2 ∈ out.dropped → tag.1 ∈ out.destroyed
  flipped : ∀ tag ∈ out.created, tag.2 ∈ out.submitted → tag.1 ∈ out.destroyed →
    tag.2 ∈ out.flipped

/-- An object names the buffer it was made from. -/
theorem owner_unique (h : out.Owned) {object : KmsObject} {owner owner' : ℕ}
    (hmem : (object, owner) ∈ out.created) (hmem' : (object, owner') ∈ out.created) :
    owner = owner' := by
  have hinj := List.inj_on_of_nodup_map h.custody.nodup hmem hmem' rfl
  exact (Prod.mk.inj hinj).2

theorem accounted_of_owned (h : out.Owned) (hl : out.Landed) : out.Accounted := by
  refine ⟨fun tag htag => h.custody.once (List.mem_map_of_mem htag), ?_, ?_⟩
  · intro tag htag hdropped
    rcases h.custody.mem_iff.mp (List.mem_map_of_mem htag) with hgone | hheld
    · exact hgone
    · obtain ⟨holder, hholder, hobject⟩ := List.mem_flatMap.mp hheld
      have howner := owner_unique h htag (h.tagged holder hholder tag.1 hobject)
      exact absurd howner.symm ((h.dropped tag.2 hdropped).2 holder hholder)
  · intro tag htag hsubmitted hgone
    rcases hl.landed tag.2 hsubmitted with hflipped | ⟨submission, hsubmission, howner⟩
    · exact hflipped
    · have hobject := hl.flight submission hsubmission tag htag howner.symm
      refine absurd ?_ (h.custody.not_held_of_gone hgone)
      exact List.mem_flatMap.mpr ⟨_, holder_of_flight hsubmission, hobject⟩

theorem owned_new (output : OutputId) (persistent : Bool) : (new output persistent).Owned :=
  ⟨.nil, (fun _ h => nomatch h), (fun _ h => nomatch h), (fun _ h => nomatch h),
    (fun _ h => nomatch h)⟩

theorem landed_new (output : OutputId) (persistent : Bool) : (new output persistent).Landed :=
  ⟨(fun _ h => nomatch h), (fun _ h => nomatch h)⟩

/-- On a device with fresh handles, as long as no leftover overwrites another, every object and every
buffer is accounted for at every point. -/
theorem planes_accounted (output : OutputId) (persistent : Bool) (actions : List PlaneAction)
    (hfresh : Run.Guarded step FreshHandles (new output persistent) actions)
    (hkeeps : Run.Guarded step KeepsHold (new output persistent) actions) :
    (Run.exec step (new output persistent) actions).Accounted := by
  have hboth : Run.Guarded step (fun out action => out.FreshHandles action ∧ out.KeepsHold action)
      (new output persistent) actions :=
    fun before action after he => ⟨hfresh before action after he, hkeeps before action after he⟩
  obtain ⟨howned, hlanded⟩ := Run.invariant (P := fun out : PlaneOutput => out.Owned ∧ out.Landed)
    ⟨owned_new output persistent, landed_new output persistent⟩
    (fun out action hok h => ⟨owned_step h.1 hok.1 hok.2, landed_step h.1 h.2⟩) hboth
  exact accounted_of_owned howned hlanded

instance (out : PlaneOutput) : (action : PlaneAction) → Decidable (out.FreshHandles action)
  | .trackSubmit _ _ => inferInstanceAs (Decidable (∀ _ ∈ _, _))
  | .adoptPresented _ => inferInstanceAs (Decidable (_ ∧ ∀ _ ∈ _, _))
  | .retireAfterPageFlip _ _ | .retryCleanup _ | .retireDisplayed _ => .isTrue trivial

instance (out : PlaneOutput) : (action : PlaneAction) → Decidable (out.KeepsHold action)
  | .trackSubmit _ _ | .retryCleanup _ => .isTrue trivial
  | .retireAfterPageFlip _ _ => inferInstanceAs (Decidable (∀ _ ∈ _, _ ∨ _))
  | .adoptPresented _ => inferInstanceAs (Decidable (_ ∧ _))
  | .retireDisplayed _ => inferInstanceAs (Decidable (∀ _ ∈ _, _ ∨ _))

/-- A frame with a framebuffer and one imported buffer of that handle is committed and flips. -/
def showFrame (handle : UInt32) (serial : UInt64) (destroy : DestroyEnv) : List PlaneAction :=
  [.trackSubmit (if serial = 1 then none else some (serial - 1))
    ⟨.exported, true, ⟨true, [some handle], true, none, some handle, destroy⟩, true, true, destroy⟩,
    .retireAfterPageFlip ⟨.accepted, ⟨.presented, some serial⟩⟩ destroy]

def destroys : DestroyEnv := ⟨true, true, fun _ => .ok⟩

def failsToDestroy : DestroyEnv := ⟨false, true, fun _ => .ok⟩

/-- The first frame is left for a cleanup, which succeeds before the second one is let go. -/
theorem planes_accounted_shutdown :
    (Run.exec step (new ⟨1⟩ true) (showFrame 1 1 destroys ++ showFrame 2 2 failsToDestroy ++
      [.retryCleanup destroys, .retireDisplayed destroys])).Accounted :=
  planes_accounted ⟨1⟩ true _ (by decide) (by decide)

/-- The leftover of the first frame is overwritten by that of the second: its framebuffer is neither
destroyed nor held. -/
theorem second_leftover_overwrites_first :
    Run.Guarded step FreshHandles (new ⟨1⟩ true)
      (showFrame 1 1 destroys ++ showFrame 2 2 failsToDestroy ++
        [.retireDisplayed failsToDestroy]) ∧
    ¬ (Run.exec step (new ⟨1⟩ true) (showFrame 1 1 destroys ++ showFrame 2 2 failsToDestroy ++
      [.retireDisplayed failsToDestroy])).Accounted := by
  refine ⟨by decide, ?_⟩
  intro h
  have honce := h.once (.framebuffer 1, 0) (by decide)
  revert honce
  decide

end PlaneOutput
end Sophia.Backend
