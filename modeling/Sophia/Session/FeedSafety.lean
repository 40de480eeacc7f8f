import Sophia.Session.FeedAgreement

/-! No production cycle fails while the registry has room for what the clients import. -/
namespace Sophia.Session

open Std Protocol Authority Renderer Backend LiveDmaBufPresentationRegistry FullRuntime

namespace AuthorityFeed

/-- The authority answers the request without an error. -/
def Accepts (feed : AuthorityFeed) (context : XDispatchContext) (request : XWireRequest) : Prop :=
  (dispatchX11WireRequest feed.runtime context request).1.errors = []

/-- There is room for what an accepted request enters, a refused import names no buffer of its
namespace, and the fence an accepted presentation waits for can be asked. -/
structure HasRoom (feed : AuthorityFeed) (query : OwnedFd → Option Bool) (context : XDispatchContext)
    (request : XWireRequest) : Prop where
  source : ∀ pixmap ∈ request.dri3Pixmap,
    (feed.Accepts context request → feed.registry.sources.size < feed.registry.limits.sources ∧
      ¬ Stuck feed.runtime.nextDmaBufHandle (· ∈ feed.registry.sources)) ∧
    (¬ feed.Accepts context request →
      (feed.runtime.dri3PixmapDescriptor context.namespaceId pixmap).toOption = none)
  fence : ∀ fence ∈ request.dri3FenceRequest, feed.Accepts context request →
    feed.registry.fences.size < feed.registry.limits.fences ∧
      ¬ Stuck feed.runtime.nextFenceHandle (· ∈ feed.registry.fences)
  present : ∀ present ∈ request.presentRequest, feed.Accepts context request →
    present.pixmap ∈ feed.runtime.dri3Pixmaps →
      feed.registry.presentations.size < feed.registry.limits.presentations ∧
        feed.registry.Answers ⟨fun _ => true, query, fun _ => true⟩
          (present.waitFence.bind feed.runtime.fenceOf)

/-- The guard of a step: only requests can be asked for room. -/
def Takes (feed : AuthorityFeed) : FeedAction → Prop
  | .request query _ context _ request => ∀ allocated ∈ feed.transactions.nextId,
    feed.HasRoom query context (request.identified allocated.1)
  | .teardown .. | .backend .. => True

/-- The tables agree, and no production cycle has failed. -/
structure Sound (feed : AuthorityFeed) : Prop where
  agrees : Agrees feed.runtime feed.registry feed.transactions.next.toNat
  failures : feed.failures = []

variable {feed : AuthorityFeed} {os : Os} {now : Instant} {trace : X11CoreDispatchTrace}
  {batch : LiveProductionAuthorityBatch} {after : LiveDmaBufPresentationRegistry}

section Production

/-- Feeding a batch with nothing in it changes nothing, so it need not be sent. -/
theorem deliver_eq (feed : AuthorityFeed) (os : Os) (now : Instant)
    (trace : X11CoreDispatchTrace) :
    feed.deliver os now trace = feed.production os now (trace.batch os) := by
  unfold deliver X11CoreDispatchTrace.fromDispatchTrace
  dsimp only
  split
  · rename_i hempty
    obtain ⟨-, -, hsources, hfences, hpresents, hbuffers, hreleased⟩ := hempty
    simp [production, observeAuthorityResources, LiveProductionPresentScheduler.enqueueBatch,
      Run.tryEach, hsources, hfences, hpresents, hbuffers, hreleased]
  · rfl

/-- What a batch without imports and presentations does is to release. -/
theorem production_releases (hsources : batch.dmaBufRegistrations = [])
    (hfences : batch.fenceRegistrations = []) (hpresents : batch.presentSubmissions = []) :
    feed.production os now batch = { feed with
      registry := batch.releasedFences.foldl (fun registry fence => (registry.removeFence fence).2)
        (batch.releasedDmaBufs.foldl (fun registry handle => (registry.removeSource handle).2)
          feed.registry) } := by
  simp [production, observeAuthorityResources, LiveProductionPresentScheduler.enqueueBatch,
    Run.tryEach, hsources, hfences, hpresents]

theorem production_registers {descriptor : DmaBufDescriptor} {fds : List OwnedFd}
    (h : feed.registry.registerSource descriptor fds = .ok after)
    (hclone : ∀ fd, (os batch.transaction).tryClone fd = true)
    (hsources : batch.dmaBufRegistrations = [⟨descriptor, fds⟩])
    (hfences : batch.fenceRegistrations = []) (hpresents : batch.presentSubmissions = [])
    (hbuffers : batch.releasedDmaBufs = []) (hreleased : batch.releasedFences = []) :
    feed.production os now batch = { feed with registry := after } := by
  simp [production, observeAuthorityResources, LiveProductionPresentScheduler.enqueueBatch,
    Run.tryEach, hsources, hfences, hpresents, hbuffers, hreleased, registerDmaBuf, hclone, h,
    liftRegistry]

theorem production_registersFence {handle : FenceHandle} {initiallyTriggered : Bool} {fd : OwnedFd}
    (h : feed.registry.registerFence handle fd = .ok after)
    (hclone : ∀ fd, (os batch.transaction).tryClone fd = true)
    (hsources : batch.dmaBufRegistrations = [])
    (hfences : batch.fenceRegistrations = [⟨handle, initiallyTriggered, fd⟩])
    (hpresents : batch.presentSubmissions = []) (hbuffers : batch.releasedDmaBufs = [])
    (hreleased : batch.releasedFences = []) :
    feed.production os now batch = { feed with registry := after } := by
  simp [production, observeAuthorityResources, LiveProductionPresentScheduler.enqueueBatch,
    Run.tryEach, hsources, hfences, hpresents, hbuffers, hreleased, registerFenceFd, hclone, h,
    liftRegistry]

/-- A submission finds its transaction in its own batch. -/
theorem production_begins (os : Os) (now : Instant) (batch : LiveProductionAuthorityBatch)
    (submission : LiveProductionPresentSubmission) {transaction : SurfaceTransaction}
    (hsources : batch.dmaBufRegistrations = []) (hfences : batch.fenceRegistrations = [])
    (hpresents : batch.presentSubmissions = [submission])
    (hbuffers : batch.releasedDmaBufs = []) (hreleased : batch.releasedFences = [])
    (hhead : batch.transactions.head? = some transaction)
    (hsurface : submission.surface = transaction.surface)
    (h : feed.registry.beginPresent (os submission.transaction) submission.transaction
      submission.buffer submission.acquireFence submission.idleFence = .ok after) :
    ∃ scheduler, feed.production os now batch = { feed with scheduler, registry := after } := by
  have hfind : batch.transactions.find? (fun tx => tx.surface = submission.surface) =
      some transaction := by
    cases htransactions : batch.transactions with
    | nil =>
      rw [htransactions] at hhead
      cases hhead
    | cons first rest =>
      rw [htransactions] at hhead
      cases hhead
      rw [List.find?_cons_of_pos]
      simp [hsurface]
  simp [production, observeAuthorityResources, LiveProductionPresentScheduler.enqueueBatch,
    Run.tryEach, hsources, hfences, hpresents, hbuffers, hreleased,
    LiveProductionPresentScheduler.enqueue, hfind, h]

end Production

section Dispatch

variable {runtime next : FullRuntime} {context : XDispatchContext} {request : XWireRequest}
  {drawable resource pixmap fence : XResourceId} {created : Result FullRuntime} {n : ℕ}

theorem concludeOn_cases :
    let answer := concludeOn runtime context drawable resource created
    (answer.1.errors ≠ [] ∧ answer.1.response = none ∧ answer.2 = runtime) ∨
      (answer.1 = ⟨none, []⟩ ∧ created = .ok answer.2) := by
  dsimp only
  unfold concludeOn
  split
  · exact .inl ⟨List.cons_ne_nil _ _, rfl, rfl⟩
  · cases created with
    | error error => exact .inl ⟨List.cons_ne_nil _ _, rfl, rfl⟩
    | ok next => exact .inr ⟨rfl, rfl⟩

/-- An import is refused and changes nothing, or enters a buffer with as many planes as the request
brings descriptors. -/
theorem dispatch_import (runtime : FullRuntime) (context : XDispatchContext)
    (h : request.dri3Pixmap = some pixmap) :
    let answer := dispatchX11WireRequest runtime context request
    (answer.1.errors ≠ [] ∧ answer.1.response = none ∧ answer.2 = runtime) ∨
      (answer.1 = ⟨none, []⟩ ∧ ∃ descriptor,
        runtime.Imports answer.2 context.namespaceId pixmap descriptor ∧
          descriptor.planeCount.toNat = request.requiredFdCount) := by
  cases request with
  | dri3PixmapFromBuffer pixmap drawable sizeBytes width height stride depth bitsPerPixel =>
    cases h
    refine concludeOn_cases.imp_right ?_
    rintro ⟨hanswer, hcreated⟩
    obtain ⟨created, hcreate, hnext⟩ := Fallible.map_eq_ok.mp hcreated
    obtain ⟨himports, hplanes⟩ := imports_createDri3Pixmap hcreate
    refine ⟨hanswer, created.1, ?_, by rw [hplanes]; rfl⟩
    rw [hnext] at himports
    exact himports
  | dri3PixmapFromBuffers pixmap window numBuffers width height strides offsets depth bitsPerPixel
      modifier =>
    cases h
    refine concludeOn_cases.imp_right ?_
    rintro ⟨hanswer, hcreated⟩
    obtain ⟨created, hcreate, hnext⟩ := Fallible.map_eq_ok.mp hcreated
    obtain ⟨himports, hplanes⟩ := imports_createDri3PixmapFromBuffers hcreate
    refine ⟨hanswer, created.1, ?_, by rw [hplanes]; rfl⟩
    rw [hnext] at himports
    exact himports
  | _ => cases h

theorem dispatch_fence (runtime : FullRuntime) (context : XDispatchContext)
    (drawable fence : XResourceId) (initiallyTriggered : Bool) :
    let answer := dispatchX11WireRequest runtime context
      (.dri3FenceFromFd drawable fence initiallyTriggered)
    (answer.1.errors ≠ [] ∧ answer.1.response = none ∧ answer.2 = runtime) ∨
      (answer.1 = ⟨none, []⟩ ∧ ∃ handle,
        runtime.ImportsFence answer.2 context.namespaceId fence handle) := by
  refine concludeOn_cases.imp_right ?_
  rintro ⟨hanswer, hcreated⟩
  obtain ⟨made, hmade, hnext⟩ := Fallible.map_eq_ok.mp hcreated
  have himports := imports_createDri3Fence hmade
  rw [hnext] at himports
  exact ⟨hanswer, made.1, himports⟩

theorem dispatch_free (runtime : FullRuntime) (context : XDispatchContext) (pixmap : XResourceId) :
    let answer := dispatchX11WireRequest runtime context (.freePixmap pixmap)
    answer.1.response = none ∧ runtime.Drops answer.2
      ((runtime.dri3PixmapDescriptor context.namespaceId pixmap).toOption.map (·.handle)).toList
      [] := by
  have hdrops := drops_freePixmap runtime context.namespaceId pixmap
  simp only [dispatchX11WireRequest]
  cases hfree : runtime.freePixmap context.namespaceId pixmap with
  | error error =>
    rw [hfree] at hdrops
    exact ⟨rfl, hdrops⟩
  | ok freed =>
    rw [hfree] at hdrops
    exact ⟨rfl, hdrops⟩

theorem dispatch_destroy (runtime : FullRuntime) (context : XDispatchContext) (fence : XResourceId) :
    let answer := dispatchX11WireRequest runtime context (.syncDestroyFence fence)
    answer.1.response = none ∧ runtime.Drops answer.2 []
      (runtime.dri3FenceHandle context.namespaceId fence).toOption.toList := by
  have hdrops := drops_destroyDri3Fence runtime context.namespaceId fence
  simp only [dispatchX11WireRequest]
  cases hdestroy : runtime.destroyDri3Fence context.namespaceId fence with
  | mk result next =>
    rw [hdestroy] at hdrops
    cases result with
    | error error => exact ⟨rfl, hdrops⟩
    | ok handle => exact ⟨rfl, hdrops⟩

/-- Quiet calls leave the imports alone. -/
theorem sameImports_calls {calls : List RuntimeCall} (h : ∀ call ∈ calls, call.quiet) :
    SameImports runtime (Run.exec FullRuntime.step runtime calls) := by
  induction calls generalizing runtime with
  | nil => exact .refl runtime
  | cons call calls ih =>
    have hone := (quiet_step runtime call (h call List.mem_cons_self)).toSameImports
    exact hone.trans (ih fun other hother => h other (List.mem_cons_of_mem call hother))

theorem sameImports_dispatchPresentPixmap (runtime : FullRuntime) (context : XDispatchContext)
    (request : XPresentPixmap) :
    SameImports runtime (runtime.dispatchPresentPixmap context request).2 := by
  unfold dispatchPresentPixmap
  split
  · exact .refl runtime
  · exact (quiet_step runtime (.presentStandardPixmap request.transaction context.namespaceId
      request.window request.pixmap) rfl).toSameImports

/-- The buffer that an answered Present shows is the one of its pixmap. -/
theorem dispatchPresentPixmap_shows {present : XPresentPixmap} {response : XAuthorityResponsePacket}
    {built : SurfaceTransaction} {handle : UInt64}
    (hresponse : (runtime.dispatchPresentPixmap context present).1.response = some response)
    (hhead : response.transactions.head? = some built)
    (hbuffer : built.targetBuffer = .dmaBuf handle) :
    runtime.bufferOf present.pixmap = some (.fromRaw handle) := by
  unfold dispatchPresentPixmap at hresponse
  split at hresponse
  · cases hresponse
  · cases hresponse
    exact presentStandardPixmap_shows hhead hbuffer

end Dispatch

section Deliver

variable {runtime : FullRuntime} {query : OwnedFd → Option Bool}

theorem sound_of_failures {registry : LiveDmaBufPresentationRegistry}
    {scheduler : LiveProductionPresentScheduler} (hfailures : feed.failures = [])
    (h : Agrees feed.runtime registry feed.transactions.next.toNat) :
    Sound { feed with registry, scheduler } := ⟨h, hfailures⟩

/-- What the authority dropped is released. -/
theorem sound_releases (hfailures : feed.failures = [])
    (h : Agrees runtime feed.registry feed.transactions.next.toNat)
    (hdrops : runtime.Drops feed.runtime trace.releasedDmaBufs trace.releasedFences)
    (himport : trace.dri3PixmapImport = none) (hfence : trace.dri3FenceImport = none)
    (hpresent : trace.presentSubmission = none) : (feed.deliver os now trace).Sound := by
  rw [deliver_eq, production_releases]
  · have hbuffers := shrinks_removeSources trace.releasedDmaBufs h.kept
    have hfences := shrinks_removeFences trace.releasedFences hbuffers.kept
    have hall := hbuffers.trans hfences
    rw [List.append_nil, List.nil_append] at hall
    exact sound_of_failures hfailures (h.drops hdrops hall)
  · simp [X11CoreDispatchTrace.batch, X11CoreDispatchTrace.dmaBufRegistrations, himport]
  · simp [X11CoreDispatchTrace.batch, X11CoreDispatchTrace.fenceRegistrations, hfence]
  · simp [X11CoreDispatchTrace.batch, hpresent]

/-- A trace that tells of no resource leaves the registry alone. -/
theorem sound_nothing (hfailures : feed.failures = [])
    (h : Agrees runtime feed.registry feed.transactions.next.toNat)
    (hsame : SameImports runtime feed.runtime) (hbuffers : trace.releasedDmaBufs = [])
    (hfences : trace.releasedFences = []) (himport : trace.dri3PixmapImport = none)
    (hfence : trace.dri3FenceImport = none) (hpresent : trace.presentSubmission = none) :
    (feed.deliver os now trace).Sound := by
  refine sound_releases hfailures h ?_ himport hfence hpresent
  rw [hbuffers, hfences]
  exact hsame.drops

theorem sound_import (ns : NamespaceId) (id : XResourceId) (descriptor : DmaBufDescriptor)
    (hfailures : feed.failures = [])
    (h : Agrees runtime feed.registry feed.transactions.next.toNat)
    (himports : runtime.Imports feed.runtime ns id descriptor)
    (hfds : trace.receivedFds.length = descriptor.planeCount.toNat)
    (hroom : feed.registry.sources.size < feed.registry.limits.sources)
    (hstuck : ¬ Stuck runtime.nextDmaBufHandle (· ∈ feed.registry.sources))
    (himport : trace.dri3PixmapImport = some descriptor) (hfence : trace.dri3FenceImport = none)
    (hpresent : trace.presentSubmission = none) (hbuffers : trace.releasedDmaBufs = [])
    (hfences : trace.releasedFences = []) :
    (feed.deliver (duplicating query) now trace).Sound := by
  obtain ⟨after, hregister, hagrees⟩ := h.imports himports hfds hroom hstuck
  rw [deliver_eq, production_registers hregister]
  · exact sound_of_failures hfailures hagrees
  · exact fun _ => rfl
  · simp [X11CoreDispatchTrace.batch, X11CoreDispatchTrace.dmaBufRegistrations, himport, duplicating]
  · simp [X11CoreDispatchTrace.batch, X11CoreDispatchTrace.fenceRegistrations, hfence]
  · simp [X11CoreDispatchTrace.batch, hpresent]
  · exact hbuffers
  · exact hfences

theorem sound_importFence (ns : NamespaceId) (id : XResourceId) (handle : FenceHandle)
    (initiallyTriggered : Bool) (fd : OwnedFd) (hfailures : feed.failures = [])
    (h : Agrees runtime feed.registry feed.transactions.next.toNat)
    (himports : runtime.ImportsFence feed.runtime ns id handle)
    (hfds : trace.receivedFds = [fd])
    (hroom : feed.registry.fences.size < feed.registry.limits.fences)
    (hstuck : ¬ Stuck runtime.nextFenceHandle (· ∈ feed.registry.fences))
    (himport : trace.dri3PixmapImport = none)
    (hfence : trace.dri3FenceImport = some (handle, initiallyTriggered))
    (hpresent : trace.presentSubmission = none) (hbuffers : trace.releasedDmaBufs = [])
    (hfences : trace.releasedFences = []) :
    (feed.deliver (duplicating query) now trace).Sound := by
  obtain ⟨after, hregister, hagrees⟩ := h.importsFence fd himports hroom hstuck
  rw [deliver_eq, production_registersFence hregister]
  · exact sound_of_failures hfailures hagrees
  · exact fun _ => rfl
  · simp [X11CoreDispatchTrace.batch, X11CoreDispatchTrace.dmaBufRegistrations, himport]
  · simp [X11CoreDispatchTrace.batch, X11CoreDispatchTrace.fenceRegistrations, hfence, hfds,
      duplicating]
    rfl
  · simp [X11CoreDispatchTrace.batch, hpresent]
  · exact hbuffers
  · exact hfences

theorem sound_present (submission : XAuthorityPresentSubmission)
    {response : XAuthorityResponsePacket} {built : SurfaceTransaction} {n : ℕ}
    (hfailures : feed.failures = []) (h : Agrees feed.runtime feed.registry n)
    (hresponse : trace.result.response = some response)
    (hhead : response.transactions.head? = some built)
    (hsurface : submission.surface = built.surface)
    (hnew : n ≤ submission.transaction.raw.toNat)
    (hlater : submission.transaction.raw.toNat < feed.transactions.next.toNat)
    (hroom : feed.registry.presentations.size < feed.registry.limits.presentations)
    (hbuffer : ∃ id, feed.runtime.bufferOf id = some submission.buffer)
    (hacquire : ∀ fence ∈ submission.acquireFence, ∃ id, feed.runtime.fenceOf id = some fence)
    (hidle : ∀ fence ∈ submission.idleFence, ∃ id, feed.runtime.fenceOf id = some fence)
    (hanswers : feed.registry.Answers ⟨fun _ => true, query, fun _ => true⟩ submission.acquireFence)
    (himport : trace.dri3PixmapImport = none) (hfence : trace.dri3FenceImport = none)
    (hpresent : trace.presentSubmission = some submission)
    (hbuffers : trace.releasedDmaBufs = []) (hfences : trace.releasedFences = []) :
    (feed.deliver (duplicating query) now trace).Sound := by
  obtain ⟨after, hbegin, hagrees⟩ := h.begins ⟨fun _ => true, query, fun _ => true⟩
    (fun _ => rfl) hnew hlater hroom hbuffer hacquire hidle hanswers
  rw [deliver_eq]
  obtain ⟨scheduler, hproduction⟩ := production_begins (duplicating query) now
    (trace.batch (duplicating query)) ⟨submission.transaction, submission.surface,
      submission.buffer, submission.acquireFence, submission.idleFence⟩
    (by simp [X11CoreDispatchTrace.batch, X11CoreDispatchTrace.dmaBufRegistrations, himport])
    (by simp [X11CoreDispatchTrace.batch, X11CoreDispatchTrace.fenceRegistrations, hfence])
    (by simp [X11CoreDispatchTrace.batch, hpresent]) hbuffers hfences
    (by simp [X11CoreDispatchTrace.batch, hresponse, hhead]) hsurface hbegin
  rw [hproduction]
  exact sound_of_failures hfailures hagrees

end Deliver

section Request

variable {query : OwnedFd → Option Bool} {context : XDispatchContext} {fds : List OwnedFd}
  {request : XWireRequest} {transactions : IdAllocator .transactionId} {errors : List XClientError}
  {pixmap drawable fence : XResourceId}

/-- The feed once the worker has observed a request, before the batch is fed. -/
def observed (feed : AuthorityFeed) (transactions : IdAllocator .transactionId)
    (context : XDispatchContext) (fds : List OwnedFd) (request : XWireRequest) : AuthorityFeed :=
  let (trace, runtime) := observe feed.runtime context fds request
  { feed with transactions, runtime, errors := feed.errors ++ trace.result.errors }

/-- An import tells of nothing else. -/
theorem import_alone (h : request.dri3Pixmap = some pixmap) :
    request.dri3FenceRequest = none ∧ request.freedPixmap = none ∧ request.destroyedFence = none ∧
      request.presentRequest = none := by
  cases request with
  | dri3PixmapFromBuffer | dri3PixmapFromBuffers => exact ⟨rfl, rfl, rfl, rfl⟩
  | _ => cases h

theorem sound_importRequest (hfailures : feed.failures = [])
    (h : Agrees feed.runtime feed.registry transactions.next.toNat)
    (hpixmap : request.dri3Pixmap = some pixmap) (hfds : fds.length = request.requiredFdCount)
    (hroom : feed.HasRoom query context request) :
    ((feed.observed transactions context fds request).deliver (duplicating query) now
      (observe feed.runtime context fds request).1).Sound := by
  obtain ⟨hfence, hfreed, hdestroyed, hpresent⟩ := import_alone hpixmap
  obtain ⟨haccepted, hrefused⟩ := hroom.source pixmap hpixmap
  have hcases := dispatch_import feed.runtime context hpixmap
  unfold Accepts at haccepted hrefused
  unfold observed observe
  generalize dispatchX11WireRequest feed.runtime context request = answer at *
  obtain ⟨result, dispatched⟩ := answer
  rcases hcases with ⟨herrors, -, hsame⟩ | ⟨hresult, descriptor, himports, hplanes⟩
  · have hsame : dispatched = feed.runtime := hsame
    subst hsame
    refine sound_nothing hfailures h ⟨rfl, rfl, rfl, rfl⟩ ?_ ?_ ?_ ?_ ?_
    · simp [hfreed]
    · simp [hdestroyed]
    · simp only [hpixmap, Option.bind_some]
      exact hrefused herrors
    · simp [hfence]
    · simp [hpresent]
  · have hresult : result = ⟨none, []⟩ := hresult
    obtain ⟨hsize, hstuck⟩ := haccepted (by rw [hresult])
    refine sound_import context.namespaceId pixmap descriptor hfailures h ?_ ?_ hsize hstuck
      ?_ ?_ ?_ ?_ ?_
    · exact ⟨himports.number, himports.valid, himports.buffers, himports.fences,
        himports.nextDmaBuf, himports.nextFence, himports.found⟩
    · exact hfds.trans hplanes.symm
    · simp only [hpixmap, Option.bind_some]
      exact Fallible.toOption_eq_some.mpr himports.found
    · simp [hfence]
    · simp [hpresent]
    · simp [hfreed]
    · simp [hdestroyed]

theorem sound_fenceRequest {initiallyTriggered : Bool} (hfailures : feed.failures = [])
    (h : Agrees feed.runtime feed.registry transactions.next.toNat)
    (hfds : fds.length = 1)
    (hroom : feed.HasRoom query context (.dri3FenceFromFd drawable fence initiallyTriggered)) :
    ((feed.observed transactions context fds
      (.dri3FenceFromFd drawable fence initiallyTriggered)).deliver (duplicating query) now
      (observe feed.runtime context fds
        (.dri3FenceFromFd drawable fence initiallyTriggered)).1).Sound := by
  have haccepted := hroom.fence (fence, initiallyTriggered) rfl
  have hcases := dispatch_fence feed.runtime context drawable fence initiallyTriggered
  unfold Accepts at haccepted
  unfold observed observe
  generalize dispatchX11WireRequest feed.runtime context
    (.dri3FenceFromFd drawable fence initiallyTriggered) = answer at *
  obtain ⟨result, dispatched⟩ := answer
  rcases hcases with ⟨herrors, -, hsame⟩ | ⟨hresult, handle, himports⟩
  · have hsame : dispatched = feed.runtime := hsame
    subst hsame
    have herrors : result.errors ≠ [] := herrors
    refine sound_nothing hfailures h ⟨rfl, rfl, rfl, rfl⟩ rfl rfl rfl ?_ ?_
    · exact if_neg herrors
    · exact if_neg herrors
  · have hresult : result = ⟨none, []⟩ := hresult
    subst hresult
    obtain ⟨hsize, hstuck⟩ := haccepted rfl
    obtain ⟨fd, hfd⟩ := List.length_eq_one_iff.mp hfds
    refine sound_importFence context.namespaceId fence handle initiallyTriggered fd hfailures h ?_
      hfd hsize hstuck rfl ?_ rfl rfl rfl
    · exact ⟨himports.number, himports.buffers, himports.fences, himports.nextDmaBuf,
        himports.nextFence, himports.found⟩
    · have hfound := Fallible.toOption_eq_some.mpr himports.found
      exact congrArg (Option.map fun handle => (handle, initiallyTriggered)) hfound

theorem sound_presentRequest {present : XPresentPixmap} (hfailures : feed.failures = [])
    (h : Agrees feed.runtime feed.registry present.transaction.raw.toNat)
    (hlater : present.transaction.raw.toNat < transactions.next.toNat)
    (hroom : feed.HasRoom query context (.presentPixmap present)) :
    ((feed.observed transactions context fds (.presentPixmap present)).deliver (duplicating query)
      now (observe feed.runtime context fds (.presentPixmap present)).1).Sound := by
  have hdispatch : feed.runtime.dispatchPresentPixmap context present =
      dispatchX11WireRequest feed.runtime context (.presentPixmap present) := rfl
  have hsame := sameImports_dispatchPresentPixmap feed.runtime context present
  have hanswer := dispatchPresentPixmap_cases feed.runtime context present
  have hshows : ∀ response built handle,
      (feed.runtime.dispatchPresentPixmap context present).1.response = some response →
      response.transactions.head? = some built → built.targetBuffer = .dmaBuf handle →
        feed.runtime.bufferOf present.pixmap = some (.fromRaw handle) :=
    fun _ _ _ => dispatchPresentPixmap_shows
  have haccepted := hroom.present present rfl
  rw [hdispatch] at hsame hanswer hshows
  unfold Accepts at haccepted
  unfold observed observe
  generalize dispatchX11WireRequest feed.runtime context (.presentPixmap present) = answer at *
  obtain ⟨result, dispatched⟩ := answer
  have hsame : SameImports feed.runtime { dispatched with lastCpuBufferUpdate := none } :=
    ⟨hsame.pixmaps, hsame.fences, hsame.nextDmaBuf, hsame.nextFence⟩
  have hbufferOf : ({ dispatched with lastCpuBufferUpdate := none } : FullRuntime).bufferOf =
      feed.runtime.bufferOf := hsame.bufferOf
  have hfenceOf : ({ dispatched with lastCpuBufferUpdate := none } : FullRuntime).fenceOf =
      feed.runtime.fenceOf := hsame.fenceOf
  by_cases herrors : result.errors = []
  swap
  · exact sound_nothing hfailures (h.later hlater.le) hsame rfl rfl rfl
      (if_neg herrors) (if_neg herrors)
  cases hsubmitted : ({ dispatched with lastCpuBufferUpdate := none } : FullRuntime).presentSubmission
    context.namespaceId present result with
  | none =>
    refine sound_nothing hfailures (h.later hlater.le) hsame rfl rfl rfl
      ?_ ?_
    · exact if_pos herrors
    · exact (if_pos herrors).trans hsubmitted
  | some submission =>
    obtain ⟨response, built, hresponse, hhead, hbuffer, -, hsurface, hacquire, hidle⟩ :=
      presentSubmission_eq_some hsubmitted
    rw [hfenceOf] at hacquire hidle
    have hown := hshows _ _ _ hresponse hhead hbuffer
    have htransaction : submission.transaction = present.transaction := by
      refine presentSubmission_transaction (fun other hother => ?_) hsubmitted
      rcases hanswer with ⟨-, hrefused⟩ | ⟨-, -, answered, hanswered, -⟩
      · exact absurd herrors hrefused
      · rw [hanswered] at hother
        cases hother
        rfl
    have himported : present.pixmap ∈ feed.runtime.dri3Pixmaps := by
      obtain ⟨descriptor, hget, -⟩ := Option.map_eq_some_iff.mp hown
      exact mem_of_getElem? hget
    obtain ⟨hsize, hanswers⟩ := haccepted herrors himported
    refine sound_present submission hfailures (h.same hsame) hresponse hhead hsurface
      ?_ ?_ hsize ?_ ?_ ?_ ?_ rfl ?_ ?_ rfl rfl
    · rw [htransaction]
    · rw [htransaction]
      exact hlater
    · exact ⟨present.pixmap, by rw [hbufferOf]; exact hown⟩
    · intro fence hmem
      obtain ⟨id, -, hget⟩ := Option.bind_eq_some_iff.mp (hacquire fence hmem)
      exact ⟨id, by rw [hfenceOf]; exact hget⟩
    · intro fence hmem
      obtain ⟨id, -, hget⟩ := Option.bind_eq_some_iff.mp (hidle fence hmem)
      exact ⟨id, by rw [hfenceOf]; exact hget⟩
    · exact fun fence hmem => hanswers fence (hacquire fence hmem)
    · exact if_pos herrors
    · exact (if_pos herrors).trans hsubmitted

/-- The step of one request. -/
theorem sound_request {transaction : TransactionId} (h : feed.Sound)
    (hnext : feed.transactions.nextId = some (transaction, transactions))
    (hfds : fds.length = request.requiredFdCount)
    (hroom : feed.HasRoom query context (request.identified transaction)) :
    ((feed.observed transactions context fds (request.identified transaction)).deliver
      (duplicating query) now
      (observe feed.runtime context fds (request.identified transaction)).1).Sound := by
  obtain ⟨hraw, hcount⟩ := IdAllocator.nextId_eq_some hnext
  have hagrees : Agrees feed.runtime feed.registry transactions.next.toNat :=
    h.agrees.later (by omega)
  have hbeside (answer : XDispatchResult × FullRuntime) {trace : X11CoreDispatchTrace}
      (hdrops : feed.runtime.Drops answer.2 trace.releasedDmaBufs trace.releasedFences)
      (himport : trace.dri3PixmapImport = none) (hfence : trace.dri3FenceImport = none)
      (hpresent : trace.presentSubmission = none) :
      Sound (AuthorityFeed.deliver
        { feed with
          transactions
          runtime := { answer.2 with lastCpuBufferUpdate := none }
          errors := feed.errors ++ answer.1.errors } (duplicating query) now trace) :=
    sound_releases h.failures hagrees
      ⟨hdrops.buffers, hdrops.fences, hdrops.nextDmaBuf, hdrops.nextFence⟩ himport hfence hpresent
  cases request with
  | dri3PixmapFromBuffer | dri3PixmapFromBuffers =>
    exact sound_importRequest h.failures hagrees rfl hfds hroom
  | dri3FenceFromFd => exact sound_fenceRequest h.failures hagrees hfds hroom
  | presentPixmap present =>
    refine sound_presentRequest h.failures ?_ ?_ hroom
    · show Agrees feed.runtime feed.registry transaction.raw.toNat
      rw [hraw]
      exact h.agrees
    · show transaction.raw.toNat < _
      rw [hraw]
      omega
  | freePixmap pixmap =>
    refine hbeside _ (dispatch_free feed.runtime context pixmap).2 rfl ?_ ?_
    · exact ite_self none
    · exact ite_self none
  | syncDestroyFence fence =>
    refine hbeside _ (dispatch_destroy feed.runtime context fence).2 rfl ?_ ?_
    · exact ite_self none
    · exact ite_self none
  | other calls hquiet result =>
    refine hbeside (result, Run.exec FullRuntime.step feed.runtime calls)
      (sameImports_calls hquiet).drops rfl ?_ ?_
    · exact ite_self none
    · exact ite_self none

end Request

section Runs

variable {limits : LivePresentationRegistryLimits} {actions : List FeedAction}

theorem sound_start (limits : LivePresentationRegistryLimits) : (start limits).Sound where
  agrees :=
    { buffers := ⟨fun _ _ _ h => (by simp [start, bufferOf, FullRuntime.new] at h),
        fun _ _ h => (by simp [start, bufferOf, FullRuntime.new] at h)⟩
      fences := ⟨fun _ _ _ h => (by simp [start, fenceOf, FullRuntime.new] at h),
        fun _ _ h => (by simp [start, fenceOf, FullRuntime.new] at h)⟩
      bufferNumbers := fun _ h => (by simp [start, withLimits] at h)
      fenceNumbers := fun _ h => (by simp [start, withLimits] at h)
      begun := fun _ h => (by simp [start, withLimits] at h)
      kept := kept_withLimits limits }
  failures := rfl

/-- The end of a client hands over what its release took out. -/
theorem sound_teardown (h : feed.Sound) (ns : NamespaceId) (range : XWireClientResourceRange)
    (sequence : UInt16) : (feed.step (.teardown now ns range sequence)).Sound := by
  have hdrops := drops_release feed.runtime ns range
  simp only [step]
  generalize feed.runtime.releaseClientResourceRange ns range = released at hdrops
  obtain ⟨result, runtime⟩ := released
  cases result with
  | error error => exact ⟨h.agrees.drops hdrops (.refl h.agrees.kept), h.failures⟩
  | ok release =>
    have hdrops : feed.runtime.Drops runtime release.releasedDmaBufs release.releasedFences := hdrops
    dsimp only
    -- What is reported to no one stays in the registry, where nothing looks for it any more.
    have hunreported : Agrees runtime feed.registry feed.transactions.next.toNat := by
      have hrefl : Shrinks feed.registry feed.registry [] [] := .refl h.agrees.kept
      refine h.agrees.drops ?_ hrefl
      exact ⟨hdrops.buffers.fewer fun _ hmem => absurd hmem List.not_mem_nil,
        hdrops.fences.fewer fun _ hmem => absurd hmem List.not_mem_nil, hdrops.nextDmaBuf,
        hdrops.nextFence⟩
    split
    · exact ⟨hunreported, h.failures⟩
    cases hnext : feed.transactions.nextId with
    | none => exact ⟨hunreported, h.failures⟩
    | some allocated =>
      obtain ⟨transaction, transactions⟩ := allocated
      obtain ⟨-, hcount⟩ := IdAllocator.nextId_eq_some hnext
      refine sound_releases h.failures (h.agrees.later ?_) hdrops rfl rfl rfl
      show feed.transactions.next.toNat ≤ transactions.next.toNat
      omega

theorem sound_step (action : FeedAction) (hok : feed.Takes action) (h : feed.Sound) :
    (feed.step action).Sound := by
  cases action with
  | request query now context fds request =>
    simp only [step]
    cases hnext : feed.transactions.nextId with
    | none => exact h
    | some allocated =>
      obtain ⟨transaction, transactions⟩ := allocated
      have hroom := hok (transaction, transactions) hnext
      obtain ⟨-, hcount⟩ := IdAllocator.nextId_eq_some hnext
      dsimp only
      split
      · refine ⟨h.agrees.later ?_, h.failures⟩
        show feed.transactions.next.toNat ≤ transactions.next.toNat
        omega
      · rename_i hfds
        exact sound_request h hnext (not_not.mp hfds) hroom
  | teardown now ns range sequence => exact sound_teardown h ns range sequence
  | backend op hop scheduler =>
    have hshrinks := shrinks_retiring h.agrees.kept hop
    exact ⟨h.agrees.drops (SameImports.refl feed.runtime).drops hshrinks, h.failures⟩

/-- While the registry has room for what is imported, no production cycle fails. -/
theorem authority_feed_never_fails (limits : LivePresentationRegistryLimits)
    (actions : List FeedAction) (h : Run.Guarded step Takes (start limits) actions) :
    (Run.exec step (start limits) actions).failures = [] :=
  (Run.invariant (P := Sound) (sound_start limits) (fun _ action => sound_step action) h).failures

end Runs

section Capacity

instance (feed : AuthorityFeed) (context : XDispatchContext) (request : XWireRequest) :
    Decidable (feed.Accepts context request) :=
  inferInstanceAs (Decidable (_ = _))

instance {kind : IdKind} (counter : UInt64) (known : SimpleId kind → Prop) [DecidablePred known] :
    Decidable (Stuck counter known) :=
  inferInstanceAs (Decidable (_ ∧ _))

instance (registry : LiveDmaBufPresentationRegistry) (os : FdOracle)
    (acquire : Option FenceHandle) : Decidable (registry.Answers os acquire) :=
  inferInstanceAs (Decidable (∀ fence ∈ acquire, ∀ registration ∈ registry.fences[fence]?, _))

instance (feed : AuthorityFeed) (query : OwnedFd → Option Bool) (context : XDispatchContext)
    (request : XWireRequest) : Decidable (feed.HasRoom query context request) :=
  decidable_of_iff (_ ∧ _ ∧ _)
    ⟨fun h => ⟨h.1, h.2.1, h.2.2⟩, fun h => ⟨h.source, h.fence, h.present⟩⟩

instance (feed : AuthorityFeed) (action : FeedAction) : Decidable (feed.Takes action) :=
  match action with
  | .request query _ context _ request => inferInstanceAs
      (Decidable (∀ allocated ∈ feed.transactions.nextId,
        feed.HasRoom query context (request.identified allocated.1)))
  | .teardown .. | .backend .. => isTrue trivial

/-- The import of a pixmap of one pixel, on the root window. -/
def importRequest (number : ℕ) : FeedAction :=
  .request (fun _ => none) 0 ⟨⟨1⟩, .ofNat number, 149⟩ [3] (.dri3PixmapFromBuffer
    (.new (.ofNat (0x300100 + number)) 1) (.new 0x20 1) 4 1 1 4 24 32)

theorem opening_plain : RuntimeOp.plain (.apply ⟨⟨1⟩, ⟨1⟩,
    .createWindow (.new 0x300010 1) ⟨1, 1⟩ ⟨0, 0, 1, 1⟩ ⟨none, none⟩ 1⟩) :=
  rfl

/-- A client opens a window, imports a pixmap and a fence, presents the one with the other, and frees
the pixmap while it is shown. Once it is retired there is room for another import. -/
def presentsAndFrees : List FeedAction :=
  [.request (fun _ => none) 0 ⟨⟨1⟩, 1, 1⟩ [] (.other [.plain (.apply ⟨⟨1⟩, ⟨1⟩,
      .createWindow (.new 0x300010 1) ⟨1, 1⟩ ⟨0, 0, 1, 1⟩ ⟨none, none⟩ 1⟩) opening_plain]
      (by decide) ⟨none, []⟩),
    importRequest 2,
    .request (fun _ => none) 0 ⟨⟨1⟩, 3, 149⟩ [4]
      (.dri3FenceFromFd (.new 0x20 1) (.new 0x300020 1) false),
    .request (fun _ => some true) 0 ⟨⟨1⟩, 4, 150⟩ [] (.presentPixmap ⟨⟨0⟩, .new 0x300010 1,
      .new 0x300102 1, 1, 0, 0, 0, some (.new 0x300020 1), none, 0, 0, 0⟩),
    .request (fun _ => none) 0 ⟨⟨1⟩, 5, 54⟩ [] (.freePixmap (.new 0x300102 1)),
    .backend (.submit ⟨4⟩) rfl {},
    .backend (.retirePageFlip ⟨fun _ => true, fun _ => none, fun _ => true⟩ ⟨4⟩) rfl {},
    importRequest 6,
    .teardown 0 ⟨1⟩ ⟨0x300000, 0xfffff⟩ 6]

theorem authority_feed_never_fails_presentsAndFrees :
    (Run.exec step (start ⟨1, 1, 1⟩) (presentsAndFrees.take 4)).registry.presentations.size = 1 ∧
      (Run.exec step (start ⟨1, 1, 1⟩) presentsAndFrees).registry.sources.size = 0 ∧
      (Run.exec step (start ⟨1, 1, 1⟩) presentsAndFrees).failures = [] :=
  ⟨by decide +kernel, by decide +kernel,
    authority_feed_never_fails ⟨1, 1, 1⟩ presentsAndFrees (by decide +kernel)⟩

variable {number : ℕ}

/-- The pixmap of an import. -/
def importPixmap (number : ℕ) : XResourceId := .new (.ofNat (0x300100 + number)) 1

theorem importPixmap_isValid (h : number ≤ 256) : (importPixmap number).isValid = true := by
  have hraw : (UInt64.ofNat (0x300100 + number)).toNat = 0x300100 + number := by
    apply UInt64.toNat_ofNat_of_lt'
    show _ < 18446744073709551616
    omega
  have hzero : UInt64.ofNat (0x300100 + number) ≠ 0 := by
    intro hzero
    rw [hzero] at hraw
    have hnat : (0 : UInt64).toNat = 0 := rfl
    omega
  simpa [importPixmap, XResourceId.isValid, XResourceId.new, AuthorityLocalId.isValid] using hzero

/-- The authority accepts the import of a pixel whatever it has imported already. -/
theorem accepts_import (runtime : FullRuntime) (sequence : UInt16) (h : number ≤ 256) :
    (dispatchX11WireRequest runtime ⟨⟨1⟩, sequence, 149⟩ (.dri3PixmapFromBuffer
      (importPixmap number) (.new 0x20 1) 4 1 1 4 24 32)).1.errors = [] := by
  have hhandle : (SimpleId.fromRaw (max runtime.nextDmaBufHandle 1) : BufferHandle).isValid := by
    have hmax := toNat_max runtime.nextDmaBufHandle 1
    have hone : (1 : UInt64).toNat = 1 := rfl
    have hnat : (0 : UInt64).toNat = 0 := rfl
    simp only [SimpleId.isValid, SimpleId.fromRaw, bne_iff_ne, ne_eq]
    intro hzero
    rw [hzero, hone, hnat] at hmax
    omega
  have himport : ∃ descriptor, runtime.dri3Import 4 1 1 4 24 32 = .ok descriptor := by
    simp only [dri3Import, dri3Format, DmaBufDescriptor.validate, hhandle]
    exact ⟨_, rfl⟩
  obtain ⟨descriptor, himport⟩ := himport
  have hinstalled : ∃ created, runtime.installDri3Pixmap ⟨1⟩ (importPixmap number)
      sequence.toUInt64 descriptor = .ok created := by
    simp only [installDri3Pixmap, createPixmap, XAuthorityRuntime.createPixmap,
      XAuthorityRuntime.createResource, XResourceTable.insert, importPixmap_isValid h]
    exact ⟨_, rfl⟩
  obtain ⟨created, hinstalled⟩ := hinstalled
  have hcreated := createDri3Pixmap_eq_ok.mpr ⟨descriptor, himport, hinstalled⟩
  have hroot : runtime.validateDrawableAccess ⟨1⟩ (.new 0x20 1) = .ok () := rfl
  simp only [dispatchX11WireRequest, concludeOn, hroot, hcreated, Except.map, conclude]

/-- A step that imports hands one buffer to the production cycle. -/
theorem step_importRequest (h : number ≤ 256) (hnext : feed.transactions.next.toNat ≤ 257) :
    ∃ transactions runtime descriptor transaction,
      transactions.next.toNat = feed.transactions.next.toNat + 1 ∧
      feed.runtime.Imports runtime ⟨1⟩ (importPixmap number) descriptor ∧
      descriptor.planeCount = 1 ∧
      feed.step (importRequest number) = ({ feed with transactions, runtime }).production
        (duplicating fun _ => none) 0
        { transaction, transactions := [], dmaBufRegistrations := [⟨descriptor, [3]⟩] } := by
  obtain ⟨⟨transaction, transactions⟩, hallocated⟩ : ∃ allocated,
      feed.transactions.nextId = some allocated := by
    have hlt : feed.transactions.next.toNat + 1 < UInt64.size := by
      show _ < 18446744073709551616
      omega
    exact ⟨_, if_pos hlt⟩
  have haccepted := accepts_import feed.runtime (.ofNat number) h
  have hpixmap : (XWireRequest.dri3PixmapFromBuffer (importPixmap number) (.new 0x20 1) 4 1 1 4 24
    32).dri3Pixmap = some (importPixmap number) := rfl
  have hcases := dispatch_import feed.runtime ⟨⟨1⟩, .ofNat number, 149⟩ hpixmap
  have hstep : feed.step (importRequest number) =
      (feed.observed transactions ⟨⟨1⟩, .ofNat number, 149⟩ [3] (.dri3PixmapFromBuffer
        (importPixmap number) (.new 0x20 1) 4 1 1 4 24 32)).deliver (duplicating fun _ => none) 0
        (observe feed.runtime ⟨⟨1⟩, .ofNat number, 149⟩ [3] (.dri3PixmapFromBuffer
          (importPixmap number) (.new 0x20 1) 4 1 1 4 24 32)).1 := by
    simp only [step, importRequest, hallocated]
    rfl
  rw [hstep, deliver_eq]
  unfold observed observe
  generalize dispatchX11WireRequest feed.runtime ⟨⟨1⟩, .ofNat number, 149⟩ (.dri3PixmapFromBuffer
    (importPixmap number) (.new 0x20 1) 4 1 1 4 24 32) = answer at *
  obtain ⟨result, dispatched⟩ := answer
  rcases hcases with ⟨herrors, -⟩ | ⟨hresult, descriptor, himports, hplanes⟩
  · exact absurd haccepted herrors
  have hresult : result = ⟨none, []⟩ := hresult
  subst hresult
  have hfound := Fallible.toOption_eq_some.mpr himports.found
  refine ⟨transactions, { dispatched with lastCpuBufferUpdate := none }, descriptor,
    .fromRaw (UInt16.ofNat number).toUInt64, (IdAllocator.nextId_eq_some hallocated).2,
    ⟨himports.number, himports.valid, himports.buffers, himports.fences, himports.nextDmaBuf,
      himports.nextFence, himports.found⟩, UInt8.toNat_inj.mp hplanes, ?_⟩
  have hfound : (({ dispatched with lastCpuBufferUpdate := none } :
      FullRuntime).dri3PixmapDescriptor ⟨1⟩ (importPixmap number)).toOption = some descriptor :=
    hfound
  simp only [X11CoreDispatchTrace.batch, X11CoreDispatchTrace.dmaBufRegistrations,
    X11CoreDispatchTrace.fenceRegistrations, XWireRequest.dri3Pixmap, Option.bind_some, hfound,
    List.append_nil]
  rfl

/-- What a number of imports has left. -/
structure Imported (feed : AuthorityFeed) (count : ℕ) : Prop where
  sound : feed.Sound
  errors : feed.errors = []
  limits : feed.registry.limits = {}
  size : feed.registry.sources.size = count
  handle : feed.runtime.nextDmaBufHandle.toNat = count + 1
  next : feed.transactions.next.toNat = count + 1

variable {count : ℕ}

/-- The counter of handles after one of its first imports. -/
theorem toNat_following {counter : UInt64} (h : counter.toNat = count + 1) (hcount : count ≤ 256) :
    (max (saturatingAdd (max counter 1) 1) 1).toNat = count + 2 := by
  have hone : (1 : UInt64).toNat = 1 := rfl
  have hsize : UInt64.size = 18446744073709551616 := rfl
  simp only [toNat_max, toNat_saturatingAdd, hone, h, hsize]
  omega

theorem Imported.not_stuck (h : feed.Imported count) (hcount : count ≤ 256) :
    ¬ Stuck feed.runtime.nextDmaBufHandle (· ∈ feed.registry.sources) := by
  rintro ⟨hlast, -⟩
  have hhandle := h.handle
  have hlarge : 257 < lastHandle := by decide
  omega

/-- The buffer of the next import is not registered yet. -/
theorem Imported.fresh (h : feed.Imported count) (hcount : count ≤ 256) :
    .fromRaw (max feed.runtime.nextDmaBufHandle 1) ∉ feed.registry.sources :=
  fresh_handle h.sound.agrees.bufferNumbers (h.not_stuck hcount)

theorem Imported.step (h : feed.Imported count) (hcount : count < 256) (hnumber : number ≤ 256) :
    (feed.step (importRequest number)).Imported (count + 1) := by
  obtain ⟨transactions, runtime, descriptor, transaction, hnext, himports, hplanes, hstep⟩ :=
    step_importRequest hnumber (h.next.trans_le (Nat.succ_le_succ hcount.le))
  have hroom : feed.registry.sources.size < feed.registry.limits.sources := by
    rw [h.size, h.limits]
    exact hcount
  have hfds : [3].length = descriptor.planeCount.toNat := by rw [hplanes]; rfl
  have hfresh : descriptor.handle ∉ feed.registry.sources := by
    rw [himports.number]
    exact h.fresh hcount.le
  obtain ⟨after, hregister, hagrees⟩ := h.sound.agrees.imports himports hfds hroom
    (h.not_stuck hcount.le)
  obtain ⟨_, hregister', -, hsources⟩ := registerSource_succeeds himports.valid hfds hfresh hroom
  cases hregister.symm.trans hregister'
  have hproduction := @production_registers { feed with transactions, runtime }
    (duplicating fun _ => none) 0
    { transaction, transactions := [], dmaBufRegistrations := [⟨descriptor, [3]⟩] } after
    descriptor [3] hregister (fun _ => rfl) rfl rfl rfl rfl rfl
  rw [hstep, hproduction]
  refine ⟨⟨hagrees.later ?_, h.sound.failures⟩, h.errors, ?_, ?_, ?_, ?_⟩
  · show feed.transactions.next.toNat ≤ transactions.next.toNat
    omega
  · exact (effect_registerSource h.sound.agrees.kept hregister).limits.trans h.limits
  · show after.sources.size = count + 1
    rw [hsources, ExtTreeMap.size_insert, if_neg (by simpa using hfresh), h.size]
  · show runtime.nextDmaBufHandle.toNat = count + 1 + 1
    rw [himports.nextDmaBuf]
    exact toNat_following h.handle (by omega)
  · show transactions.next.toNat = _
    rw [hnext, h.next]

/-- Once the registry is full, the next import fails the cycle. -/
theorem Imported.full (h : feed.Imported count) (hcount : count = 256) (hnumber : number ≤ 256) :
    (feed.step (importRequest number)).errors = [] ∧
      (feed.step (importRequest number)).failures = [.registry .capacityExceeded] := by
  obtain ⟨transactions, runtime, descriptor, transaction, -, himports, hplanes, hstep⟩ :=
    step_importRequest hnumber (h.next.trans_le (Nat.succ_le_succ hcount.le))
  have hrefused : feed.registry.registerSource descriptor [3] = .error .capacityExceeded := by
    have hfresh : feed.registry.sources[descriptor.handle]? = none := by
      rw [himports.number]
      exact ExtTreeMap.getElem?_eq_none (h.fresh hcount.le)
    unfold registerSource
    rw [himports.valid, hplanes]
    have hlimit : feed.registry.limits.sources ≤ feed.registry.sources.size := by
      rw [h.size, h.limits, hcount]
    dsimp only
    split
    · rename_i hne
      exact absurd rfl hne
    split
    · rename_i hsome
      rw [hfresh] at hsome
      cases hsome
    · rfl
  rw [hstep]
  simp [production, observeAuthorityResources, Run.tryEach, registerDmaBuf, hrefused, liftRegistry,
    h.errors, h.sound.failures, duplicating]

theorem imported_exec (h : count ≤ 256) :
    (Run.exec AuthorityFeed.step (start {}) ((List.range count).map importRequest)).Imported
      count := by
  induction count with
  | zero => exact ⟨sound_start {}, rfl, rfl, rfl, rfl, rfl⟩
  | succ count ih =>
    rw [List.range_succ, List.map_append, Run.exec_append]
    have hcount : count < 256 := h
    exact (ih hcount.le).step hcount hcount.le

/-- The import that is one too many. -/
theorem imported_exec_full (h : count = 256) :
    let feed := Run.exec step (start {}) ((List.range (count + 1)).map importRequest)
    (feed.errors, feed.failures) = ([], [.registry .capacityExceeded]) := by
  have hfull := (imported_exec h.le).full h h.le
  rw [List.range_succ, List.map_append, List.map_singleton, Run.exec_snoc]
  exact Prod.ext hfull.1 hfull.2

/-- The authority accepts one import more than the registry has room for, and the cycle that takes
it in fails. -/
theorem imports_exceed_capacity :
    let feed := Run.exec step (start {}) ((List.range 257).map importRequest)
    (feed.errors, feed.failures) = ([], [.registry .capacityExceeded]) :=
  imported_exec_full rfl

end Capacity
end AuthorityFeed
end Sophia.Session
