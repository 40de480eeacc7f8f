import Sophia.Authority.RejectedDraws

/-! Answering a Present request, and the submission the backend gets for it. -/
namespace Sophia.Authority

open Std Sophia.Protocol Sophia.Fallible

inductive XErrorCode where
  | badRequest
  | badValue
  | badWindow
  | badAtom
  | badAccess
  | badIdChoice
  | badLength
  | badImplementation
  deriving DecidableEq, Repr

structure XClientError where
  code : XErrorCode
  sequence : UInt16
  resourceId : UInt32
  minorCode : UInt16
  majorCode : UInt8
  deriving DecidableEq, Repr

def XAuthorityRuntimeError.code : XAuthorityRuntimeError → XErrorCode
  | .invalidResource | .unknownResource | .wrongResourceKind | .invalidSurface => .badWindow
  | .invalidNamespace | .crossNamespaceDenied | .staleGeneration | .unknownRequestorNamespace
  | .missingSourceNamespace | .sameNamespace | .portalRejected => .badAccess
  | .unknownSourceOwner => .badAtom

def xErrorFromRuntime (error : XAuthorityRuntimeError) (sequence : UInt16) (majorOpcode : UInt8)
    (resourceId : UInt32) : XClientError where
  code := error.code
  sequence := sequence
  resourceId := resourceId
  minorCode := 0
  majorCode := majorOpcode

structure XDispatchContext where
  namespaceId : NamespaceId
  sequence : UInt16
  majorOpcode : UInt8
  deriving DecidableEq, Repr

/-- An answer, as far as a request that has no reply and no event needs it. -/
structure XDispatchResult where
  response : Option XAuthorityResponsePacket
  errors : List XClientError
  deriving DecidableEq, Repr

structure XPresentPixmap where
  transaction : TransactionId
  window : XResourceId
  pixmap : XResourceId
  serial : UInt32
  validRegion : UInt32
  updateRegion : UInt32
  targetCrtc : UInt32
  waitFence : Option XResourceId
  idleFence : Option XResourceId
  options : UInt32
  divisor : UInt64
  remainder : UInt64
  deriving DecidableEq, Repr

structure XAuthorityPresentSubmission where
  transaction : TransactionId
  surface : SurfaceId
  buffer : BufferHandle
  acquireFence : Option FenceHandle
  idleFence : Option FenceHandle
  deriving DecidableEq, Repr

/-- The id as it fits an error's word. -/
def XResourceId.word (id : XResourceId) : UInt32 :=
  if id.localId.raw.toNat < UInt32.size then id.localId.raw.toUInt32 else 0

def XPresentPixmap.invalidValue (request : XPresentPixmap) : Bool :=
  request.targetCrtc ≠ 0 ∨ request.options &&& ~~~0x0f ≠ 0 ∨
    (request.divisor = 0 ∧ request.remainder ≠ 0) ∨
    (request.divisor ≠ 0 ∧ request.divisor ≤ request.remainder)

namespace FullRuntime

variable (runtime : FullRuntime)

def validateDri3FenceAccess (ns : NamespaceId) (fence : XResourceId) : Result Unit :=
  access (runtime.resources.lookup ns fence .fence)

def dri3FenceHandle (ns : NamespaceId) (fence : XResourceId) : Result FenceHandle := do
  runtime.validateDri3FenceAccess ns fence
  (runtime.dri3Fences[fence]?).elim (.error .unknownResource) .ok

def dri3PixmapDescriptor (ns : NamespaceId) (pixmap : XResourceId) : Result DmaBufDescriptor := do
  runtime.validatePixmapAccess ns pixmap
  (runtime.dri3Pixmaps[pixmap]?).elim (.error .unknownResource) .ok

/-- The region id zero is none. -/
def validateOptionalRegion (ns : NamespaceId) (region : UInt32) : Result Unit :=
  let region : XResourceId := .new region.toUInt64 1
  if region.isValid then runtime.validateXfixesRegionAccess ns region else .ok ()

def validateOptionalFence (ns : NamespaceId) (fence : Option XResourceId) : Result Unit :=
  fence.elim (.ok ()) (runtime.validateDri3FenceAccess ns)

/-- The checks before a Present request reaches the runtime. -/
def validatePresentPixmap (ns : NamespaceId) (request : XPresentPixmap) : Result Unit := do
  if request.invalidValue then throw .invalidResource
  runtime.validateWindowAccess ns request.window
  runtime.validateOptionalRegion ns request.validRegion
  runtime.validateOptionalRegion ns request.updateRegion
  runtime.validatePixmapAccess ns request.pixmap
  runtime.validateOptionalFence ns request.waitFence
  runtime.validateOptionalFence ns request.idleFence

/-- The errors a response is answered with. -/
def rejectionErrors (context : XDispatchContext) (pixmap : XResourceId)
    (response : XAuthorityResponsePacket) : List XClientError :=
  match response.outcome with
  | .accepted => []
  | .rejected error =>
    [xErrorFromRuntime error context.sequence context.majorOpcode pixmap.word]

def dispatchPresentPixmap (context : XDispatchContext) (request : XPresentPixmap) :
    XDispatchResult × FullRuntime :=
  match runtime.validatePresentPixmap context.namespaceId request with
  | .error error =>
    (⟨none, [xErrorFromRuntime error context.sequence context.majorOpcode request.pixmap.word]⟩,
      runtime)
  | .ok _ =>
    let (response, runtime) := runtime.presentStandardPixmap request.transaction
      context.namespaceId request.window request.pixmap
    (⟨some response, rejectionErrors context request.pixmap response⟩, runtime)

/-- What the worker hands to the backend, from the shape of the answer. -/
def presentSubmission (ns : NamespaceId) (request : XPresentPixmap) (result : XDispatchResult) :
    Option XAuthorityPresentSubmission := do
  let response ← result.response
  let transaction ← response.transactions.head?
  match transaction.targetBuffer with
  | .dmaBuf handle =>
    some { transaction := response.transaction
           surface := transaction.surface
           buffer := .fromRaw handle
           acquireFence := request.waitFence.bind fun fence =>
             (runtime.dri3FenceHandle ns fence).toOption
           idleFence := request.idleFence.bind fun fence =>
             (runtime.dri3FenceHandle ns fence).toOption }
  | _ => none

/-- The authority accepts the Present request. -/
def Presentable (ns : NamespaceId) (request : XPresentPixmap) : Prop :=
  runtime.validatePresentPixmap ns request = .ok () ∧
    runtime.Admissible request.transaction ns request.window

/-- A request the authority accepts shows an imported buffer. -/
def ShowsImported (ns : NamespaceId) (request : XPresentPixmap) : Prop :=
  runtime.Presentable ns request → request.pixmap ∈ runtime.dri3Pixmaps

variable {runtime} {ns : NamespaceId} {request : XPresentPixmap} {context : XDispatchContext}

theorem validatePresentPixmap_pixmap (h : runtime.validatePresentPixmap ns request = .ok ()) :
    runtime.validatePixmapAccess ns request.pixmap = .ok () := by
  simp only [validatePresentPixmap, throw_if_eq_ok, bind_eq_ok] at h
  obtain ⟨-, _, -, _, -, _, -, _, hpixmap, -⟩ := h
  exact hpixmap

theorem advanceGeneration_eq_ok {windows windows' : XWindowTable} {window : XResourceId}
    {record : XWindowRecord} (hrecord : windows.get window = some record)
    (h : windows.advanceGeneration window record.generation = .ok windows') :
    record.generation.toNat + 1 < UInt64.size := by
  have hget : windows.windows[window]? = some record := hrecord
  rw [XWindowTable.advanceGeneration, hget] at h
  by_contra hlast
  simp [hlast] at h

/-- An update of a window's own generation is refused, or accepted with its transaction. -/
theorem windowUpdate_cases {record : XWindowRecord} {window : XResourceId} {buffer : BufferSource}
    (transaction : TransactionId) (kind : XDrawingUpdateKind) (damage : Region)
    (timeoutMsec : UInt32) (hrecord : runtime.windows.get window = some record)
    (hown : record.namespaceId = ns) (hbuffer : buffer ≠ .none) :
    let response := (runtime.finishDrawingUpdate ⟨transaction, ns, window, kind, buffer, damage,
      record.generation, timeoutMsec⟩).1
    (¬ runtime.Admissible transaction ns window ∧ ∃ error, response.outcome = .rejected error) ∨
      (runtime.Admissible transaction ns window ∧ ∃ built, response =
        { transaction, outcome := .accepted, transactions := [built] } ∧
          built.targetBuffer = buffer) := by
  dsimp only
  rcases finishDrawingUpdate_cases runtime ⟨transaction, ns, window, kind, buffer, damage,
    record.generation, timeoutMsec⟩ with
    ⟨error, hrefused⟩ | ⟨built, windows, hbuilt, hwindows, haccepted⟩
  · rw [hrefused]
    refine Or.inl ⟨fun hadmissible => ?_, error, rfl⟩
    have hok : (runtime.finishDrawingUpdate ⟨transaction, ns, window, kind, buffer, damage,
        record.generation, timeoutMsec⟩).1.outcome = .accepted :=
      finishDrawingUpdate_accepted hadmissible hbuffer hrecord rfl
    rw [hrefused] at hok
    cases hok
  · obtain ⟨htransaction, hns, hwindow, htarget, -, record', hrecord', -, hsurface⟩ :=
      surfaceTransaction_eq_ok hbuilt
    obtain rfl : record' = record := Option.some.inj (hrecord'.symm.trans hrecord)
    have hlast := advanceGeneration_eq_ok hrecord hwindows
    exact Or.inr ⟨⟨htransaction, hns, hwindow, record', hrecord, hown, hsurface, hlast⟩, built,
      haccepted, htarget⟩

/-- What an answered Present says: refused, or one transaction that shows the pixmap. -/
theorem presentStandardPixmap_cases (runtime : FullRuntime) (transaction : TransactionId)
    (ns : NamespaceId) (window pixmap : XResourceId)
    (hpixmap : runtime.validatePixmapAccess ns pixmap = .ok ()) :
    let response := (runtime.presentStandardPixmap transaction ns window pixmap).1
    (¬ runtime.Admissible transaction ns window ∧ ∃ error, response.outcome = .rejected error) ∨
      (runtime.Admissible transaction ns window ∧ ∃ built, response =
          { transaction, outcome := .accepted, transactions := [built] } ∧
        ((∃ handle, built.targetBuffer = .dmaBuf handle) ↔ pixmap ∈ runtime.dri3Pixmaps)) := by
  dsimp only
  rw [presentStandardPixmap]
  cases hfound : (runtime.windows.get window).filter (·.namespaceId = ns) with
  | none =>
    refine Or.inl ⟨?_, _, rfl⟩
    rintro ⟨-, -, -, record, hrecord, hown, -⟩
    have hnone := Option.filter_eq_none_iff.mp hfound record hrecord
    simp [hown] at hnone
  | some record =>
    obtain ⟨hrecord, hown⟩ := Option.filter_eq_some_iff.mp hfound
    have hown : record.namespaceId = ns := by simpa using hown
    simp only [hpixmap]
    rw [ExtTreeMap.mem_iff_isSome_getElem?]
    cases runtime.dri3Pixmaps[pixmap]? with
    | none =>
      refine (windowUpdate_cases transaction _ _ _ hrecord hown ?_).imp_right ?_
      · simp
      · rintro ⟨hadmissible, built, hresponse, hbuffer⟩
        exact ⟨hadmissible, built, hresponse, by simp [hbuffer]⟩
    | some descriptor =>
      refine (windowUpdate_cases transaction _ _ _ hrecord hown ?_).imp_right ?_
      · simp
      · rintro ⟨hadmissible, built, hresponse, hbuffer⟩
        exact ⟨hadmissible, built, hresponse, by simp [hbuffer]⟩

/-- A Present request is refused with an error, or accepted with the transaction that shows its
pixmap. -/
theorem dispatchPresentPixmap_cases (runtime : FullRuntime) (context : XDispatchContext)
    (request : XPresentPixmap) :
    let result := (runtime.dispatchPresentPixmap context request).1
    (¬ runtime.Presentable context.namespaceId request ∧ result.errors ≠ []) ∨
      (runtime.Presentable context.namespaceId request ∧ result.errors = [] ∧
        ∃ built, result.response = some
          { transaction := request.transaction, outcome := .accepted, transactions := [built] } ∧
          ((∃ handle, built.targetBuffer = .dmaBuf handle) ↔
            request.pixmap ∈ runtime.dri3Pixmaps)) := by
  dsimp only
  rw [dispatchPresentPixmap]
  cases hvalid : runtime.validatePresentPixmap context.namespaceId request with
  | error error =>
    refine Or.inl ⟨?_, List.cons_ne_nil _ _⟩
    rintro ⟨hok, -⟩
    rw [hvalid] at hok
    cases hok
  | ok u =>
    rcases presentStandardPixmap_cases runtime request.transaction context.namespaceId
      request.window request.pixmap (validatePresentPixmap_pixmap hvalid) with
      ⟨hrefused, error, houtcome⟩ | ⟨hadmissible, built, hresponse, hbuffer⟩
    · refine Or.inl ⟨fun h => hrefused h.2, ?_⟩
      simp only [rejectionErrors, houtcome]
      exact List.cons_ne_nil _ _
    · refine Or.inr ⟨⟨hvalid, hadmissible⟩, ?_, built, ?_, hbuffer⟩
      · simp only [rejectionErrors, hresponse]
      · simp only [hresponse]

/-- The backend gets a submission of an accepted request exactly when it shows an imported
buffer. -/
theorem presentSubmission_isSome {result : XDispatchResult} {built : SurfaceTransaction}
    (after : FullRuntime) (hresponse : result.response = some
      { transaction := request.transaction, outcome := .accepted, transactions := [built] }) :
    (after.presentSubmission ns request result).isSome ↔
      ∃ handle, built.targetBuffer = .dmaBuf handle := by
  simp only [presentSubmission, hresponse, Option.bind_eq_bind, Option.bind_some, List.head?_cons]
  cases built.targetBuffer <;> simp

theorem presentSubmission_transaction {result : XDispatchResult} {after : FullRuntime}
    {submission : XAuthorityPresentSubmission}
    (hresponse : ∀ response ∈ result.response, response.transaction = request.transaction)
    (h : after.presentSubmission ns request result = some submission) :
    submission.transaction = request.transaction := by
  simp only [presentSubmission, Option.bind_eq_bind, Option.bind_eq_some_iff] at h
  obtain ⟨response, hr, transaction, -, h⟩ := h
  split at h
  · cases h
    exact hresponse response hr
  · cases h

end FullRuntime
end Sophia.Authority
