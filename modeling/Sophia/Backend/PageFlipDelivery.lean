import Sophia.Backend.FrameRetirement
import Sophia.Backend.NativeScanout

/-! Whether every page flip reaches the frame it was for. -/
namespace Sophia.Backend

open Protocol

variable {ρ : Type}

/-- The page flip of the frame in flight was accepted: the frame is on screen and the head has
observed the callback. -/
structure Flipped (out out' : NativeOutput ρ) (submission : ScanoutSubmission ρ) : Prop where
  displayed : out'.runtime.state.displayedSubmission = some submission
  landed : out'.runtime.state.scanoutSubmission ≠ some submission
  observed : out.head.callbackAccepted < out'.head.callbackAccepted
  presented : ∀ sequence ∈ out.head.submittedSequence, out'.head.presentedSubmissions = sequence

/-- The output in persistent mode, with a frame in flight that has missed no flip. -/
structure NativeOutput.Sound (out : NativeOutput ρ) : Prop where
  retain : out.runtime.state.retainDisplayedSubmission = true
  upToDate : out.runtime.UpToDate

/-- The output has only received callbacks. -/
structure Received (out out' : NativeOutput ρ) : Prop where
  head : out'.head = out.head
  primaryOutput : out'.runtime.primaryOutput = out.runtime.primaryOutput
  state : out'.runtime.state = out.runtime.state
  queue : SyncChannel.Extends out.runtime.pageFlipCallbackQueue out'.runtime.pageFlipCallbackQueue

section Output

variable {out out' : NativeOutput ρ} {submission : ScanoutSubmission ρ}

theorem Received.refl : Received out out := ⟨rfl, rfl, rfl, .refl⟩

theorem Received.trans {out'' : NativeOutput ρ} (h : Received out out') (h' : Received out' out'') :
    Received out out'' :=
  ⟨h'.head.trans h.head, h'.primaryOutput.trans h.primaryOutput, h'.state.trans h.state,
    h.queue.trans h'.queue⟩

theorem received_trySend {callback : LivePageFlipCallback} (h : out.trySend callback = some out') :
    Received out out' := by
  obtain ⟨queue, hq, rfl⟩ := Option.map_eq_some_iff.mp h
  exact ⟨rfl, rfl, rfl, SyncChannel.extends_trySend hq⟩

/-- A frame that was in flight cannot be the one in flight after a newer flip. -/
theorem submission_ne_of_newer (hs : out.Sound) (hup : out'.runtime.UpToDate)
    (hnew : out'.runtime.lastFrameSerial ≠ out.runtime.lastFrameSerial)
    (hm : submission ∈ out.runtime.state.scanoutSubmission) :
    out'.runtime.state.scanoutSubmission ≠ some submission := by
  intro hm'
  exact hnew ((hup submission hm').trans (hs.upToDate submission hm).symm)

theorem observeCallbacks_of_pos (head : LiveProductionNativeHead)
    {report : LivePageFlipCallbackQueueReport} (h : 0 < report.accepted) :
    head.callbackAccepted < (head.observeCallbacks report).callbackAccepted ∧
    ∀ sequence ∈ head.submittedSequence,
      (head.observeCallbacks report).presentedSubmissions = sequence := by
  rw [LiveProductionNativeHead.observeCallbacks, if_pos h]
  refine ⟨Nat.lt_add_of_pos_right h, ?_⟩
  intro sequence hm
  have hseq : head.submittedSequence = some sequence := hm
  simp [hseq]

theorem observeRetire_callbacks (head : LiveProductionNativeHead)
    (retire : Option TrackedRetireReport) :
    (retire.elim head head.observeRetire).callbackAccepted = head.callbackAccepted ∧
    (retire.elim head head.observeRetire).submittedSequence = head.submittedSequence ∧
    (retire.elim head head.observeRetire).presentedSubmissions = head.presentedSubmissions := by
  cases retire with
  | none => exact ⟨rfl, rfl, rfl⟩
  | some retire =>
    simp only [Option.elim, LiveProductionNativeHead.observeRetire]
    split <;> exact ⟨rfl, rfl, rfl⟩

theorem observeSubmit_callbacks {head : LiveProductionNativeHead}
    {content : Option LiveProductionScanoutContent} {submit : Option TrackedSubmitReport} :
    (submit.elim head (head.observeSubmit content)).callbackAccepted = head.callbackAccepted ∧
    (submit.elim head (head.observeSubmit content)).presentedSubmissions =
      head.presentedSubmissions := by
  cases submit with
  | none => exact ⟨rfl, rfl⟩
  | some submit =>
    simp only [Option.elim, LiveProductionNativeHead.observeSubmit]
    split <;> exact ⟨rfl, rfl⟩

theorem nativeTick_runtime {env : TickEnv ρ} :
    (out.nativeTick env).2.runtime = (out.runtime.runTickWithScanout env).2 := by
  unfold NativeOutput.nativeTick
  split
  · rename_i h
    rw [h]
  · rename_i h
    rw [h]

theorem nativeTick_of_error {env : TickEnv ρ} {e : String} (hs : out.Sound)
    (he : env.engine = .error e) : (out.nativeTick env).2.head = out.head := by
  obtain ⟨report, hresult, -⟩ := LiveBackendRuntimeAssembly.runTickWithScanout_spec env
    hs.upToDate
  rw [he] at hresult
  unfold NativeOutput.nativeTick
  split
  · rfl
  · rename_i h
    rw [h] at hresult
    cases hresult

theorem nativeTick_observes {env : TickEnv ρ} {report : RuntimeTickReport}
    (h : (out.runtime.runTickWithScanout env).1 = .ok report)
    (hacc : 0 < report.pageFlipCallbacks.accepted) :
    out.head.callbackAccepted < (out.nativeTick env).2.head.callbackAccepted ∧
    ∀ sequence ∈ out.head.submittedSequence,
      (out.nativeTick env).2.head.presentedSubmissions = sequence := by
  rcases hd : out.runtime.runTickWithScanout env with ⟨result, runtime⟩
  rw [hd] at h
  cases h
  simp only [NativeOutput.nativeTick, hd]
  generalize hh : (if env.exporterPending = true then out.head
    else { out.head with pendingContent := none }) = head
  have hsame : head.callbackAccepted = out.head.callbackAccepted ∧
      head.submittedSequence = out.head.submittedSequence := by
    rw [← hh]
    split <;> exact ⟨rfl, rfl⟩
  obtain ⟨hretired, hseq, -⟩ := observeRetire_callbacks head report.retire
  obtain ⟨hmore, hpresented⟩ := observeCallbacks_of_pos
    (report.retire.elim head head.observeRetire) hacc
  rw [observeSubmit_callbacks.1, observeSubmit_callbacks.2]
  rw [hretired, hsame.1] at hmore
  rw [hseq, hsame.2] at hpresented
  exact ⟨hmore, hpresented⟩

theorem nativeTick_flipped {env : TickEnv ρ} (hs : out.Sound) (he : env.engine = .ok ())
    (hw : out.runtime.flipWaiting = true)
    (hm : submission ∈ out.runtime.state.scanoutSubmission) :
    Flipped out (out.nativeTick env).2 submission := by
  obtain ⟨report, hresult, hacc, hticked⟩ := LiveBackendRuntimeAssembly.runTickWithScanout_spec env
    hs.upToDate
  rw [he] at hresult
  rw [← nativeTick_runtime] at hticked
  obtain ⟨hnew, hdisplayed⟩ := hticked.landed hw
  obtain ⟨hobserved, hpresented⟩ := nativeTick_observes hresult (hacc.mpr hw)
  exact ⟨hdisplayed hs.retain submission hm, submission_ne_of_newer hs hticked.upToDate hnew hm,
    hobserved, hpresented⟩

theorem retireReady_flipped {destroy : ResourceDestroyReport ρ} (hs : out.Sound)
    (hw : out.runtime.flipWaiting = true)
    (hm : submission ∈ out.runtime.state.scanoutSubmission) :
    Flipped out (out.retireReady destroy) submission := by
  rcases hd : out.runtime.drainPageFlipCallbacksWith destroy with ⟨report, retire, runtime⟩
  obtain ⟨-, hcase⟩ := LiveBackendRuntimeAssembly.drainWith_spec hs.upToDate hd
  rw [if_pos hw] at hcase
  obtain ⟨hacc, hlanded⟩ := hcase
  obtain ⟨hmore, hpresented⟩ := observeCallbacks_of_pos out.head hacc
  obtain ⟨hcall, -, hpres⟩ := observeRetire_callbacks
    (out.head.observeCallbacks report) retire
  simp only [NativeOutput.retireReady, hd]
  refine ⟨hlanded.displayed hs.retain submission hm, by simp [hlanded.submission], ?_, ?_⟩
  · exact hcall ▸ hmore
  · intro sequence hseq
    rw [hpres]
    exact hpresented sequence hseq

end Output

namespace LiveProductionNativeScanout

variable {scanout scanout' : LiveProductionNativeScanout ρ} {index i group : ℕ}
  {received : ReceiveEvents} {out out' : NativeOutput ρ}
  {act : NativeOutput ρ → Except String Unit × NativeOutput ρ}

/-- The output as the drain after a poll of its card finds it; nothing if the poll fails. -/
def polled (scanout : LiveProductionNativeScanout ρ) (index : ℕ) (received : ReceiveEvents) :
    Option (NativeOutput ρ) :=
  match scanout.outputs[index]? with
  | none => none
  | some out =>
    match scanout.pollGroupCallbacks out.head.group received with
    | (.error _, _) => none
    | (.ok _, scanout) => scanout.outputs[index]?

/-- Every output has only received callbacks. -/
def AllReceived (scanout scanout' : LiveProductionNativeScanout ρ) : Prop :=
  ∀ i : ℕ, Option.Rel Received scanout.outputs[i]? scanout'.outputs[i]?

theorem getElem?_update : (scanout.update index act).2.outputs[i]? =
    if index = i then scanout.outputs[i]?.map fun out => (act out).2 else scanout.outputs[i]? := by
  unfold update
  by_cases he : index = i
  · subst he
    rw [if_pos rfl]
    cases h : scanout.outputs[index]? with
    | none => exact h
    | some out =>
      obtain ⟨hlt, -⟩ := List.getElem?_eq_some_iff.mp h
      exact List.getElem?_set_self hlt
  · rw [if_neg he]
    split
    · rfl
    · exact List.getElem?_set_ne he

theorem AllReceived.refl : AllReceived scanout scanout := by
  intro i
  cases scanout.outputs[i]? with
  | none => exact .none
  | some out => exact .some .refl

theorem routeCallback_received {callback : LivePageFlipCallback} {start : LiveProductionNativeScanout ρ}
    (h : scanout.routeCallback callback = .ok scanout') (hs : AllReceived start scanout) :
    AllReceived start scanout' := by
  unfold routeCallback at h
  split at h
  · cases h
  · rename_i k _
    split at h
    · cases h
    · rename_i out hsend
      cases h
      obtain ⟨old, hold, hsend⟩ := Option.bind_eq_some_iff.mp hsend
      intro i
      have hi := hs i
      by_cases he : k = i
      · subst he
        rw [hold] at hi
        obtain ⟨hlt, -⟩ := List.getElem?_eq_some_iff.mp hold
        rw [List.getElem?_set_self hlt]
        generalize start.outputs[k]? = first at hi
        cases hi with
        | some hi => exact .some (hi.trans (received_trySend hsend))
      · rw [List.getElem?_set_ne he]
        exact hi

theorem pollGroupCallbacks_received (scanout : LiveProductionNativeScanout ρ) (group : ℕ)
    (received : ReceiveEvents) :
    AllReceived scanout (scanout.pollGroupCallbacks group received).2 := by
  unfold pollGroupCallbacks
  split
  · exact .refl
  · exact Run.tryEach_invariant routeCallback (AllReceived scanout)
      (fun _ _ _ h hs => routeCallback_received h hs) _ fun i => AllReceived.refl i

theorem pollThen_cases (index : ℕ) (received : ReceiveEvents)
    (act : NativeOutput ρ → Except String Unit × NativeOutput ρ)
    (h : scanout.outputs[i]? = some out) :
    (∃ out', (scanout.pollThen index received act).2.outputs[i]? = some out' ∧ Received out out' ∧
      (index = i → (scanout.pollThen index received act).1 ≠ .ok () ∧
        scanout.polled index received = none)) ∨
    (index = i ∧ ∃ mid, scanout.polled index received = some mid ∧ Received out mid ∧
      (scanout.pollThen index received act).2.outputs[i]? = some (act mid).2 ∧
      (scanout.pollThen index received act).1 = (act mid).1) := by
  unfold pollThen polled
  cases hindex : scanout.outputs[index]? with
  | none =>
    refine Or.inl ⟨out, h, .refl, ?_⟩
    rintro rfl
    cases hindex.symm.trans h
  | some first =>
    have hpoll := pollGroupCallbacks_received scanout first.head.group received i
    rw [h] at hpoll
    generalize hp : scanout.pollGroupCallbacks first.head.group received = polled at hpoll ⊢
    obtain ⟨result, scanout'⟩ := polled
    generalize hmid : scanout'.outputs[i]? = mid at hpoll
    cases hpoll with
    | some hreceived =>
      rename_i mid
      cases result with
      | error e =>
        simp only [hp]
        exact Or.inl ⟨mid, hmid, hreceived, fun _ => ⟨by simp, trivial⟩⟩
      | ok _ =>
        simp only [hp, getElem?_update]
        by_cases he : index = i
        · subst he
          refine Or.inr ⟨rfl, mid, hmid, hreceived, by simp [hmid], ?_⟩
          simp only [update, hmid]
        · exact Or.inl ⟨mid, by rw [if_neg he, hmid], hreceived, fun h => (he h).elim⟩

end LiveProductionNativeScanout

open LiveProductionNativeScanout

/-- The call returns Ok after draining the callbacks of the output with its device at hand. -/
def DrainsOk (scanout : LiveProductionNativeScanout ρ) : ScanoutAction ρ → ℕ → Prop
  | .runTick index received env, i => index = i ∧ (scanout.runTick index received env).1 = .ok ()
  | .retireReady index received destroy, i =>
    index = i ∧ (scanout.retireReady index received destroy).1 = .ok ()
  | _, _ => False

/-- Across one call no page flip of the frame in flight goes astray: an accepted one has put the
frame on screen and reached the head, and one still in the queue stays there until a drain. -/
structure Delivers (scanout : LiveProductionNativeScanout ρ) (a : ScanoutAction ρ) (i : ℕ)
    (out out' : NativeOutput ρ) : Prop where
  accepted : out'.runtime.lastFrameSerial ≠ out.runtime.lastFrameSerial →
    ∀ submission ∈ out.runtime.state.scanoutSubmission, Flipped out out' submission
  waiting : out.runtime.flipWaiting = true → ∀ submission ∈ out.runtime.state.scanoutSubmission,
    Flipped out out' submission ∨ ¬ DrainsOk scanout a i ∧
      out'.runtime.state.scanoutSubmission = some submission ∧ out'.runtime.flipWaiting = true

def DeliversAll (scanout : LiveProductionNativeScanout ρ) (a : ScanoutAction ρ) : Prop :=
  ∀ (i : ℕ) out out', scanout.outputs[i]? = some out → (scanout.step a).outputs[i]? = some out' →
    Delivers scanout a i out out'

/-- The output has a frame in flight and the flip for it in its queue. -/
def NativeOutput.awaitsFlip (out : NativeOutput ρ) : Bool :=
  out.runtime.inFlight && out.runtime.flipWaiting

/-- No tick without a device drains the flip of a frame in flight, and no engine error cuts off a
tick that drains one. -/
def KeepsFlips (scanout : LiveProductionNativeScanout ρ) : ScanoutAction ρ → Prop
  | .runtimeTick index _ | .productionTick index _ _ =>
    ∀ out ∈ scanout.outputs[index]?, out.awaitsFlip = false
  | .runTick index received env =>
    env.engine = .ok () ∨ ∀ out ∈ scanout.polled index received, out.awaitsFlip = false
  | _ => True

/-- Nothing about the frame in flight changes; callbacks may arrive. -/
structure Quiet (out out' : NativeOutput ρ) : Prop where
  primaryOutput : out'.runtime.primaryOutput = out.runtime.primaryOutput
  intake : out'.runtime.state.pageFlipCallbackIntake = out.runtime.state.pageFlipCallbackIntake
  submission : out'.runtime.state.scanoutSubmission = out.runtime.state.scanoutSubmission
  retain : out'.runtime.state.retainDisplayedSubmission =
    out.runtime.state.retainDisplayedSubmission
  queue : SyncChannel.Extends out.runtime.pageFlipCallbackQueue out'.runtime.pageFlipCallbackQueue

section Step

variable {scanout : LiveProductionNativeScanout ρ} {a : ScanoutAction ρ} {index i : ℕ}
  {out mid out' : NativeOutput ρ} {submission : ScanoutSubmission ρ}

theorem Received.quiet (h : Received out out') : Quiet out out' :=
  ⟨h.primaryOutput, by rw [h.state], by rw [h.state], by rw [h.state], h.queue⟩

theorem Quiet.lastFrameSerial (h : Quiet out out') :
    out'.runtime.lastFrameSerial = out.runtime.lastFrameSerial :=
  congrArg (·.lastFrameSerial) h.intake

theorem Quiet.sound (h : Quiet out out') (hs : out.Sound) : out'.Sound := by
  refine ⟨h.retain.trans hs.retain, ?_⟩
  intro submission hm
  rw [h.submission] at hm
  exact h.lastFrameSerial.trans (hs.upToDate submission hm)

theorem Quiet.flipWaiting (h : Quiet out out') (hw : out.runtime.flipWaiting = true) :
    out'.runtime.flipWaiting = true := by
  obtain ⟨callback, hm, hc⟩ := List.any_eq_true.mp hw
  rw [LiveBackendRuntimeAssembly.flipWaiting, h.intake, h.primaryOutput]
  exact List.any_eq_true.mpr ⟨callback, h.queue.mem hm, hc⟩

theorem Quiet.delivers (h : Quiet out out') (hd : ¬ DrainsOk scanout a i) :
    Delivers scanout a i out out' := by
  constructor
  · intro hne
    exact (hne h.lastFrameSerial).elim
  · intro hw submission hm
    exact Or.inr ⟨hd, h.submission.trans hm, h.flipWaiting hw⟩

theorem Flipped.of_received (h : Received out mid) (hf : Flipped mid out' submission) :
    Flipped out out' submission :=
  ⟨hf.displayed, hf.landed, h.head ▸ hf.observed, h.head ▸ hf.presented⟩

/-- A drain delivers when it takes every waiting flip to the frame in flight and otherwise leaves
the serial alone. -/
theorem delivers_of_drain (hr : Received out mid)
    (hflip : mid.runtime.flipWaiting = true →
      ∀ submission ∈ mid.runtime.state.scanoutSubmission, Flipped mid out' submission)
    (hidle : mid.runtime.flipWaiting = false →
      out'.runtime.lastFrameSerial = mid.runtime.lastFrameSerial) :
    Delivers scanout a i out out' := by
  have hlast := hr.quiet.lastFrameSerial
  constructor
  · intro hne submission hm
    rw [← hr.quiet.submission] at hm
    cases hw : mid.runtime.flipWaiting with
    | true => exact (hflip hw submission hm).of_received hr
    | false => exact (hne ((hidle hw).trans hlast)).elim
  · intro hw submission hm
    rw [← hr.quiet.submission] at hm
    exact Or.inl ((hflip (hr.quiet.flipWaiting hw) submission hm).of_received hr)

theorem Quiet.refl : Quiet out out := Received.refl.quiet

theorem update_quiet (index : ℕ) {act : NativeOutput ρ → Except String Unit × NativeOutput ρ}
    (hact : ∀ out, Quiet out (act out).2) (h : scanout.outputs[i]? = some out) :
    ∃ out', (scanout.update index act).2.outputs[i]? = some out' ∧ Quiet out out' := by
  rw [getElem?_update, h]
  split
  · exact ⟨_, rfl, hact out⟩
  · exact ⟨out, rfl, .refl⟩

theorem initializeNative_quiet {checksum : UInt64} {modeset : Option ρ} :
    Quiet out (out.initializeNative checksum modeset).2 := by
  unfold NativeOutput.initializeNative
  cases hb : modeset.bind out.runtime.state.adoptPresented with
  | none => exact ⟨rfl, rfl, rfl, rfl, .refl⟩
  | some state =>
    obtain ⟨resource, -, hadopt⟩ := Option.bind_eq_some_iff.mp hb
    unfold LiveRenderedOutputState.adoptPresented at hadopt
    split at hadopt
    · cases hadopt
    · cases hadopt
      exact ⟨rfl, rfl, rfl, rfl, .refl⟩

theorem retryCleanup_quiet {retried : ResourceDestroyReport ρ} :
    Quiet out (out.retryCleanup retried) := by
  rw [NativeOutput.retryCleanup, retryCleanup_eq]
  exact ⟨rfl, rfl, rfl, rfl, .refl⟩

theorem awaitsFlip_eq_false_iff : out.awaitsFlip = false ↔
    (out.runtime.flipWaiting = true → out.runtime.state.scanoutSubmission = none) := by
  simp only [NativeOutput.awaitsFlip, LiveBackendRuntimeAssembly.inFlight,
    LiveRenderedOutputState.inFlight]
  cases out.runtime.flipWaiting <;> cases out.runtime.state.scanoutSubmission <;> simp

/-- A tick without a device keeps the frame in flight up to date exactly when no flip waits. -/
theorem runtimeTick_upToDate_iff (engine : Except String Unit) (hs : out.Sound) :
    (out.runtimeTick engine).2.runtime.UpToDate ↔ out.awaitsFlip = false := by
  obtain ⟨-, hframe, hlast⟩ := LiveBackendRuntimeAssembly.runTick_spec out.runtime engine
  rw [awaitsFlip_eq_false_iff]
  constructor
  · intro hup hw
    cases hsub : out.runtime.state.scanoutSubmission with
    | none => rfl
    | some submission =>
      have hafter := hup submission (hframe.submission.trans hsub)
      exact (hlast.mpr hw (hafter.trans (hs.upToDate submission hsub).symm)).elim
  · intro hawait submission hm
    have hm : out.runtime.state.scanoutSubmission = some submission := hframe.submission.symm.trans hm
    have hw : ¬ out.runtime.flipWaiting = true := by
      intro hw
      cases (hawait hw).symm.trans hm
    have hsame := not_not.mp fun hne => hw (hlast.mp hne)
    exact hsame.trans (hs.upToDate submission hm)

theorem runtimeTick_delivers {engine : Except String Unit} (hs : out.Sound)
    (hk : out.awaitsFlip = false) :
    (out.runtimeTick engine).2.Sound ∧ Delivers scanout a i out (out.runtimeTick engine).2 := by
  obtain ⟨hdrained, hframe, hlast⟩ := LiveBackendRuntimeAssembly.runTick_spec out.runtime engine
  refine ⟨⟨hdrained.retain.trans hs.retain, (runtimeTick_upToDate_iff engine hs).mpr hk⟩, ?_⟩
  rw [awaitsFlip_eq_false_iff] at hk
  constructor
  · intro hne submission hm
    cases (hk (hlast.mp hne)).symm.trans hm
  · intro hw submission hm
    cases (hk hw).symm.trans hm

theorem nativeTick_sound (env : TickEnv ρ) (hs : out.Sound) : (out.nativeTick env).2.Sound := by
  obtain ⟨report, -, -, hticked⟩ := LiveBackendRuntimeAssembly.runTickWithScanout_spec env
    hs.upToDate
  rw [← nativeTick_runtime] at hticked
  exact ⟨hticked.drained.retain.trans hs.retain, hticked.upToDate⟩

theorem nativeTick_delivers {env : TickEnv ρ} (hr : Received out mid) (hs : out.Sound)
    (hk : env.engine = .ok () ∨ mid.awaitsFlip = false) :
    (mid.nativeTick env).2.Sound ∧ Delivers scanout a i out (mid.nativeTick env).2 := by
  have hmid := hr.quiet.sound hs
  obtain ⟨report, -, -, hticked⟩ := LiveBackendRuntimeAssembly.runTickWithScanout_spec env
    hmid.upToDate
  rw [← nativeTick_runtime] at hticked
  refine ⟨nativeTick_sound env hmid, ?_⟩
  apply delivers_of_drain hr
  · intro hw submission hm
    rcases hk with he | hk
    · exact nativeTick_flipped hmid he hw hm
    · cases (awaitsFlip_eq_false_iff.mp hk hw).symm.trans hm
  · exact fun hw => (hticked.waited hw).1

theorem retireReady_sound (destroy : ResourceDestroyReport ρ) (hs : out.Sound) :
    (out.retireReady destroy).Sound := by
  rcases hd : out.runtime.drainPageFlipCallbacksWith destroy with ⟨report, retire, runtime⟩
  obtain ⟨hdrained, hcase⟩ := LiveBackendRuntimeAssembly.drainWith_spec hs.upToDate hd
  simp only [NativeOutput.retireReady, hd]
  refine ⟨hdrained.retain.trans hs.retain, ?_⟩
  intro submission hm
  split at hcase
  · rw [hcase.2.submission] at hm
    cases hm
  · obtain ⟨-, hlast, hframe⟩ := hcase
    rw [hframe.submission] at hm
    exact hlast.trans (hs.upToDate submission hm)

theorem retireReady_delivers {destroy : ResourceDestroyReport ρ} (hr : Received out mid)
    (hs : out.Sound) :
    (mid.retireReady destroy).Sound ∧ Delivers scanout a i out (mid.retireReady destroy) := by
  have hmid := hr.quiet.sound hs
  refine ⟨retireReady_sound destroy hmid, ?_⟩
  apply delivers_of_drain hr
  · intro hw submission hm
    exact retireReady_flipped hmid hw hm
  · intro hw
    rcases hd : mid.runtime.drainPageFlipCallbacksWith destroy with ⟨report, retire, runtime⟩
    obtain ⟨-, hcase⟩ := LiveBackendRuntimeAssembly.drainWith_spec hmid.upToDate hd
    rw [hw, if_neg Bool.false_ne_true] at hcase
    simp only [NativeOutput.retireReady, hd]
    exact hcase.2.1

theorem runTick_delivers {received : ReceiveEvents} {env : TickEnv ρ} (hs : out.Sound)
    (h : scanout.outputs[i]? = some out) (hk : KeepsFlips scanout (.runTick index received env)) :
    ∃ out', (scanout.runTick index received env).2.outputs[i]? = some out' ∧ out'.Sound ∧
      Delivers scanout (.runTick index received env) i out out' := by
  rcases pollThen_cases index received (·.nativeTick env) h with
    ⟨out', hout, hr, hfail⟩ | ⟨-, mid, hpolled, hr, hout, -⟩
  · refine ⟨out', hout, hr.quiet.sound hs, hr.quiet.delivers ?_⟩
    rintro ⟨he, hok⟩
    exact (hfail he).1 hok
  · exact ⟨_, hout, nativeTick_delivers hr hs (hk.imp_right fun hk => hk mid hpolled)⟩

/-- A tick of an output with nothing in flight has no flip to lose. -/
theorem keepsFlips_of_idle {first : NativeOutput ρ} (received : ReceiveEvents) (env : TickEnv ρ)
    (hindex : scanout.outputs[index]? = some first)
    (hidle : first.runtime.state.scanoutSubmission = none) :
    KeepsFlips scanout (.runTick index received env) := by
  refine Or.inr fun mid hpolled => awaitsFlip_eq_false_iff.mpr fun _ => ?_
  rcases pollThen_cases index received (fun out => (.ok (), out)) hindex with
    ⟨-, -, -, hfail⟩ | ⟨-, mid', hpolled', hr, -, -⟩
  · cases (hfail rfl).2.symm.trans hpolled
  · cases hpolled'.symm.trans hpolled
    exact hr.quiet.submission.trans hidle

/-- Under the guard every call keeps every output sound and delivers its flips. -/
theorem output_step (hs : out.Sound) (h : scanout.outputs[i]? = some out)
    (hk : KeepsFlips scanout a) :
    ∃ out', (scanout.step a).outputs[i]? = some out' ∧ out'.Sound ∧ Delivers scanout a i out out' := by
  have hquiet : ∀ {act : NativeOutput ρ → Except String Unit × NativeOutput ρ} {index : ℕ},
      (∀ out, Quiet out (act out).2) → ¬ DrainsOk scanout a i →
      ∃ out', (scanout.update index act).2.outputs[i]? = some out' ∧ out'.Sound ∧
        Delivers scanout a i out out' := by
    intro act index hact hd
    obtain ⟨out', hout, hq⟩ := update_quiet index hact h
    exact ⟨out', hout, hq.sound hs, hq.delivers hd⟩
  have htick : ∀ {index : ℕ} {engine : Except String Unit}, ¬ DrainsOk scanout a i →
      (∀ out ∈ scanout.outputs[index]?, out.awaitsFlip = false) →
      ∃ out', (scanout.runtimeTick index engine).2.outputs[i]? = some out' ∧ out'.Sound ∧
        Delivers scanout a i out out' := by
    intro index engine hd hawait
    rw [runtimeTick, getElem?_update, h]
    split
    · rename_i he
      subst he
      exact ⟨_, rfl, runtimeTick_delivers hs (hawait out h)⟩
    · exact ⟨out, rfl, hs, Quiet.refl.delivers hd⟩
  cases a with
  | initializeNative index checksum modeset =>
    exact hquiet (fun _ => initializeNative_quiet) (fun hd => hd)
  | queueFrame index checksum =>
    exact hquiet (fun _ => ⟨rfl, rfl, rfl, rfl, .refl⟩) (fun hd => hd)
  | queueMixedFrame index transaction =>
    exact hquiet (fun _ => ⟨rfl, rfl, rfl, rfl, .refl⟩) (fun hd => hd)
  | retryCleanup index retried => exact hquiet (fun _ => retryCleanup_quiet) (fun hd => hd)
  | pollGroupCallbacks group received =>
    have hpoll := pollGroupCallbacks_received scanout group received i
    rw [h] at hpoll
    rw [step]
    generalize (scanout.pollGroupCallbacks group received).2.outputs[i]? = after at hpoll
    cases hpoll with
    | some hr => exact ⟨_, rfl, hr.quiet.sound hs, hr.quiet.delivers fun hd => hd⟩
  | runTick index received env => exact runTick_delivers hs h hk
  | retireReady index received destroy =>
    rcases pollThen_cases index received (fun out => (.ok (), out.retireReady destroy)) h with
      ⟨out', hout, hr, hfail⟩ | ⟨-, mid, -, hr, hout, -⟩
    · refine ⟨out', hout, hr.quiet.sound hs, hr.quiet.delivers ?_⟩
      rintro ⟨he, hok⟩
      exact (hfail he).1 hok
    · exact ⟨_, hout, retireReady_delivers hr hs⟩
  | runtimeTick index engine => exact htick (fun hd => hd) hk
  | productionTick index received env =>
    rw [step, productionTick]
    cases hindex : scanout.outputs[index]? with
    | none => exact ⟨out, h, hs, Quiet.refl.delivers fun hd => hd⟩
    | some first =>
      simp only
      split
      · exact htick (fun hd => hd) hk
      · rename_i hflight
        have hidle : first.runtime.state.scanoutSubmission = none := by
          simpa [LiveBackendRuntimeAssembly.inFlight, LiveRenderedOutputState.inFlight]
            using hflight
        obtain ⟨out', hout, hsound, hacc, hwait⟩ :=
          runTick_delivers hs h (keepsFlips_of_idle received env hindex hidle)
        refine ⟨out', hout, hsound, hacc, ?_⟩
        intro hw submission hm
        rcases hwait hw submission hm with hf | ⟨-, hrest⟩
        · exact Or.inl hf
        · exact Or.inr ⟨fun hd => hd, hrest⟩

end Step

section Run

variable {scanout : LiveProductionNativeScanout ρ} {a : ScanoutAction ρ} {i : ℕ}

def AllSound (scanout : LiveProductionNativeScanout ρ) : Prop :=
  ∀ (i : ℕ) out, scanout.outputs[i]? = some out → out.Sound

theorem update_eq_none {index : ℕ} {act : NativeOutput ρ → Except String Unit × NativeOutput ρ}
    (h : scanout.outputs[i]? = none) : (scanout.update index act).2.outputs[i]? = none := by
  rw [getElem?_update, h]
  split <;> rfl

theorem pollGroupCallbacks_eq_none (group : ℕ) (received : ReceiveEvents)
    (h : scanout.outputs[i]? = none) :
    (scanout.pollGroupCallbacks group received).2.outputs[i]? = none := by
  have hpoll := pollGroupCallbacks_received scanout group received i
  rw [h] at hpoll
  generalize (scanout.pollGroupCallbacks group received).2.outputs[i]? = after at hpoll
  cases hpoll
  rfl

theorem pollThen_eq_none {index : ℕ} {received : ReceiveEvents}
    {act : NativeOutput ρ → Except String Unit × NativeOutput ρ}
    (h : scanout.outputs[i]? = none) :
    (scanout.pollThen index received act).2.outputs[i]? = none := by
  unfold pollThen
  split
  · exact h
  · rename_i out _
    have hpoll := pollGroupCallbacks_eq_none out.head.group received h
    split
    · rename_i hp
      rw [hp] at hpoll
      exact hpoll
    · rename_i hp
      rw [hp] at hpoll
      exact update_eq_none hpoll

theorem step_eq_none (h : scanout.outputs[i]? = none) : (scanout.step a).outputs[i]? = none := by
  cases a with
  | initializeNative | queueFrame | queueMixedFrame | retryCleanup | runtimeTick =>
    exact update_eq_none h
  | pollGroupCallbacks => exact pollGroupCallbacks_eq_none _ _ h
  | runTick | retireReady => exact pollThen_eq_none h
  | productionTick index received env =>
    rw [step, productionTick]
    split
    · exact h
    · split
      · exact update_eq_none h
      · exact pollThen_eq_none h

theorem allSound_step (hs : AllSound scanout) (hk : KeepsFlips scanout a) :
    AllSound (scanout.step a) := by
  intro i out' hout'
  cases h : scanout.outputs[i]? with
  | none => cases (step_eq_none h).symm.trans hout'
  | some out =>
    obtain ⟨after, hafter, hsound, -⟩ := output_step (hs i out h) h hk
    cases hafter.symm.trans hout'
    exact hsound

theorem keepsFlips_of_delivers (hs : AllSound scanout)
    (hup : ∀ out ∈ (scanout.step a).outputs, out.runtime.UpToDate) (hd : DeliversAll scanout a) :
    KeepsFlips scanout a := by
  have htick : ∀ {index : ℕ} (engine : Except String Unit) {out : NativeOutput ρ},
      scanout.outputs[index]? = some out →
      (∀ out ∈ (scanout.runtimeTick index engine).2.outputs, out.runtime.UpToDate) →
      out.awaitsFlip = false := by
    intro index engine out h hup
    refine (runtimeTick_upToDate_iff engine (hs index out h)).mp (hup _ ?_)
    refine List.mem_iff_getElem?.mpr ⟨index, ?_⟩
    rw [runtimeTick, getElem?_update, if_pos rfl, h]
    rfl
  cases a with
  | initializeNative | queueFrame | queueMixedFrame | retryCleanup | pollGroupCallbacks |
    retireReady => trivial
  | runtimeTick index engine => exact fun out h => htick engine h hup
  | productionTick index received env =>
    intro out h
    cases hflight : out.runtime.inFlight with
    | false => simp [NativeOutput.awaitsFlip, hflight]
    | true =>
      have hindex : scanout.outputs[index]? = some out := h
      refine htick env.engine h ?_
      simpa only [step, productionTick, hindex, hflight, if_true] using hup
  | runTick index received env =>
    cases he : env.engine with
    | ok u => exact Or.inl he
    | error e =>
      refine Or.inr fun mid hpolled => awaitsFlip_eq_false_iff.mpr fun hw => ?_
      -- An engine error hides the accepted flip from the head.
      by_contra hsub
      obtain ⟨submission, hm⟩ := Option.ne_none_iff_exists'.mp hsub
      cases h : scanout.outputs[index]? with
      | none => simp [polled, h] at hpolled
      | some out =>
        rcases pollThen_cases index received (·.nativeTick env) h with
          ⟨-, -, -, hfail⟩ | ⟨-, mid', hpolled', hr, hout, -⟩
        · cases (hfail rfl).2.symm.trans hpolled
        · cases hpolled'.symm.trans hpolled
          have hmid := hr.quiet.sound (hs index out h)
          obtain ⟨report, -, -, hticked⟩ := LiveBackendRuntimeAssembly.runTickWithScanout_spec env
              hmid.upToDate
          rw [← nativeTick_runtime] at hticked
          have hne := (hticked.landed hw).1
          rw [hr.quiet.lastFrameSerial] at hne
          have hf := (hd index out _ h hout).accepted hne submission (hr.quiet.submission ▸ hm)
          have hlt := hf.observed
          rw [nativeTick_of_error hmid he, hr.head] at hlt
          exact Nat.lt_irrefl _ hlt

theorem allSound_fresh (groups : List PageFlipSession) (heads : List (ℕ × OutputId)) :
    AllSound (fresh groups heads : LiveProductionNativeScanout ρ) := by
  intro i out h
  simp only [fresh, List.getElem?_map, Option.map_eq_some_iff] at h
  obtain ⟨head, -, rfl⟩ := h
  refine ⟨rfl, ?_⟩
  intro submission hm
  cases hm

/-- From freshly opened cards and whatever the kernel, the engine and the device do: in every state
of a run no frame in flight has missed a page flip, and across every call every flip is delivered,
exactly when no tick without a device drains the flip of a frame in flight and no engine error cuts
off a tick that drains one. -/
theorem page_flips_delivered (groups : List PageFlipSession) (heads : List (ℕ × OutputId))
    (actions : List (ScanoutAction ρ)) :
    ((∀ before, before <+: actions → ∀ out ∈ (Run.exec step (fresh groups heads) before).outputs,
        out.runtime.UpToDate) ∧
      Run.Guarded step DeliversAll (fresh groups heads) actions) ↔
    Run.Guarded step KeepsFlips (fresh groups heads) actions := by
  have hiff : ∀ (scanout : LiveProductionNativeScanout ρ) (a : ScanoutAction ρ), AllSound scanout →
      ((∀ out ∈ (scanout.step a).outputs, out.runtime.UpToDate) ∧ DeliversAll scanout a ↔
        KeepsFlips scanout a) := by
    intro scanout a hs
    refine ⟨fun h => keepsFlips_of_delivers hs h.1 h.2, fun hk => ⟨?_, ?_⟩⟩
    · intro out hm
      obtain ⟨i, hi⟩ := List.mem_iff_getElem?.mp hm
      exact (allSound_step hs hk i out hi).upToDate
    · intro i out out' h hout'
      obtain ⟨after, hafter, -, hd⟩ := output_step (hs i out h) h hk
      cases hafter.symm.trans hout'
      exact hd
  rw [← Run.guarded_congr (allSound_fresh groups heads) (fun _ _ hs hk => allSound_step hs hk) hiff]
  constructor
  · rintro ⟨hup, hd⟩ before a after he
    refine ⟨?_, hd before a after he⟩
    have hnext := hup (before ++ [a]) ⟨after, by simp [he]⟩
    rwa [Run.exec_snoc] at hnext
  · intro h
    refine ⟨?_, fun before a after he => (h before a after he).2⟩
    rintro before ⟨after, rfl⟩
    rcases List.eq_nil_or_concat before with rfl | ⟨before, a, rfl⟩
    · intro out hm
      obtain ⟨i, hi⟩ := List.mem_iff_getElem?.mp hm
      exact (allSound_fresh groups heads i out hi).upToDate
    · rw [List.concat_eq_append, Run.exec_snoc]
      exact (h before a after (by simp)).1

/-- Two heads on one card, a frame in flight on each. The first one's flip is read and retired; then
a repaint polls the card for the first head and the tick without a device on the second takes its
flip, so the second stays in flight with a flip newer than its frame consumed. -/
theorem sibling_poll_swallows_flip :
    let card : PageFlipSession := ⟨[⟨41, 1, 0⟩, ⟨42, 2, 0⟩], [⟨1, ⟨1⟩⟩, ⟨2, ⟨2⟩⟩], []⟩
    let device : ResourceDestroyReport ℕ := ⟨.destroyed, none⟩
    let submits (frame : ℕ) : TickEnv ℕ := ⟨device, device, some (.submitted frame), .ok (), false⟩
    let actions : List (ScanoutAction ℕ) :=
      [.productionTick 0 .wouldBlock (submits 10), .productionTick 1 .wouldBlock (submits 20),
        .retireReady 0 (.events [.pageFlip 41 7]) device, .retireReady 1 .wouldBlock device,
        .productionTick 0 (.events [.pageFlip 42 7]) (submits 11),
        .productionTick 1 .wouldBlock (submits 21)]
    ∃ out ∈ (Run.exec step (fresh [card] [(0, ⟨1⟩), (0, ⟨2⟩)]) actions).outputs,
      ¬ out.runtime.UpToDate := by
  decide +kernel

end Run
end Sophia.Backend
