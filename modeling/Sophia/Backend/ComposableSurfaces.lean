import Sophia.Backend.Seeding
import Sophia.Renderer.SceneUpdates

/-! The CPU and GPU cycles with the scene they compose: buffers and commits travel separately. -/
namespace Sophia.Backend

open Protocol Engine Renderer Std

/-- What a cycle is given. -/
structure CycleInput where
  env : Env
  batch : LiveProductionAuthorityBatch
  updates : List (LiveCpuBufferUpdate UInt8)
  raisedSurface : Option SurfaceId
  cursorPosition : Option Point
  deferFrame : Bool

inductive CycleError where
  | runtime (error : RuntimeError)
  | buffers (error : LiveCpuBufferRegistryError)
  | composition (error : LiveCpuCompositionError)
  | noComposedFrame

structure ComposedRuntime where
  runtime : LiveProductionVisualRuntime
  scene : LiveProductionCpuScene

def BufferSource.isDmaBuf : BufferSource → Bool
  | .dmaBuf _ => true
  | _ => false

/-- The frame of a cycle, or the last one again where its drawing is deferred. -/
def composeFrame (scene : LiveProductionCpuScene) (input : CycleInput) (deferFrame : Bool)
    (committed : List CommittedSurfaceState) : Except CycleError LiveProductionCpuScene :=
  if deferFrame then
    if scene.lastReport.isSome then .ok scene else .error .noComposedFrame
  else (scene.compose committed input.raisedSurface input.cursorPosition).mapError .composition

namespace ComposedRuntime

variable (state : ComposedRuntime)

def preserveGpuScanout (input : CycleInput) : Bool :=
  input.env.native.isSome &&
    (state.runtime.committedSurfaces.any (BufferSource.isDmaBuf ·.buffer) ||
      (Ordered.values (updateLayers state.runtime.layers input.batch.removedSurfaces
        input.batch.transactions)).any (BufferSource.isDmaBuf ·.targetBuffer))

-- The updates are applied to the scene when the commit is done.
def runCpuProductionCycle (input : CycleInput) : Except CycleError ComposedRuntime :=
  match state.runtime.runCpuProductionCycle input.env input.batch with
  | (.error error, _) => .error (.runtime error)
  | (.ok _, runtime) => do
    let scene ← (state.scene.applyUpdates input.updates runtime.committedSurfaces).mapError .buffers
    let scene ← composeFrame scene input (input.deferFrame || state.preserveGpuScanout input)
      runtime.committedSurfaces
    return ⟨runtime, scene⟩

-- The updates are applied before the batch is run, for what is committed by then.
def runGpuProductionCycle (input : CycleInput) : Except CycleError ComposedRuntime := do
  let committed := state.runtime.committedSurfaces
  let scene ← (state.scene.applyUpdates input.updates committed).mapError .buffers
  let scene ← composeFrame scene input input.deferFrame committed
  let env := if input.deferFrame then { input.env with native := none } else input.env
  match state.runtime.runBatch env input.batch with
  | (.error error, _) => .error (.runtime error)
  | (.ok _, runtime) => return ⟨runtime, scene⟩

end ComposedRuntime

/-- One step of the session on the runtime and its scene. -/
inductive ComposedMove where
  | cpuCycle (input : CycleInput)
  | gpuCycle (input : CycleInput)
  | drive (env : Env)
  | pageFlip (os : Os) (ust msc : UInt64)
  | shutdown (os : Os)

/-- The session until a cycle fails: the latest buffer of every handle, whether a cycle has
completed, and whether the last step was one. -/
structure ComposedSession where
  state : ComposedRuntime
  latest : LiveCpuBufferRegistry UInt8
  ended : Bool
  started : Bool
  settled : Bool

namespace ComposedSession

/-- The runtime of a session is seeded with the transactions of its first batch. -/
def start (transactions : List SurfaceTransaction) (scheduler : LiveProductionPresentScheduler)
    (outputSize : Size) : ComposedSession where
  state := {
    runtime := .withCommittedSurfaces (seedMissingCommittedSurfaces [] transactions) scheduler
    scene := ⟨outputSize, .new, none, 0, 0⟩ }
  latest := .new
  ended := false
  started := false
  settled := false

/-- The end of a cycle. -/
def cycle (session : ComposedSession) (input : CycleInput) :
    Except CycleError ComposedRuntime → ComposedSession
  | .error _ => { session with ended := true }
  | .ok state =>
    { state
      latest := Run.exec LiveCpuBufferRegistry.record session.latest input.updates
      ended := false
      started := true
      settled := true }

def advance (session : ComposedSession) (action : Action) : ComposedSession :=
  { session with
    state := { session.state with runtime := Backend.step session.state.runtime action }
    settled := false }

def step (session : ComposedSession) (move : ComposedMove) : ComposedSession :=
  if session.ended then session
  else match move with
    | .cpuCycle input => session.cycle input (session.state.runCpuProductionCycle input)
    | .gpuCycle input => session.cycle input (session.state.runGpuProductionCycle input)
    | .drive env => session.advance (.drive env)
    | .pageFlip os ust msc => session.advance (.pageFlip os ust msc)
    | .shutdown os => session.advance (.shutdown os)

/-- The scene holds the buffers on screen with the bytes of their latest updates, and no others, and
every window that shows one is composed. -/
structure Composes (session : ComposedSession) : Prop where
  registered : ∀ handle, References session.state.runtime.committedSurfaces handle →
    ∃ buffer, session.state.scene.buffers.get handle = some buffer ∧
      session.latest.get handle = some buffer
  tight : ∀ handle, (session.state.scene.buffers.get handle).isSome →
    References session.state.runtime.committedSurfaces handle
  drawn : ∀ state ∈ session.state.runtime.committedSurfaces, ∀ handle,
    state.buffer = .cpuBuffer handle →
      (compositionLayer? session.state.scene.buffers state).isSome

/-- The scene composes after every cycle that completes. -/
def Composable (session : ComposedSession) : Prop :=
  session.ended = false → session.settled = true → session.Composes

/-- The transactions draw no CPU buffer. -/
def NoCpuBuffer (transactions : List SurfaceTransaction) : Prop :=
  ∀ tx ∈ transactions, ∀ handle, tx.targetBuffer ≠ .cpuBuffer handle

/-- A batch as the frontend emits it: every CPU buffer that it draws comes with its bytes, no handle
falls back to an older generation, and Present batches draw none. The first one comes with the
bytes of what the runtime was seeded with. -/
structure Carries (session : ComposedSession) (input : CycleInput) : Prop where
  drawn : ∀ tx ∈ input.batch.transactions, ∀ handle, tx.targetBuffer = .cpuBuffer handle →
    Replaced input.updates handle
  rises : Run.Guarded LiveCpuBufferRegistry.record LiveCpuBufferRegistry.Rises session.latest
    input.updates
  presented : input.batch.presentSubmissions ≠ [] → NoCpuBuffer input.batch.transactions
  seeded : session.started = false → ∀ handle,
    References session.state.runtime.committedSurfaces handle → Replaced input.updates handle

def Emitted (session : ComposedSession) : ComposedMove → Prop
  | .cpuCycle input | .gpuCycle input => session.ended = false → session.Carries input
  | _ => True

/-- The moves of the session: the GPU cycle is for Present batches, and the authority emits no batch
that draws a surface and destroys it. -/
def SessionCall : ComposedMove → Prop
  | .cpuCycle input => ∀ tx ∈ input.batch.transactions, tx.surface ∉ input.batch.removedSurfaces
  | .gpuCycle input => input.batch.presentSubmissions ≠ []
  | _ => True

end ComposedSession
end Sophia.Backend

/-! Every window that shows a CPU buffer is composed after every cycle. -/
namespace Sophia.Backend

open Protocol Engine Renderer Std

section Runtime

variable {rt rt' : LiveProductionVisualRuntime} {env : Env}
  {batch : LiveProductionAuthorityBatch} {s : SurfaceId} {tx : SurfaceTransaction} {handle : UInt64}

/-- A surface whose latest transaction draws a CPU buffer is committed. -/
def LayersCommitted (rt : LiveProductionVisualRuntime) : Prop :=
  ∀ s tx handle, rt.layers[s]? = some tx → tx.targetBuffer = .cpuBuffer handle →
    find rt.committedSurfaces s ≠ none

/-- A layer is of the batch, or stays. -/
theorem mem_of_updateLayers
    (h : (updateLayers rt.layers batch.removedSurfaces batch.transactions)[s]? = some tx) :
    (tx ∈ batch.transactions ∧ tx.surface = s) ∨
      (s ∉ batch.removedSurfaces ∧ rt.layers[s]? = some tx) := by
  rw [getElem?_updateLayers] at h
  rcases Option.or_eq_some_iff.mp h with hdrawn | ⟨-, hkept⟩
  · refine .inl ⟨?_, Keyed.key_of_lookup hdrawn⟩
    exact List.mem_reverse.mp (Keyed.mem_of_lookup hdrawn)
  · split at hkept
    · cases hkept
    · rename_i hs
      exact .inr ⟨hs, hkept⟩

/-- What a batch is validated against shows a CPU buffer that was on screen, or one it draws. -/
theorem references_validatedAgainst (h : Sound rt) (hlayers : LayersCommitted rt)
    {entry : CommittedSurfaceState} (hfind : find (rt.validatedAgainst batch) s = some entry)
    (hbuffer : entry.buffer = .cpuBuffer handle) :
    References rt.committedSurfaces handle ∨
      ∃ tx ∈ batch.transactions, tx.targetBuffer = .cpuBuffer handle := by
  rw [find_validatedAgainst h] at hfind
  rcases Option.or_eq_some_iff.mp hfind with hold | ⟨hnone, hseeded⟩
  · exact .inl ⟨entry, Keyed.mem_of_lookup hold, hbuffer⟩
  split at hseeded
  swap
  · cases hseeded
  obtain ⟨tx, hlayer, rfl⟩ := Option.map_eq_some_iff.mp hseeded
  rcases mem_of_updateLayers hlayer with ⟨hdrawn, -⟩ | ⟨-, hkept⟩
  · exact .inr ⟨tx, hdrawn, hbuffer⟩
  · exact absurd hnone (hlayers s tx handle hkept hbuffer)

/-- A batch brings no CPU buffer on screen that it does not draw. -/
theorem references_committed (h : Sound rt) (hlayers : LayersCommitted rt)
    (hc : Committed rt rt' env batch) (href : References rt'.committedSurfaces handle) :
    References rt.committedSurfaces handle ∨
      ∃ tx ∈ batch.transactions, tx.targetBuffer = .cpuBuffer handle := by
  cases ho : rt.observes env batch with
  | false =>
    rw [(hc.refused ho).1] at href
    exact .inl href
  | true =>
    obtain ⟨entry, hentry, hbuffer⟩ := href
    have hn : NodupSurfaces (rt.validatedAgainst batch) := nodup_seededFor h.nodup
    have hfind := (mem_iff_find (sound_committed h hc).nodup).mp hentry
    rw [(hc.observed ho).2] at hfind
    by_cases hb : BatchReady batch.transaction batch.transactions (rt.validatedAgainst batch)
    · rw [find_intake_of_ready hn hb] at hfind
      split at hfind
      · cases hfind
      by_cases hnamed : ∃ tx ∈ batch.transactions, tx.surface = entry.surface
      · obtain ⟨tx, htx, -, he⟩ := find_nextCommitted_of_mem (rt.validatedAgainst batch) hnamed
        cases he.symm.trans hfind
        exact .inr ⟨tx, htx, hbuffer⟩
      · have hne : ∀ tx ∈ batch.transactions, tx.surface ≠ entry.surface :=
          fun tx htx he => hnamed ⟨tx, htx, he⟩
        rw [find_nextCommitted_of_notMem _ hne] at hfind
        exact references_validatedAgainst h hlayers hfind hbuffer
    · rw [intake_of_not_ready hn hb] at hfind
      exact references_validatedAgainst h hlayers hfind hbuffer

/-- A batch is validated against every surface that it draws. -/
theorem find_validatedAgainst_ne_none (h : Sound rt) (hlayers : LayersCommitted rt)
    (hlayer : (updateLayers rt.layers batch.removedSurfaces batch.transactions)[s]? = some tx)
    (hbuffer : tx.targetBuffer = .cpuBuffer handle) :
    find (rt.validatedAgainst batch) s ≠ none := by
  rw [find_validatedAgainst h]
  cases hold : find rt.committedSurfaces s with
  | some entry => exact Option.some_ne_none entry
  | none =>
    rcases mem_of_updateLayers hlayer with ⟨hdrawn, rfl⟩ | ⟨-, hkept⟩
    · rw [if_pos (namesUncommitted_iff.mpr ⟨tx, hdrawn, hold⟩), hlayer]
      exact Option.some_ne_none (seedState tx)
    · exact absurd hold (hlayers s tx handle hkept hbuffer)

theorem layersCommitted_committed (h : Sound rt) (hlayers : LayersCommitted rt)
    (hc : Committed rt rt' env batch)
    (hkeeps : ∀ tx ∈ batch.transactions, tx.surface ∉ batch.removedSurfaces) :
    LayersCommitted rt' := by
  intro s tx handle hlayer hbuffer
  cases ho : rt.observes env batch with
  | false =>
    rw [(hc.refused ho).2] at hlayer
    rw [(hc.refused ho).1]
    exact hlayers s tx handle hlayer hbuffer
  | true =>
    rw [(hc.observed ho).1] at hlayer
    rw [(hc.observed ho).2]
    have hn : NodupSurfaces (rt.validatedAgainst batch) := nodup_seededFor h.nodup
    have hvalidated := find_validatedAgainst_ne_none h hlayers hlayer hbuffer
    have hstays : s ∉ batch.removedSurfaces := by
      rcases mem_of_updateLayers hlayer with ⟨hdrawn, rfl⟩ | ⟨hstays, -⟩
      · exact hkeeps tx hdrawn
      · exact hstays
    by_cases hb : BatchReady batch.transaction batch.transactions (rt.validatedAgainst batch)
    · rw [find_intake_of_ready hn hb, if_neg hstays, find_nextCommitted]
      intro hnone
      exact hvalidated (Option.or_eq_none_iff.mp hnone).2
    · rwa [intake_of_not_ready hn hb]

/-- A page flip takes no surface off the screen. -/
theorem find_pageFlip_ne_none (os : Os) (ust msc : UInt64)
    (hfind : find rt.committedSurfaces s ≠ none) :
    find (step rt (.pageFlip os ust msc)).committedSurfaces s ≠ none := by
  rw [step, (pageFlip_frame rt os ust msc).2.2]
  cases hsub : rt.scheduler.submitted with
  | none => exact hfind
  | some submitted =>
    dsimp only
    by_cases hmem : s ∈ submitted.prepared.commit.appliedSurfaces
    swap
    · rwa [find_apply_untouched hmem]
    by_cases ho : (applyPreparedSurfaceCommit submitted.prepared
        rt.committedSurfaces).1.outcome = .committed
    swap
    · rwa [apply_of_not_committed ho]
    rw [find_apply_touched ho hmem, PreparedSurfaceCommit.find_candidateState hmem]
    exact Option.some_ne_none _

/-- The presentations show no CPU buffer. -/
theorem references_pageFlip (h : Sound rt) (hq : QueuedFrom ComposedSession.NoCpuBuffer rt)
    (os : Os) (ust msc : UInt64)
    (href : References (step rt (.pageFlip os ust msc)).committedSurfaces handle) :
    References rt.committedSurfaces handle := by
  obtain ⟨entry, hentry, hbuffer⟩ := href
  rcases committed_pageFlip h hq hentry with hold | ⟨-, -, -, -, -, transactions, -, hnone, -, tx,
    htx, hshows⟩
  · exact ⟨entry, hold, hbuffer⟩
  · exact absurd (hshows.2.2.trans hbuffer) (hnone tx htx handle)

/-- Whatever is not a batch leaves the committed surfaces, or is a page flip. -/
theorem layersCommitted_of_frame (hlayers : LayersCommitted rt) (hl : rt'.layers = rt.layers)
    (hc : rt'.committedSurfaces = rt.committedSurfaces) : LayersCommitted rt' := by
  intro s tx handle hlayer hbuffer
  rw [hl] at hlayer
  rw [hc]
  exact hlayers s tx handle hlayer hbuffer

theorem layersCommitted_presented (hlayers : LayersCommitted rt) (hp : Presented rt rt' env batch)
    (hnone : ComposedSession.NoCpuBuffer batch.transactions) : LayersCommitted rt' := by
  intro s tx handle hlayer hbuffer
  rw [hp.layers] at hlayer
  rw [hp.committed]
  split at hlayer
  · rcases mem_of_updateLayers hlayer with ⟨hdrawn, -⟩ | ⟨-, hkept⟩
    · exact absurd hbuffer (hnone tx hdrawn handle)
    · exact hlayers s tx handle hkept hbuffer
  · exact hlayers s tx handle hlayer hbuffer

end Runtime

section Scene

variable {scene scene' : LiveProductionCpuScene} {committed : List CommittedSurfaceState}
  {latest : LiveCpuBufferRegistry UInt8} {updates : List (LiveCpuBufferUpdate UInt8)}
  {input : CycleInput} {state state' : ComposedRuntime} {handle : UInt64}

/-- Composing reads the buffers only. -/
theorem buffers_composeFrame {deferFrame : Bool}
    (h : composeFrame scene input deferFrame committed = .ok scene') :
    scene'.buffers = scene.buffers := by
  unfold composeFrame at h
  split at h
  · split at h
    · cases h
      rfl
    · cases h
  · have hcomposed := Fallible.mapError_eq_ok.mp h
    obtain ⟨report, -, rfl⟩ := Fallible.map_eq_ok.mp hcomposed
    rfl

/-- Updates leave the buffers that are committed, each with its latest bytes, and all of those that
were there or are replaced. -/
theorem buffers_applyUpdates (hcurrent : scene.buffers.Current latest)
    (hrises : Run.Guarded LiveCpuBufferRegistry.record LiveCpuBufferRegistry.Rises latest updates)
    (h : scene.applyUpdates updates committed = .ok scene') :
    scene'.buffers.Current (Run.exec LiveCpuBufferRegistry.record latest updates) ∧
      (∀ handle, (scene'.buffers.get handle).isSome → References committed handle) ∧
      ∀ handle, References committed handle →
        (scene.buffers.get handle).isSome ∨ Replaced updates handle →
          (scene'.buffers.get handle).isSome := by
  obtain ⟨buffers, hbuffers, rfl⟩ := Fallible.map_eq_ok.mp h
  obtain ⟨hafter, hkept⟩ := LiveCpuBufferRegistry.applyUpdates_spec hcurrent hrises hbuffers
  refine ⟨hafter.retainHandles _, ?_, ?_⟩
  · intro handle hsome
    rw [LiveCpuBufferRegistry.get_retainHandles] at hsome
    split at hsome
    · rename_i hretained
      exact of_decide_eq_true hretained
    · cases hsome
  · intro handle href hneeded
    rw [LiveCpuBufferRegistry.get_retainHandles, if_pos (decide_eq_true href)]
    exact hkept handle hneeded

/-- A CPU cycle commits first; what is committed then decides which buffers stay. -/
theorem runCpuProductionCycle_eq_ok (h : state.runCpuProductionCycle input = .ok state') :
    state'.runtime = (state.runtime.runCpuProductionCycle input.env input.batch).2 ∧
      ∃ scene, state.scene.applyUpdates input.updates state'.runtime.committedSurfaces = .ok scene ∧
        state'.scene.buffers = scene.buffers := by
  unfold ComposedRuntime.runCpuProductionCycle at h
  split at h
  · cases h
  rename_i runtime hruntime
  simp only [Fallible.bind_eq_ok, Fallible.mapError_eq_ok, Fallible.pure_eq_ok] at h
  obtain ⟨updated, hupdated, composed, hcomposed, rfl⟩ := h
  exact ⟨by rw [hruntime], updated, hupdated, buffers_composeFrame hcomposed⟩

/-- A GPU cycle applies the updates to what is committed before. -/
theorem runGpuProductionCycle_eq_ok (h : state.runGpuProductionCycle input = .ok state') :
    (∃ env, state'.runtime = (state.runtime.runBatch env input.batch).2) ∧
      ∃ scene, state.scene.applyUpdates input.updates state.runtime.committedSurfaces = .ok scene ∧
        state'.scene.buffers = scene.buffers := by
  unfold ComposedRuntime.runGpuProductionCycle at h
  simp only [Fallible.bind_eq_ok, Fallible.mapError_eq_ok] at h
  obtain ⟨updated, hupdated, composed, hcomposed, h⟩ := h
  split at h
  · cases h
  rename_i runtime hruntime
  cases h
  exact ⟨⟨_, by rw [hruntime]⟩, updated, hupdated, buffers_composeFrame hcomposed⟩

end Scene

namespace ComposedSession

variable {session : ComposedSession} {move : ComposedMove} {input : CycleInput}
  {state : ComposedRuntime}

/-- What holds of a session whose cycles all completed. -/
structure Kept (session : ComposedSession) : Prop where
  sound : Sound session.state.runtime
  queued : QueuedFrom NoCpuBuffer session.state.runtime
  layers : LayersCommitted session.state.runtime
  current : session.state.scene.buffers.Current session.latest
  registered : session.started = true → ∀ handle,
    References session.state.runtime.committedSurfaces handle →
      (session.state.scene.buffers.get handle).isSome
  tight : session.settled = true → ∀ handle, (session.state.scene.buffers.get handle).isSome →
    References session.state.runtime.committedSurfaces handle

theorem Kept.composable (h : session.Kept)
    (hstarted : session.settled = true → session.started = true) : session.Composable := by
  intro _ hsettled
  have hregistered (handle : UInt64)
      (href : References session.state.runtime.committedSurfaces handle) :
      ∃ buffer, session.state.scene.buffers.get handle = some buffer :=
    Option.isSome_iff_exists.mp (h.registered (hstarted hsettled) handle href)
  refine ⟨?_, h.tight hsettled, ?_⟩
  · intro handle href
    obtain ⟨buffer, hget⟩ := hregistered handle href
    exact ⟨buffer, hget, h.current handle buffer hget⟩
  · intro state hmem handle hbuffer
    obtain ⟨buffer, hget⟩ := hregistered handle ⟨state, hmem, hbuffer⟩
    simp [compositionLayer?, hbuffer, hget]

/-- What is on screen before a cycle is registered, or comes with its first batch. -/
theorem Kept.carried (h : session.Kept) (hok : session.Carries input) {handle : UInt64}
    (href : References session.state.runtime.committedSurfaces handle) :
    (session.state.scene.buffers.get handle).isSome ∨ Replaced input.updates handle := by
  cases hstarted : session.started with
  | true => exact .inl (h.registered hstarted handle href)
  | false => exact .inr (hok.seeded hstarted handle href)

theorem Kept.cpuCycle (h : session.Kept) (hok : session.Carries input)
    (hcall : SessionCall (.cpuCycle input))
    (hcycle : session.state.runCpuProductionCycle input = .ok state) :
    (session.cycle input (.ok state)).Kept := by
  obtain ⟨hruntime, scene, hupdates, hbuffers⟩ := runCpuProductionCycle_eq_ok hcycle
  have hcommitted := committed_cpuCycle session.state.runtime input.env input.batch
  rw [← hruntime] at hcommitted
  obtain ⟨hcurrent, htight, hkept⟩ := buffers_applyUpdates h.current hok.rises hupdates
  rw [← hbuffers] at hcurrent htight hkept
  have hqueued := queuedFrom_step h.sound h.queued (.cpuCycle input.env input.batch)
    fun _ _ he => nomatch he
  refine ⟨sound_committed h.sound hcommitted, ?_,
    layersCommitted_committed h.sound h.layers hcommitted hcall, hcurrent, ?_, fun _ => htight⟩
  · show QueuedFrom NoCpuBuffer state.runtime
    rw [hruntime]
    exact hqueued
  · intro _ handle href
    refine hkept handle href ?_
    rcases references_committed h.sound h.layers hcommitted href with hold | ⟨tx, htx, hbuffer⟩
    · exact h.carried hok hold
    · exact .inr (hok.drawn tx htx handle hbuffer)

theorem Kept.gpuCycle (h : session.Kept) (hok : session.Carries input)
    (hcall : SessionCall (.gpuCycle input))
    (hcycle : session.state.runGpuProductionCycle input = .ok state) :
    (session.cycle input (.ok state)).Kept := by
  obtain ⟨⟨env, hruntime⟩, scene, hupdates, hbuffers⟩ := runGpuProductionCycle_eq_ok hcycle
  have hpresented := presented_runBatch session.state.runtime env hcall
  rw [← hruntime] at hpresented
  obtain ⟨hcurrent, htight, hkept⟩ := buffers_applyUpdates h.current hok.rises hupdates
  rw [← hbuffers] at hcurrent htight hkept
  have hnone := hok.presented hcall
  have hsound := sound_step h.sound (.runBatch env input.batch)
  have hqueued : QueuedFrom NoCpuBuffer
      (Backend.step session.state.runtime (.runBatch env input.batch)) := by
    refine queuedFrom_step h.sound h.queued _ ?_
    rintro _ _ ⟨⟩ -
    exact hnone
  rw [Backend.step, ← hruntime] at hsound hqueued
  refine ⟨hsound, hqueued, layersCommitted_presented h.layers hpresented hnone, hcurrent, ?_, ?_⟩
  · intro _ handle href
    have href : References session.state.runtime.committedSurfaces handle :=
      hpresented.committed ▸ href
    exact hkept handle href (h.carried hok href)
  · intro _ handle hsome
    show References state.runtime.committedSurfaces handle
    rw [hpresented.committed]
    exact htight handle hsome

/-- Between two cycles windows come on screen by page flips only, which show no CPU buffer. -/
theorem Kept.advance (h : session.Kept) {a : Action}
    (hlayers : LayersCommitted (Backend.step session.state.runtime a))
    (hnew : ∀ env batch, a ≠ .runBatch env batch)
    (href : ∀ handle, References (Backend.step session.state.runtime a).committedSurfaces handle →
      References session.state.runtime.committedSurfaces handle) :
    (session.advance a).Kept where
  sound := sound_step h.sound a
  queued := queuedFrom_step h.sound h.queued a fun env batch he => absurd he (hnew env batch)
  layers := hlayers
  current := h.current
  registered hstarted handle hafter := h.registered hstarted handle (href handle hafter)
  tight hsettled := nomatch hsettled

/-- A session that is over stays as it is; one that goes on keeps what holds. -/
theorem kept_step (hok : session.Emitted move) (hcall : SessionCall move)
    (h : session.ended = false → session.Kept) :
    (session.step move).ended = false → (session.step move).Kept := by
  intro hafter
  have hended : session.ended = false := by
    by_contra hended
    have hended : session.ended = true := by simpa using hended
    unfold step at hafter
    rw [if_pos hended] at hafter
    cases hended.symm.trans hafter
  have h := h hended
  unfold step at hafter ⊢
  rw [if_neg (by simp [hended])] at hafter ⊢
  cases move with
  | cpuCycle input =>
    dsimp only at hafter ⊢
    cases hcycle : session.state.runCpuProductionCycle input with
    | error error =>
      rw [hcycle] at hafter
      cases hafter
    | ok state => exact h.cpuCycle (hok hended) hcall hcycle
  | gpuCycle input =>
    dsimp only at hafter ⊢
    cases hcycle : session.state.runGpuProductionCycle input with
    | error error =>
      rw [hcycle] at hafter
      cases hafter
    | ok state => exact h.gpuCycle (hok hended) hcall hcycle
  | drive env =>
    have hd := driven_drive session.state.runtime env
    refine h.advance (a := .drive env) ?_ (fun _ _ he => by cases he) ?_
    · exact layersCommitted_of_frame h.layers hd.layers hd.committed
    intro handle href
    rwa [Backend.step, hd.committed] at href
  | pageFlip os ust msc =>
    have hlayers : LayersCommitted (Backend.step session.state.runtime (.pageFlip os ust msc)) := by
      intro s tx handle hlayer hbuffer
      have hl := (pageFlip_frame session.state.runtime os ust msc).1
      rw [Backend.step, hl] at hlayer
      exact find_pageFlip_ne_none os ust msc (h.layers s tx handle hlayer hbuffer)
    refine h.advance (a := .pageFlip os ust msc) hlayers (fun _ _ he => by cases he) ?_
    exact fun handle href => references_pageFlip h.sound h.queued os ust msc href
  | shutdown os =>
    obtain ⟨hc, hl, -⟩ := shutdown_frame session.state.runtime os
    refine h.advance (a := .shutdown os) ?_ (fun _ _ he => by cases he) ?_
    · exact layersCommitted_of_frame h.layers hl hc
    intro handle href
    rwa [Backend.step, hc] at href

/-- A session that has completed a cycle has started. -/
theorem settled_step (h : session.settled = true → session.started = true) :
    (session.step move).settled = true → (session.step move).started = true := by
  unfold step
  split
  · exact h
  cases move with
  | cpuCycle input | gpuCycle input =>
    dsimp only
    unfold cycle
    split
    · exact h
    · exact fun _ => rfl
  | drive | pageFlip | shutdown => exact nofun

section Runs

variable {transactions : List SurfaceTransaction} {scheduler : LiveProductionPresentScheduler}
  {outputSize : Size} {moves : List ComposedMove}

theorem kept_start (hq : scheduler.queued = []) (hs : scheduler.submitted = none) :
    (start transactions scheduler outputSize).Kept where
  sound := sound_start nodup_seedMissing hs
  queued := by
    constructor
    · simp [start, LiveProductionVisualRuntime.withCommittedSurfaces, hq]
    · simp [start, LiveProductionVisualRuntime.withCommittedSurfaces, hs]
  layers := by
    intro s tx handle hlayer
    simp [start, LiveProductionVisualRuntime.withCommittedSurfaces] at hlayer
  current := LiveCpuBufferRegistry.current_refl
  registered hstarted := nomatch hstarted
  tight hsettled := nomatch hsettled

theorem kept_run (hq : scheduler.queued = []) (hs : scheduler.submitted = none)
    (h : Run.Guarded step (fun session move => session.Emitted move ∧ SessionCall move)
      (start transactions scheduler outputSize) moves) :
    let session := Run.exec step (start transactions scheduler outputSize) moves
    (session.ended = false → session.Kept) ∧ (session.settled = true → session.started = true) :=
  Run.invariant (P := fun session : ComposedSession =>
      (session.ended = false → session.Kept) ∧ (session.settled = true → session.started = true))
    ⟨fun _ => kept_start hq hs, nofun⟩
    (fun _ _ hmove hkept => ⟨kept_step hmove.1 hmove.2 hkept.1, settled_step hkept.2⟩) h

/-- In every run of the session, the scene holds after each cycle the CPU buffers on screen, with
the bytes of their latest updates, and no others. -/
theorem committed_surfaces_composable (transactions : List SurfaceTransaction)
    (scheduler : LiveProductionPresentScheduler) (outputSize : Size) (moves : List ComposedMove)
    (hq : scheduler.queued = []) (hs : scheduler.submitted = none)
    (h : Run.Guarded step (fun session move => session.Emitted move ∧ SessionCall move)
      (start transactions scheduler outputSize) moves) :
    (Run.exec step (start transactions scheduler outputSize) moves).Composable := by
  obtain ⟨hkept, hstarted⟩ := kept_run hq hs h
  exact fun hended => (hkept hended).composable hstarted hended

/-- A cycle whose one surface shows a pixel of a new buffer. -/
def drawInput (t : TransactionId) (s : SurfaceId) (previous handle : UInt64) : CycleInput where
  env := Sample.env
  batch := Sample.drawBatch t s previous handle
  updates := [.replace
    ⟨handle, ⟨1, 1⟩, 4, liveRendererScanoutFormatXrgb8888, previous, [0, 0, 0, 0]⟩]
  raisedSurface := none
  cursorPosition := none
  deferFrame := false

/-- A session whose first batch draws one surface. -/
def drawStart : ComposedSession := start (Sample.drawBatch ⟨1⟩ ⟨1, 1⟩ 1 1).transactions {} ⟨1, 1⟩

theorem carries_drawInput {session : ComposedSession} {t : TransactionId} {s : SurfaceId}
    {previous handle : UInt64} (batch : LiveProductionAuthorityBatch)
    (hbatch : batch.transactions = [.draw t s previous handle])
    (hpresent : batch.presentSubmissions = [])
    (hrises : ∀ update ∈ (drawInput t s previous handle).updates, session.latest.Rises update)
    (hseeded : session.started = false →
      session.state.runtime.committedSurfaces = [seedState (.draw t s previous handle)]) :
    session.Carries { drawInput t s previous handle with batch := batch } where
  drawn := by
    intro tx htx shown hbuffer
    rw [hbatch] at htx
    cases List.mem_singleton.mp htx
    cases hbuffer
    exact ⟨_, List.mem_singleton_self _, decide_eq_true rfl⟩
  rises := .cons (hrises _ (List.mem_singleton_self _)) Run.guarded_nil
  presented hne := absurd hpresent hne
  seeded := by
    rintro hstarted shown ⟨state, hmem, hbuffer⟩
    rw [hseeded hstarted] at hmem
    cases List.mem_singleton.mp hmem
    cases hbuffer
    exact ⟨_, List.mem_singleton_self _, decide_eq_true rfl⟩

/-- One window draws, another presents and its frame is flipped, then the first draws again. -/
def drawnAroundPresent : List ComposedMove :=
  [.cpuCycle { drawInput ⟨1⟩ ⟨1, 1⟩ 1 1 with
      batch := { Sample.drawBatch ⟨1⟩ ⟨1, 1⟩ 1 1 with
        dmaBufRegistrations := [⟨Sample.descriptor ⟨7⟩, [3]⟩] } },
   .gpuCycle { drawInput ⟨2⟩ ⟨2, 1⟩ 1 1 with
      batch := Sample.presentBatch ⟨2⟩ ⟨2, 1⟩ 1 ⟨7⟩, updates := [] },
   .pageFlip Sample.os 1 1,
   .cpuCycle (drawInput ⟨3⟩ ⟨1, 1⟩ 2 2)]

theorem drawn_around_present_composes :
    (Run.exec step drawStart drawnAroundPresent).state.runtime.committedSurfaces.length = 2 ∧
      (Run.exec step drawStart drawnAroundPresent).Composes := by
  refine ⟨by decide +kernel, ?_⟩
  refine committed_surfaces_composable (Sample.drawBatch ⟨1⟩ ⟨1, 1⟩ 1 1).transactions {} ⟨1, 1⟩
    drawnAroundPresent rfl rfl ?_ (by decide +kernel) (by decide +kernel)
  refine .cons ⟨fun _ => ?_, ?_⟩ (.cons ⟨fun _ => ?_, ?_⟩ (.cons ⟨trivial, trivial⟩
    (.cons ⟨fun _ => ?_, ?_⟩ Run.guarded_nil)))
  · exact carries_drawInput _ rfl rfl (by decide +kernel) fun _ => by decide +kernel
  · exact fun _ _ => List.not_mem_nil
  · refine ⟨?_, Run.guarded_nil, ?_, ?_⟩
    · intro tx htx handle hbuffer
      cases List.mem_singleton.mp htx
      cases hbuffer
    · intro _ tx htx handle hbuffer
      cases List.mem_singleton.mp htx
      cases hbuffer
    · intro hstarted
      exact absurd hstarted (by decide +kernel)
  · exact List.cons_ne_nil _ _
  · refine carries_drawInput _ rfl rfl (by decide +kernel) fun hstarted => ?_
    exact absurd hstarted (by decide +kernel)
  · exact fun _ _ => List.not_mem_nil

/-- A window draws a new buffer by way of the GPU cycle. -/
def drawnByGpu : List ComposedMove :=
  [.cpuCycle (drawInput ⟨1⟩ ⟨1, 1⟩ 1 1), .gpuCycle (drawInput ⟨2⟩ ⟨1, 1⟩ 2 2)]

/-- A batch draws a window and destroys it, and the next one draws another. -/
def drawnAndDestroyed : List ComposedMove :=
  [.cpuCycle { drawInput ⟨1⟩ ⟨1, 1⟩ 1 1 with
      batch := { Sample.drawBatch ⟨1⟩ ⟨1, 1⟩ 1 1 with removedSurfaces := [⟨1, 1⟩] } },
   .cpuCycle (drawInput ⟨2⟩ ⟨2, 1⟩ 1 2)]

theorem not_composable {session : ComposedSession} (handle : UInt64) (hended : session.ended = false)
    (hsettled : session.settled = true)
    (href : References session.state.runtime.committedSurfaces handle)
    (hnone : (session.state.scene.buffers.get handle).isNone) : ¬ session.Composable := by
  intro h
  obtain ⟨buffer, hget, -⟩ := (h hended hsettled).registered handle href
  rw [hget] at hnone
  cases hnone

/-- A GPU cycle without a presentation drops the buffer it puts on screen, and a window that was
destroyed as it was drawn comes back without its buffer. -/
theorem dropped_buffers_committed :
    (Run.Guarded step Emitted drawStart drawnByGpu ∧
      ¬ (Run.exec step drawStart drawnByGpu).Composable) ∧
    (Run.Guarded step Emitted drawStart drawnAndDestroyed ∧
      ¬ (Run.exec step drawStart drawnAndDestroyed).Composable) := by
  refine ⟨⟨?_, ?_⟩, ?_, ?_⟩
  · refine .cons (fun _ => ?_) (.cons (fun _ => ?_) Run.guarded_nil)
    · exact carries_drawInput _ rfl rfl (by decide +kernel) fun _ => by decide +kernel
    · refine carries_drawInput _ rfl rfl (by decide +kernel) fun hstarted => ?_
      exact absurd hstarted (by decide +kernel)
  · exact not_composable 2 (by decide +kernel) (by decide +kernel) (by decide +kernel)
      (by decide +kernel)
  · refine .cons (fun _ => ?_) (.cons (fun _ => ?_) Run.guarded_nil)
    · exact carries_drawInput _ rfl rfl (by decide +kernel) fun _ => by decide +kernel
    · refine carries_drawInput _ rfl rfl (by decide +kernel) fun hstarted => ?_
      exact absurd hstarted (by decide +kernel)
  · exact not_composable 1 (by decide +kernel) (by decide +kernel) (by decide +kernel)
      (by decide +kernel)

end Runs
end ComposedSession
end Sophia.Backend
