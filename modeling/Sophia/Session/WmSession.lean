import Sophia.Session.LiveLayout

/-! The window manager session: proposals are planned on the workspace state, and the state a
committed proposal was planned to lead to replaces it. -/
namespace Sophia.Session

open Std Sophia.Protocol Sophia.Engine

/-- What the window manager answers to a request; nothing when the transport fails. -/
abbrev WmReply := Option (WmResponsePacket Transform)

structure SessionConfig where
  output : OutputId
  bounds : Rect
  injectSurfaceResize : Option Size
  secondaryTerminal : Bool

/-- The resize proof waits for the secondary terminal when there is one. -/
def SessionConfig.proofWindows (config : SessionConfig) : ℕ := if config.secondaryTerminal then 2 else 1

structure LiveWmSession where
  workspaceState : WmWorkspaceState
  sessionActions : List WmSessionAction
  nextTransaction : UInt64 := 1
  committed : ℕ := 0
  degraded : Bool := false

/-- What the supervisor finds when it polls the window manager process. -/
inductive WmRestart where
  | running
  | failed
  | restarted (reply : WmReply)

namespace LiveWmSession

def mintTransaction (wm : LiveWmSession) : Except LiveSessionError (TransactionId × LiveWmSession) :=
  if wm.nextTransaction.toNat + 1 = UInt64.size then .error .transactionIdsExhausted
  else .ok (.fromRaw wm.nextTransaction, { wm with nextTransaction := wm.nextTransaction + 1 })

/-- The response to a request, within the command limit. -/
def receive (reply : WmReply) : Except LiveSessionError (WmResponsePacket Transform) :=
  match reply with
  | none => .error .transport
  | some response =>
    if 8192 < response.commands.length then .error .commandLimit else .ok response

def request (wm : LiveWmSession) (config : SessionConfig) (layout : PersistentLiveLayout)
    (reply : WmReply) : Except LiveSessionError LiveWmProposal := do
  let response ← receive reply
  match wm.workspaceState.planResponse response wm.sessionActions with
  | .error error => .error (.policy error)
  | .ok plan => proposeLayout layout plan.layout config.bounds (some {
    workspaceState := plan.candidate
    transaction := plan.layout.transaction
    sessionAction := plan.sessionAction })

def outputState (wm : LiveWmSession) (config : SessionConfig) :
    Except LiveSessionError WmOutputPolicyState :=
  match wm.workspaceState.outputs[config.output]? with
  | none => .error .outputNotConfigured
  | some shown => .ok shown

def requestRelayout (wm : LiveWmSession) (config : SessionConfig) (layout : PersistentLiveLayout)
    (reply : WmReply) : Except LiveSessionError (LiveWmProposal × LiveWmSession) := do
  let _ ← wm.outputState config
  let (_, wm) ← wm.mintTransaction
  let proposal ← wm.request config layout reply
  return (proposal, wm)

/-- The shortcut's request differs from a relayout in what it sends, not in what it changes. -/
def requestAction (wm : LiveWmSession) (config : SessionConfig) (layout : PersistentLiveLayout)
    (reply : WmReply) : Except LiveSessionError (LiveWmProposal × LiveWmSession) :=
  wm.requestRelayout config layout reply

def registerSurface (wm : LiveWmSession) (surface : SurfaceId) (workspace : WorkspaceId) :
    Except LiveSessionError LiveWmSession :=
  match wm.workspaceState.registerSurface surface workspace with
  | .error error => .error (.policy error)
  | .ok workspaceState => .ok { wm with workspaceState }

def requestManage (wm : LiveWmSession) (config : SessionConfig) (surface : SurfaceId)
    (layout : PersistentLiveLayout) (reply resyncReply : WmReply) :
    Except LiveSessionError (LiveWmProposal × LiveWmSession) :=
  if surface ∉ layout.layers then .error .missingSurface
  else do
    let shown ← wm.outputState config
    let wm ← wm.registerSurface surface shown.workspace
    let (_, wm) ← wm.mintTransaction
    match wm.request config layout reply with
    | .ok proposal => .ok (proposal, wm)
    | .error (.policy .unknownSurface) => wm.requestRelayout config layout resyncReply
    | .error error => .error error

def notifySurfaceRemoved (wm : LiveWmSession) (surface : SurfaceId) (reply : WmReply) :
    Except LiveSessionError LiveWmSession :=
  match wm.workspaceState.surfaceWorkspace surface with
  | none => .ok wm
  | some _ => do
    let (_, wm) ← wm.mintTransaction
    let _ ← receive reply
    return { wm with workspaceState := (wm.workspaceState.removeSurface surface).2 }

def pollRestart (wm : LiveWmSession) (config : SessionConfig) (layout : PersistentLiveLayout) :
    WmRestart → Except LiveSessionError (Option LiveWmProposal × LiveWmSession)
  | .running => .ok (none, wm)
  | .failed =>
    if wm.degraded then .ok (none, wm)
    else if wm.committed = 0 then .error .transport
    else .ok (none, { wm with degraded := true })
  | .restarted reply =>
    if wm.degraded ∨ layout.layers.isEmpty then .ok (none, wm)
    else do
      let (proposal, wm) ← wm.requestRelayout config layout reply
      return (some proposal, wm)

def markCommitted (wm : LiveWmSession) : LiveWmSession := { wm with committed := wm.committed + 1 }

end LiveWmSession

/-- The effects of a result that committed. -/
def LiveWmCommitResult.committedEffects (result : LiveWmCommitResult) : Option LiveWmCommitEffects :=
  if result.update.outcome = .committed then result.effects else none

/-- The candidates of the proposals a loop iteration committed, those it adopted, and the window it
registered. -/
structure IterationReport where
  committed : List LiveWmCommitEffects := []
  adopted : List LiveWmCommitEffects := []
  registered : Option SurfaceId := none

structure LiveSession where
  wm : LiveWmSession
  layout : PersistentLiveLayout
  resizeProofStaged : Bool := false

namespace LiveSession

def adopt (wm : LiveWmSession) : Option LiveWmCommitEffects → LiveWmSession
  | none => wm
  | some effects => { wm with workspaceState := effects.workspaceState }

def adoptCommitted (wm : LiveWmSession) (effects : Option LiveWmCommitEffects) : LiveWmSession :=
  if effects.isSome then (adopt wm effects).markCommitted else wm

/-- The candidates of a call that may commit. -/
def effectsOf (result : Option LiveWmCommitResult) : List LiveWmCommitEffects :=
  (result.bind LiveWmCommitResult.committedEffects).toList

/-- A shortcut of the window manager was pressed. -/
def shortcut (session : LiveSession) (config : SessionConfig) (reply : WmReply) (control : Control)
    (now : ℕ) : Except LiveSessionError (IterationReport × LiveSession) := do
  let (proposal, wm) ← session.wm.requestAction config session.layout reply
  let (result, layout) ← session.layout.stage proposal control now
  match result with
  | none => return ({}, { session with wm, layout })
  | some result =>
    let effects := result.committedEffects
    return ({ committed := effects.toList, adopted := effects.toList },
      { session with wm := (adopt wm effects).markCommitted, layout })

/-- The window manager's restart, with the proposal it leads to staged. -/
def restart (session : LiveSession) (config : SessionConfig) (found : WmRestart)
    (control : Control) (now : ℕ) :
    Except LiveSessionError (Option (Option LiveWmCommitResult) × LiveSession) :=
  if session.layout.pending.isSome then .ok (none, session)
  else do
    let (proposal, wm) ← session.wm.pollRestart config session.layout found
    match proposal with
    | none => return (none, { session with wm })
    | some proposal =>
      let (result, layout) ← session.layout.stage proposal control now
      return (some result, { session with wm, layout })

/-- The configured resize of the first window, staged once. -/
def resizeProof (session : LiveSession) (config : SessionConfig) (control : Control) (now : ℕ) :
    Except LiveSessionError (Option (Option LiveWmCommitResult) × LiveSession) :=
  match config.injectSurfaceResize with
  | none => .ok (none, session)
  | some size =>
    if session.resizeProofStaged ∨ session.layout.pending.isSome ∨
        session.layout.layers.size < config.proofWindows then
      .ok (none, session)
    else match proposeResize session.layout size with
      | none => .error .missingSurface
      | some proposal => do
        let (result, layout) ← session.layout.stage proposal control now
        return (some result, { session with layout, resizeProofStaged := true })

/-- What the window manager and the control channel do during one batch. -/
structure BatchEnvironment where
  removalReply : SurfaceId → WmReply
  expireControl : Control
  found : WmRestart
  restartControl : Control
  proofControl : Control
  now : ℕ

/-- The removals of a batch are announced one by one. -/
def notifyRemoved (wm : LiveWmSession) (removed : List SurfaceId)
    (removalReply : SurfaceId → WmReply) : Except LiveSessionError LiveWmSession :=
  removed.foldlM (fun wm surface => wm.notifySurfaceRemoved surface (removalReply surface)) wm

/-- A failed expiry ends the session. -/
def expire (layout : PersistentLiveLayout) (control : Control) (now : ℕ) :
    Except LiveSessionError (Option LiveWmCommitResult × PersistentLiveLayout) :=
  match layout.expirePending control now with
  | (.error error, _) => .error error
  | (.ok expired, layout) => .ok (expired, layout)

/-- The pending proposal commits if it can, and otherwise expires if it must: what committed, and
the update the iteration goes on with. -/
def settle (layout : PersistentLiveLayout) (control : Control) (now : ℕ) :
    Except LiveSessionError
      (Option LiveWmCommitResult × Option LiveWmCommitResult × PersistentLiveLayout) :=
  match layout.resolvePending with
  | (some result, layout) => .ok (some result, some result, layout)
  | (none, layout) => do
    let (expired, layout) ← expire layout control now
    return (none, expired, layout)

/-- A batch of the authority arrived. -/
def batch (session : LiveSession) (config : SessionConfig)
    (observed : XAuthorityObservedTransactionBatch) (env : BatchEnvironment) :
    Except LiveSessionError (IterationReport × LiveSession) := do
  let wm ← notifyRemoved session.wm observed.removedSurfaces env.removalReply
  let (resolved, update, layout) ←
    settle (session.layout.observeAuthorityBatch observed).2 env.expireControl env.now
  let (restarted, session) ←
    { session with wm, layout }.restart config env.found env.restartControl env.now
  let (proof, session) ← session.resizeProof config env.proofControl env.now
  -- A later stage call overwrites the update of an earlier one, whatever that committed.
  let update := proof.getD (restarted.getD update)
  let adopted := update.bind LiveWmCommitResult.committedEffects
  return ({
    committed := effectsOf resolved ++ effectsOf (restarted.getD none) ++ effectsOf (proof.getD none)
    adopted := adopted.toList },
    { session with wm := adoptCommitted session.wm adopted })

/-- What the window manager and the control channel do while the authority is quiet. -/
structure IdleEnvironment where
  expireControl : Control
  found : WmRestart
  restartControl : Control
  settled : Bool
  reply : WmReply
  resyncReply : WmReply
  manageControl : Control
  now : ℕ

/-- An unmanaged window is taken up; the result of its stage call is only counted. -/
def manageNext (session : LiveSession) (config : SessionConfig) (env : IdleEnvironment) :
    Except LiveSessionError (Option SurfaceId × Option LiveWmCommitResult × LiveSession) :=
  if session.layout.pending.isSome ∨ ¬ env.settled then .ok (none, none, session)
  else match session.layout.takeNextUnmanagedSurface with
    | (none, layout) => .ok (none, none, { session with layout })
    | (some surface, layout) => do
      let (proposal, wm) ← session.wm.requestManage config surface layout env.reply env.resyncReply
      let (result, layout) ← layout.stage proposal env.manageControl env.now
      return (some surface, result,
        { session with wm := if result.isSome then wm.markCommitted else wm, layout })

/-- No batch arrived in time: no result of this branch is adopted. -/
def idle (session : LiveSession) (config : SessionConfig) (env : IdleEnvironment) :
    Except LiveSessionError (IterationReport × LiveSession) := do
  let (_, layout) ← expire session.layout env.expireControl env.now
  let (restarted, session) ←
    { session with layout }.restart config env.found env.restartControl env.now
  let (surface, managed, session) ← session.manageNext config env
  return ({
    committed := effectsOf (restarted.getD none) ++ effectsOf managed
    registered := surface }, session)

end LiveSession

/-- One iteration of the session loop. -/
inductive SessionAction where
  | shortcut (reply : WmReply) (control : Control) (now : ℕ)
  | batch (observed : XAuthorityObservedTransactionBatch) (env : LiveSession.BatchEnvironment)
  | idle (env : LiveSession.IdleEnvironment)

def LiveSession.iterate (config : SessionConfig) (session : LiveSession) :
    SessionAction → Except LiveSessionError (IterationReport × LiveSession)
  | .shortcut reply control now => session.shortcut config reply control now
  | .batch observed env => session.batch config observed env
  | .idle env => session.idle config env

end Sophia.Session
