import Sophia.Bridge.BridgeAtomicity
import Sophia.Bridge.LegacyRequests
import Sophia.Lib.History

/-! When a request the window manager made for a window that is gone reaches the bridge while it
answers the Engine. -/
namespace Sophia.Bridge

open Std Protocol

/-- The commands a call has still to send. -/
def BridgePhase.unsent : BridgePhase → List ServerCommand
  | .sending _ _ unsent => unsent.filterMap Except.toOption
  | _ => []

/-- What waits in the legacy channel now is of the call that is being handled. -/
def BridgePhase.Handling : BridgePhase → Prop
  | .drained _ | .sending .. | .collecting .. => True
  | _ => False

/-- The surface whose removal is taken in next. -/
def BridgePhase.removing : BridgePhase → Option SurfaceId
  | .drained ⟨⟨_, .surfaceRemoved surface _⟩, _, _⟩ => some surface
  | _ => none

/-- The call waits for the answer to its focus query. -/
def BridgePhase.Awaiting : BridgePhase → Prop
  | .awaiting _ _ => True
  | _ => False

instance : DecidablePred BridgePhase.Handling
  | .drained _ | .sending .. | .collecting .. => isTrue trivial
  | .idle _ | .draining _ | .querying .. | .awaiting .. | .ended _ => isFalse id

instance (command : ServerCommand) (window : SyntheticXWindowId) :
    Decidable (command.Withdraws window) := inferInstanceAs (Decidable (_ ∨ _))

namespace LegacySession

variable (s : LegacySession)

def Registered (window : SyntheticXWindowId) : Prop := window ∈ s.bridge.windowToNode

/-- The commands the server has not taken yet, first those in the channel. -/
def onTheWay : List ServerCommand := s.commands ++ s.phase.unsent

/-- The request fails for another reason than a window that is not known, and an answer is about
registered surfaces. -/
structure Answers : Prop where
  known : s.phase ≠ .ended (.bridge (.error .unknownSyntheticWindow))
  registered : ∀ response, s.phase = .idle (some response) → ∀ command ∈ response.commands,
    ∀ surface ∈ X11WmBridgeState.surfacesOf command, surface ∈ s.bridge.surfaceToWindow

/-- No request is passed on for a window whose withdrawal is on the way, none for a window waits
when its surface is removed, and the surface that the profile moves or closes is registered. -/
def Clean : SessionAction → Prop
  | .handle ⟨_, .actionActivated activation⟩ => s.profile = .xmonad →
      ofWorkspaces xmonadActionMoveWorkspaceBase activation.action.raw ∨
        activation.action.raw = xmonadActionClose →
      ∀ surface ∈ activation.focusedSurface, surface ∈ s.bridge.surfaceToWindow
  | .bridge .next => ∀ surface ∈ s.phase.removing, ∀ request ∈ s.legacy,
      s.bridge.surfaceToWindow[surface]? ≠ some request.window
  | .server .next => s.phase.Handling → s.reading = true → ∀ request ∈ s.requests.head?,
      request.opcode = 12 ∨ request.opcode = 42 →
      ∀ command ∈ s.onTheWay, ¬ command.Withdraws ⟨readU32 request.body 0⟩
  | _ => True

instance : DecidablePred s.Clean
  | .handle ⟨_, .actionActivated _⟩ => inferInstanceAs (Decidable (_ → _ → ∀ _ ∈ _, _))
  | .handle ⟨_, .manageSurface _⟩ | .handle ⟨_, .relayoutWorkspace _⟩
  | .handle ⟨_, .surfaceRemoved _ _⟩ => isTrue trivial
  | .bridge .next => inferInstanceAs (Decidable (∀ _ ∈ _, ∀ _ ∈ s.legacy, _))
  | .bridge .quiet | .bridge .deadline => isTrue trivial
  | .server .next => inferInstanceAs (Decidable (_ → _ → ∀ _ ∈ _, _ → ∀ _ ∈ s.onTheWay, _))
  | .server (.timeout _) | .wmSend _ | .wmReceive => isTrue trivial

def AllRegistered (requests : List LegacyWmRequest) : Prop :=
  ∀ request ∈ requests, s.Registered request.window

/-- The focus of a profile is a registered window, and its call removes none. -/
def FocusSound (call : Call) : Prop :=
  ∀ window, call.profiledFocus = some window → s.Registered window

/-- What is said of requests holds of the calls behind which they were drained. -/
def PhaseSound : Prop :=
  match s.phase with
  | .idle response => ∀ answer ∈ response, ∀ command ∈ answer.commands,
      ∀ surface ∈ X11WmBridgeState.surfacesOf command, surface ∈ s.bridge.surfaceToWindow
  | .draining call => s.FocusSound call ∧
      (call.profiledFocus ≠ none → ∃ activation, call.request.kind = .actionActivated activation)
  | .drained call => s.FocusSound call ∧
      (call.profiledFocus ≠ none → ∃ activation, call.request.kind = .actionActivated activation) ∧
      s.AllRegistered s.legacy
  | .sending call _ unsent => s.FocusSound call ∧ s.AllRegistered s.legacy ∧
      ∀ fault, .error fault ∈ unsent → fault = .mapWithoutGeometry
  | .collecting call _ configured focus => s.FocusSound call ∧ s.AllRegistered s.legacy ∧
      s.AllRegistered (Ordered.values configured) ∧ s.AllRegistered focus.toList
  | .querying _ requests | .awaiting _ requests => s.AllRegistered requests
  | .ended fault => fault ≠ .bridge (.error .unknownSyntheticWindow)

/-- A focus query is the last command, and only its call waits for the reply. -/
inductive QuerySound : Prop where
  | unasked (hphase : ¬ s.phase.Awaiting) (hpending : s.pendingFocusQueries = 0)
      (hreply : s.focusReply = none) (hway : .queryFocus ∉ s.onTheWay)
  | sent (hphase : s.phase.Awaiting) (hpending : s.pendingFocusQueries = 0)
      (hreply : s.focusReply = none) (before : List ServerCommand)
      (hcommands : s.commands = before ++ [.queryFocus]) (hbefore : .queryFocus ∉ before)
  | received (hphase : s.phase.Awaiting) (hcommands : s.commands = [])
      (hreply : s.focusReply = none)
  | replied (hphase : s.phase.Awaiting) (hcommands : s.commands = [])
      (hpending : s.pendingFocusQueries = 0) (reply : Option SyntheticXWindowId)
      (hreply : s.focusReply = some reply) (hwindow : ∀ window ∈ reply, s.Registered window)

/-- While the bridge runs: its tables are consistent, and whatever window the server knows when it
has taken all commands on the way is registered. -/
structure Live : Prop where
  tables : ∃ told, BridgeLog.Consistent ⟨s.bridge, told⟩
  known : ∀ state, s.server = .ok state → ∀ window,
    knownAfter window (window.raw ∈ state.windows) s.onTheWay → s.Registered window
  phase : s.PhaseSound
  query : s.QuerySound

def Sound : Prop :=
  (∃ fault, s.phase = .ended fault ∧ fault ≠ .bridge (.error .unknownSyntheticWindow)) ∨ s.Live

variable {s}

theorem Sound.answers (h : s.Sound) : s.Answers := by
  rcases h with ⟨fault, hphase, hfault⟩ | h
  · refine ⟨fun he => ?_, fun response he => ?_⟩
    · rw [hphase] at he
      cases he
      exact hfault rfl
    · rw [hphase] at he
      cases he
  · have hsound := h.phase
    refine ⟨fun he => ?_, fun response he => ?_⟩
    · rw [PhaseSound, he] at hsound
      exact hsound rfl
    · rw [PhaseSound, he] at hsound
      exact hsound response rfl

theorem sound_start (profile : LegacyWmProfile) (session : Option WmSessionDescriptor)
    (root : Rect) : (start profile session root).Sound := by
  refine Or.inr ⟨⟨[], BridgeLog.consistent_start⟩, ?_, ?_, ?_⟩
  · rintro state ⟨⟩ window hw
    change window.raw ∈ (∅ : ExtTreeMap UInt32 WindowState) at hw
    simp at hw
  · intro answer ha
    cases ha
  · refine .unasked id rfl rfl ?_
    simp [onTheWay, start, BridgePhase.unsent]

/-- A command says nothing to the bridge, and only a focus query is not for the state. -/
theorem applyServerCommand_ok (state : XServerState) {command : ServerCommand}
    (h : command ≠ .queryFocus) :
    ∃ effect, state.applyServerCommand command = .ok effect ∧ effect.legacy = [] := by
  cases command with
  | queryFocus => exact absurd rfl h
  | _ => exact ⟨_, rfl, rfl⟩

/-- What a step of the server does. -/
theorem serverStep_cases (s : LegacySession) (move : ServerMove) :
    (∃ reading requests, s.serverStep move = { s with reading, requests }) ∨
    (∃ requests fault, s.serverStep move = { s with requests, server := .error fault }) ∨
    (∃ commands, s.commands = .queryFocus :: commands ∧ s.serverStep move =
      { s with commands, pendingFocusQueries := s.pendingFocusQueries + 1 }) ∨
    (∃ state command commands effect, s.server = .ok state ∧ s.commands = command :: commands ∧
      command ≠ .queryFocus ∧ state.applyServerCommand command = .ok effect ∧ effect.legacy = [] ∧
      s.serverStep move = { s with commands }.took effect) ∨
    (∃ state request requests effect, s.server = .ok state ∧ s.reading = true ∧
      s.requests = request :: requests ∧ move = .next ∧
      state.serveRequest request.opcode request.detail request.body = .ok effect ∧
      s.serverStep move = { s with requests, reading := false }.took effect) ∨
    (∃ state, s.server = .ok state ∧ 0 < s.pendingFocusQueries ∧ s.serverStep move = { s with
      reading := false
      pendingFocusQueries := 0
      focusReply := some (state.syntheticId state.inputFocus) }) := by
  obtain ⟨profile, session, bridge, phase, commands, server, reading, queries, reply, legacy,
    requests, packets, heard⟩ := s
  rcases server with fault | state
  · exact .inl ⟨reading, requests, rfl⟩
  cases reading with
  | false =>
    rcases commands with _ | ⟨command, commands⟩
    · exact .inl ⟨true, requests, rfl⟩
    by_cases hquery : command = .queryFocus
    · subst hquery
      exact .inr (.inr (.inl ⟨commands, rfl, rfl⟩))
    obtain ⟨effect, heffect, hlegacy⟩ := applyServerCommand_ok state hquery
    refine .inr (.inr (.inr (.inl
      ⟨state, command, commands, effect, rfl, rfl, hquery, heffect, hlegacy, ?_⟩)))
    simp only [serverStep, heffect]
  | true =>
    cases move with
    | next =>
      rcases requests with _ | ⟨request, requests⟩
      · exact .inl ⟨true, [], rfl⟩
      cases heffect : state.serveRequest request.opcode request.detail request.body with
      | error fault =>
        refine .inr (.inl ⟨requests, fault, ?_⟩)
        simp only [serverStep, heffect]
      | ok effect =>
        by_cases hroom : legacy.length + effect.legacy.length ≤ legacyCapacity
        · refine .inr (.inr (.inr (.inr (.inl
            ⟨state, request, requests, effect, rfl, rfl, rfl, rfl, heffect, ?_⟩))))
          simp only [serverStep, heffect, if_pos hroom]
        · refine .inl ⟨true, request :: requests, ?_⟩
          simp only [serverStep, heffect, if_neg hroom]
    | timeout quiet =>
      by_cases hquery : quiet ∧ 0 < queries
      · refine .inr (.inr (.inr (.inr (.inr ⟨state, rfl, hquery.2, ?_⟩))))
        simp only [serverStep, if_pos hquery]
      · refine .inl ⟨false, requests, ?_⟩
        simp only [serverStep, if_neg hquery]

/-- The server leaves the bridge where it stands. -/
theorem serverStep_frame (s : LegacySession) (move : ServerMove) :
    (s.serverStep move).phase = s.phase ∧ (s.serverStep move).bridge = s.bridge := by
  rcases s.serverStep_cases move with
    ⟨_, _, he⟩ | ⟨_, _, he⟩ | ⟨_, -, he⟩ | ⟨_, _, _, _, -, -, -, -, -, he⟩ |
    ⟨_, _, _, _, -, -, -, -, -, he⟩ | ⟨_, -, -, he⟩ <;> rw [he] <;> exact ⟨rfl, rfl⟩

/-- The bridge that has ended stays so. -/
theorem step_ended {fault : RuntimeFault} (h : s.phase = .ended fault) (action : SessionAction) :
    (s.step action).phase = .ended fault := by
  cases action with
  | handle request => simp [step, handle, h]
  | bridge move => cases move <;> simp [step, bridgeStep, h]
  | server move => exact (s.serverStep_frame move).1.trans h
  | wmSend request => exact h
  | wmReceive =>
    rw [step]
    split
    · exact h
    · exact h

/-- What is said of the phase survives what only adds to the legacy channel. -/
theorem PhaseSound.of_frame {s' : LegacySession} (h : s.PhaseSound) (hb : s'.bridge = s.bridge)
    (hp : s'.phase = s.phase)
    (hl : s.phase.Handling → s.AllRegistered s.legacy → s.AllRegistered s'.legacy) :
    s'.PhaseSound := by
  obtain ⟨profile, session, bridge, phase, commands, server, reading, queries, reply, legacy,
    requests, packets, heard⟩ := s
  obtain ⟨profile', session', bridge', phase', commands', server', reading', queries', reply',
    legacy', requests', packets', heard'⟩ := s'
  obtain rfl : bridge' = bridge := hb
  obtain rfl : phase' = phase := hp
  cases phase' with
  | drained call => exact ⟨h.1, h.2.1, hl trivial h.2.2⟩
  | sending call expected unsent => exact ⟨h.1, hl trivial h.2.1, h.2.2⟩
  | collecting call expected configured focus => exact ⟨h.1, hl trivial h.2.1, h.2.2⟩
  | idle response => exact h
  | draining call => exact h
  | querying call requests => exact h
  | awaiting call requests => exact h
  | ended fault => exact h

/-- What is said of the queries does not look at the other fields. -/
theorem QuerySound.of_frame {s' : LegacySession} (h : s.QuerySound) (hb : s'.bridge = s.bridge)
    (hp : s'.phase = s.phase) (hc : s'.commands = s.commands)
    (hq : s'.pendingFocusQueries = s.pendingFocusQueries) (hr : s'.focusReply = s.focusReply) :
    s'.QuerySound := by
  have hway : s'.onTheWay = s.onTheWay := by rw [onTheWay, onTheWay, hc, hp]
  cases h with
  | unasked hphase hpending hreply hno =>
    exact .unasked (by rwa [hp]) (hq.trans hpending) (hr.trans hreply) (by rwa [hway])
  | sent hphase hpending hreply before hcommands hbefore =>
    exact .sent (by rwa [hp]) (hq.trans hpending) (hr.trans hreply) before
      (hc.trans hcommands) hbefore
  | received hphase hcommands hreply =>
    exact .received (by rwa [hp]) (hc.trans hcommands) (hr.trans hreply)
  | replied hphase hcommands hpending reply hreply hwindow =>
    refine .replied (by rwa [hp]) (hc.trans hcommands) (hq.trans hpending) reply
      (hr.trans hreply) fun window hw => ?_
    rw [Registered, hb]
    exact hwindow window hw

/-- The next command leaves the channel; a focus query is then at the server. -/
theorem QuerySound.pop {command : ServerCommand} {commands : List ServerCommand}
    (h : s.QuerySound) (hcommands : s.commands = command :: commands) :
    (command ≠ .queryFocus → { s with commands }.QuerySound) ∧
      (command = .queryFocus →
        { s with commands, pendingFocusQueries := s.pendingFocusQueries + 1 }.QuerySound) := by
  cases h with
  | unasked hphase hpending hreply hno =>
    rw [onTheWay, hcommands] at hno
    refine ⟨fun _ => ?_, fun he => ?_⟩
    · exact .unasked hphase hpending hreply fun hm => hno (List.mem_cons_of_mem _ hm)
    · rw [he] at hno
      exact absurd List.mem_cons_self hno
  | sent hphase hpending hreply before hlast hbefore =>
    rw [hcommands] at hlast
    rcases before with _ | ⟨first, before⟩
    · obtain ⟨rfl, hnil⟩ := List.cons.inj hlast
      exact ⟨fun hne => absurd rfl hne, fun _ => .received hphase hnil hreply⟩
    · obtain ⟨rfl, hrest⟩ := List.cons.inj hlast
      rw [List.mem_cons, not_or] at hbefore
      refine ⟨fun _ => ?_, fun he => absurd he.symm hbefore.1⟩
      exact .sent hphase hpending hreply before hrest hbefore.2
  | received hphase hnil hreply =>
    rw [hcommands] at hnil
    cases hnil
  | replied hphase hnil hpending reply hreply hwindow =>
    rw [hcommands] at hnil
    cases hnil

/-- A request that is passed on while a call is handled is for a registered window. -/
theorem Live.forwarded (h : s.Live) (hclean : s.Clean (.server .next)) {state : XServerState}
    {request : WireRequest} {requests : List WireRequest} {effect : ServerEffect}
    (hserver : s.server = .ok state) (hreading : s.reading = true)
    (hrequests : s.requests = request :: requests)
    (heffect : state.serveRequest request.opcode request.detail request.body = .ok effect)
    (hphase : s.phase.Handling) : s.AllRegistered effect.legacy := by
  intro legacy hlegacy
  obtain ⟨hopcode, hwindow, hmem⟩ := (XServerState.dispatch_forwards heffect).2 legacy hlegacy
  have hkeep := hclean hphase hreading request (by rw [hrequests]; rfl) hopcode
  rw [hwindow]
  exact h.known state hserver _ (knownAfter_of_kept hkeep hmem)

theorem Live.server (h : s.Live) {move : ServerMove} (hclean : s.Clean (.server move)) :
    (s.serverStep move).Live := by
  rcases s.serverStep_cases move with
    ⟨reading, requests, he⟩ | ⟨requests, fault, he⟩ | ⟨commands, hcommands, he⟩ |
    ⟨state, command, commands, effect, hserver, hcommands, hcommand, heffect, hlegacy, he⟩ |
    ⟨state, request, requests, effect, hserver, hreading, hrequests, rfl, heffect, he⟩ |
    ⟨state, hserver, hpending, he⟩
  · rw [he]
    exact ⟨h.tables, h.known, h.phase, h.query.of_frame rfl rfl rfl rfl rfl⟩
  · rw [he]
    refine ⟨h.tables, ?_, h.phase, h.query.of_frame rfl rfl rfl rfl rfl⟩
    rintro _ ⟨⟩
  · rw [he]
    refine ⟨h.tables, fun state hs window hw => ?_, h.phase, (h.query.pop hcommands).2 rfl⟩
    refine h.known state hs window ?_
    rw [onTheWay, hcommands]
    exact hw
  · rw [he]
    refine ⟨h.tables, ?_, h.phase.of_frame rfl rfl fun _ hl => ?_, ?_⟩
    · rintro _ ⟨⟩ window hw
      refine h.known state hserver window ?_
      rw [onTheWay, hcommands]
      change knownAfter window (command.after window _) (commands ++ s.phase.unsent)
      exact knownAfter_mono (fun hm => XServerState.mem_windows_command heffect hm) hw
    · rw [took, hlegacy, List.append_nil]
      exact hl
    · exact ((h.query.pop hcommands).1 hcommand).of_frame rfl rfl rfl rfl rfl
  · rw [he]
    refine ⟨h.tables, ?_, h.phase.of_frame rfl rfl fun hphase hl => ?_,
      h.query.of_frame rfl rfl rfl rfl rfl⟩
    · rintro _ ⟨⟩ window hw
      refine h.known state hserver window ?_
      exact knownAfter_mono (fun hm => (XServerState.dispatch_forwards heffect).1 _ hm) hw
    · intro legacy hlegacy
      rcases List.mem_append.mp hlegacy with hlegacy | hlegacy
      · exact hl legacy hlegacy
      · exact h.forwarded hclean hserver hreading hrequests heffect hphase legacy hlegacy
  · rw [he]
    refine ⟨h.tables, h.known, h.phase, ?_⟩
    cases h.query with
    | unasked _ hzero _ _ => omega
    | sent _ hzero _ _ _ _ => omega
    | replied _ _ hzero _ _ _ => omega
    | received hphase hcommands _ =>
      refine .replied hphase hcommands rfl _ rfl fun window hwindow => ?_
      -- The server has taken every command of the call.
      have hway : s.onTheWay = [] := by
        rw [onTheWay, hcommands]
        cases hp : s.phase with
        | awaiting call requests => rfl
        | _ =>
          rw [hp] at hphase
          exact hphase.elim
      refine h.known state hserver window ?_
      rw [hway]
      simp only [XServerState.syntheticId, Option.mem_def, Option.ite_none_right_eq_some,
        Option.some.injEq] at hwindow
      obtain ⟨hmem, rfl⟩ := hwindow
      exact hmem

/-- What holds when nothing is to be sent and no focus is asked for, whatever comes next. -/
structure Between (s : LegacySession) : Prop where
  tables : ∃ told, BridgeLog.Consistent ⟨s.bridge, told⟩
  known : ∀ state, s.server = .ok state → ∀ window,
    knownAfter window (window.raw ∈ state.windows) s.commands → s.Registered window
  pending : s.pendingFocusQueries = 0
  reply : s.focusReply = none
  way : .queryFocus ∉ s.commands

theorem Live.between (h : s.Live) (hunsent : s.phase.unsent = []) (hphase : ¬ s.phase.Awaiting) :
    s.Between := by
  have hway : s.onTheWay = s.commands := by rw [onTheWay, hunsent, List.append_nil]
  cases h.query with
  | unasked _ hpending hreply hno =>
    rw [hway] at hno
    exact ⟨h.tables, hway ▸ h.known, hpending, hreply, hno⟩
  | sent hp _ _ _ _ _ => exact absurd hp hphase
  | received hp _ _ => exact absurd hp hphase
  | replied hp _ _ _ _ _ => exact absurd hp hphase

theorem Between.live {phase : BridgePhase} (h : s.Between) (hunsent : phase.unsent = [])
    (hphase : ¬ phase.Awaiting) (hsound : { s with phase }.PhaseSound) :
    { s with phase }.Live := by
  have hway : { s with phase }.onTheWay = s.commands := by
    rw [onTheWay, hunsent, List.append_nil]
  refine ⟨h.tables, ?_, hsound, .unasked hphase h.pending h.reply ?_⟩
  · rw [hway]
    exact h.known
  · rw [hway]
    exact h.way

theorem registered_of_surface (h : ∃ told, BridgeLog.Consistent ⟨s.bridge, told⟩)
    {surface : SurfaceId} {window : SyntheticXWindowId}
    (hw : s.bridge.surfaceToWindow[surface]? = some window) : s.Registered window := by
  obtain ⟨told, hconsistent⟩ := h
  obtain ⟨node, hnode, -⟩ := hconsistent.node_of_window surface window hw
  rw [Registered, ExtTreeMap.mem_iff_isSome_getElem?, hnode]
  rfl

/-- An answer made of registered windows is about registered surfaces. -/
theorem Between.answer (h : s.Between) {requests : List LegacyWmRequest}
    (hall : s.AllRegistered requests) (call : Call) : (s.answer call requests).Sound := by
  rw [LegacySession.answer]
  split
  · rename_i fault hfault
    refine Or.inl ⟨_, rfl, fun he => ?_⟩
    obtain rfl := RuntimeFault.bridge.inj he
    obtain ⟨request, hmem, hunknown⟩ := X11WmBridgeState.translateLegacyRequests_unknown hfault
    exact hunknown (hall request hmem)
  · rename_i response hresponse
    refine Or.inr (h.live rfl id ?_)
    rintro answer ⟨⟩ command hcommand surface hsurface
    obtain ⟨window, node, hnode, rfl⟩ := X11WmBridgeState.translateLegacyRequests_surfaces
      hresponse command hcommand surface hsurface
    obtain ⟨told, hconsistent⟩ := h.tables
    have hmem := hconsistent.window_of_node window node hnode
    rw [ExtTreeMap.mem_iff_isSome_getElem?]
    exact Option.isSome_iff_exists.mpr ⟨window, hmem⟩

theorem cycleFocusWindow_registered (h : ∃ told, BridgeLog.Consistent ⟨s.bridge, told⟩)
    {surface : SurfaceId} {forward : Bool} {window : SyntheticXWindowId}
    (hw : s.bridge.cycleFocusWindow surface forward = some window) : s.Registered window := by
  simp only [X11WmBridgeState.cycleFocusWindow, Option.bind_eq_bind, Option.bind_eq_some_iff] at hw
  obtain ⟨current, -, index, -, hw⟩ := hw
  obtain ⟨⟨surface', window'⟩, hmem, rfl⟩ := List.mem_map.mp (List.mem_of_getElem? hw)
  exact registered_of_surface h (ExtTreeMap.mem_toList_iff_getElem?_eq_some.mp hmem)

theorem profiledFocus_sound (h : ∃ told, BridgeLog.Consistent ⟨s.bridge, told⟩)
    {request : WmRequestPacket} {window : SyntheticXWindowId}
    (hw : s.profiledFocus request = some window) :
    s.Registered window ∧ ∃ activation, request.kind = .actionActivated activation := by
  rw [profiledFocus] at hw
  split at hw
  · rename_i activation hkind
    refine ⟨?_, activation, hkind⟩
    split at hw
    · obtain ⟨surface, -, hw⟩ := Option.bind_eq_some_iff.mp hw
      exact cycleFocusWindow_registered h hw
    · split at hw
      · obtain ⟨surface, -, hw⟩ := Option.bind_eq_some_iff.mp hw
        exact cycleFocusWindow_registered h hw
      · cases hw
  · cases hw

theorem sessionActionOf_error {raw : UInt64} {error : X11WmBridgeError}
    (h : sessionActionOf raw = .error error) : error = .unsupportedAction := by
  simp only [sessionActionOf] at h
  repeat' split at h
  all_goals cases h
  rfl

theorem sessionActionOf_close {raw : UInt64} (h : sessionActionOf raw = .ok (some .closeFocused)) :
    raw = xmonadActionClose := by
  simp only [sessionActionOf] at h
  repeat' split at h
  all_goals cases h
  assumption

theorem profileCommand_error {activation : WmActionActivation} {session : WmSessionDescriptor}
    {error : X11WmBridgeError} (h : profileCommand activation session = .error error) :
    error ≠ .unknownSyntheticWindow := by
  rw [profileCommand] at h
  dsimp only at h
  split at h
  · split at h
    · cases h
    · cases h
      simp
  · split at h
    · split at h
      · cases h
        simp
      · split at h
        · cases h
        · cases h
          simp
    · rcases Fallible.bind_eq_error.mp h with h | ⟨action, -, h⟩
      · rw [sessionActionOf_error h]
        simp
      · split at h
        · cases h
        · split at h
          · cases h
          · cases h
            simp

/-- The profile names the focused surface of a request when it moves or closes it. -/
theorem profileCommand_surfaces {activation : WmActionActivation} {session : WmSessionDescriptor}
    {command : WmCommand Transform} (h : profileCommand activation session = .ok (some command)) :
    ∀ surface ∈ X11WmBridgeState.surfacesOf command,
      (ofWorkspaces xmonadActionMoveWorkspaceBase activation.action.raw ∨
        activation.action.raw = xmonadActionClose) ∧ activation.focusedSurface = some surface := by
  rw [profileCommand] at h
  dsimp only at h
  split at h
  · split at h
    · cases h
      simp [X11WmBridgeState.surfacesOf]
    · cases h
  · split at h
    · rename_i hmove
      split at h
      · cases h
      · rename_i focused hfocused
        split at h
        · cases h
          intro surface hs
          rw [List.mem_singleton.mp hs]
          exact ⟨Or.inl hmove, hfocused⟩
        · cases h
    · obtain ⟨action, haction, h⟩ := Fallible.bind_eq_ok.mp h
      split at h
      · cases h
      · rename_i action
        split at h
        · cases h
          intro surface hs
          simp only [X11WmBridgeState.surfacesOf, Option.mem_toList] at hs
          split at hs
          · rename_i hclose
            rw [hclose] at haction
            exact ⟨Or.inr (sessionActionOf_close haction), hs⟩
          · cases hs
        · cases h

theorem profileAnswer_error {request : WmRequestPacket} {fault : RuntimeFault}
    (h : s.profileAnswer request = .error fault) :
    fault ≠ .bridge (.error .unknownSyntheticWindow) := by
  rw [profileAnswer] at h
  split at h
  · cases h
  · split at h
    · cases h
      simp
    · rename_i session _
      rw [translateXmonadProfileAction] at h
      split at h
      · rename_i activation _
        cases hcommand : profileCommand activation session with
        | ok command =>
          rw [hcommand] at h
          cases h
        | error error =>
          rw [hcommand] at h
          cases h
          simpa using profileCommand_error hcommand
      · cases h

theorem profileAnswer_surfaces {request : WmRequestPacket}
    {response : WmResponsePacket Transform} (h : s.profileAnswer request = .ok (some response))
    (hclean : s.Clean (.handle request)) : ∀ command ∈ response.commands,
      ∀ surface ∈ X11WmBridgeState.surfacesOf command, surface ∈ s.bridge.surfaceToWindow := by
  rw [profileAnswer] at h
  split at h
  · cases h
  · rename_i hprofile
    split at h
    · cases h
    · rename_i session _
      rw [translateXmonadProfileAction] at h
      split at h
      · rename_i activation hkind
        rw [Fallible.mapError_eq_ok] at h
        obtain ⟨command, hcommand, hresponse⟩ := Fallible.map_eq_ok.mp h
        obtain ⟨command, rfl, rfl⟩ := Option.map_eq_some_iff.mp hresponse
        intro command' hc surface hs
        rw [List.mem_singleton.mp hc] at hs
        obtain ⟨haction, hfocused⟩ := profileCommand_surfaces hcommand surface hs
        obtain ⟨transaction, kind⟩ := request
        obtain rfl : kind = .actionActivated activation := hkind
        exact hclean hprofile haction surface hfocused
      · cases h

theorem Live.handle (h : s.Live) {request : WmRequestPacket}
    (hclean : s.Clean (.handle request)) : (s.handle request).Sound := by
  rw [LegacySession.handle]
  split
  · rename_i response hphase
    have hbetween := h.between (by rw [hphase]; rfl) (by rw [hphase]; exact id)
    split
    · rename_i fault hfault
      exact Or.inl ⟨fault, rfl, profileAnswer_error hfault⟩
    · rename_i response hresponse
      refine Or.inr (hbetween.live rfl id ?_)
      rintro answer ⟨⟩
      exact @profileAnswer_surfaces s _ _ hresponse hclean
    · refine Or.inr (hbetween.live rfl id ⟨fun window hw => ?_, fun hsome => ?_⟩)
      · exact (profiledFocus_sound h.tables hw).1
      · obtain ⟨window, hw⟩ := Option.ne_none_iff_exists'.mp hsome
        exact (profiledFocus_sound h.tables hw).2
  · exact Or.inr h

/-- What the events of a request make the server know is what they add to the tables. -/
theorem knownAfter_events {bridge : X11WmBridgeState} {events : List SyntheticXEvent}
    {window : SyntheticXWindowId} {known : Prop} (hknown : known → window ∈ bridge.windowToNode)
    (hmapped : ∀ w, .mapRequest w ∈ events → w ∈ bridge.windowToNode)
    (h : knownAfter window known
      ((events.map (serverCommand bridge)).filterMap Except.toOption)) :
    window ∈ bridge.windowToNode := by
  induction events generalizing known with
  | nil => exact hknown h
  | cons event events ih =>
    have hrest := fun w hw => hmapped w (List.mem_cons_of_mem _ hw)
    cases event with
    | mapRequest w =>
      rw [List.map_cons, serverCommand] at h
      split at h
      · refine ih (fun hk => ?_) hrest h
        rcases hk with rfl | hk
        · exact hmapped _ List.mem_cons_self
        · exact hknown hk
      · exact ih hknown hrest h
    | rootConfigured bounds => exact ih hknown hrest h
    | configureNotify w geometry => exact ih hknown hrest h
    | unmapNotify w => exact ih (fun hk => hknown hk.2) hrest h
    | destroyNotify w => exact ih (fun hk => hknown hk.2) hrest h

theorem knownAfter_keys {window : SyntheticXWindowId} {known : Prop}
    (commands : List ServerCommand) (keycode : Option UInt8) :
    knownAfter window known (commands ++ keycode.elim [] keyCommands) =
      knownAfter window known commands := by
  rw [knownAfter_append]
  cases keycode with
  | none => rfl
  | some keycode => rfl

theorem serverCommand_error {bridge : X11WmBridgeState} {event : SyntheticXEvent}
    {fault : RuntimeFault} (h : serverCommand bridge event = .error fault) :
    fault = .mapWithoutGeometry := by
  cases event with
  | mapRequest w =>
    rw [serverCommand] at h
    split at h
    · cases h
    · cases h
      rfl
  | _ => cases h

theorem serverCommand_ne_queryFocus {bridge : X11WmBridgeState} {event : SyntheticXEvent} :
    serverCommand bridge event ≠ .ok .queryFocus := by
  intro h
  cases event with
  | mapRequest w =>
    rw [serverCommand] at h
    split at h
    · cases h
    · cases h
  | _ => cases h

theorem filterMap_ok (commands : List ServerCommand) :
    (commands.map (.ok : ServerCommand → Except RuntimeFault ServerCommand)).filterMap
      Except.toOption = commands := by
  induction commands with
  | nil => rfl
  | cons command commands ih =>
    rw [List.map_cons, List.filterMap_cons, ih]
    rfl

/-- What a call makes the server know beyond the commands before it is registered. -/
theorem Between.known_sending (h : s.Between) {call : Call} {update : BridgeEngineUpdate}
    {bridge' : X11WmBridgeState}
    (happly : s.bridge.applyEngineRequest call.request = (.ok update, bridge'))
    {state : XServerState} (hs : s.server = .ok state) {window : SyntheticXWindowId}
    (hw : knownAfter window (window.raw ∈ state.windows)
      (s.commands ++ (update.events.map (serverCommand bridge') ++
        (call.profiledKey.elim [] keyCommands).map Except.ok).filterMap Except.toOption)) :
    window ∈ bridge'.windowToNode := by
  rw [List.filterMap_append, filterMap_ok, knownAfter_append, knownAfter_keys] at hw
  rcases X11WmBridgeState.applyEngineRequest_cases happly with
    ⟨hkept, hmapped⟩ | ⟨surface, workspace, removed, -, -, htable, hevents⟩
  · exact knownAfter_events (fun hk => hkept window (h.known state hs window hk)) hmapped hw
  · rw [hevents] at hw
    obtain ⟨hne, hk⟩ := hw
    rw [htable, ExtTreeMap.mem_erase]
    exact ⟨by simpa using hne, h.known state hs window hk⟩

/-- A registered window stays so unless the call removes it. -/
theorem registered_applied {call : Call} {update : BridgeEngineUpdate}
    {bridge' : X11WmBridgeState}
    (happly : s.bridge.applyEngineRequest call.request = (.ok update, bridge'))
    {window : SyntheticXWindowId} (hw : s.Registered window)
    (hkeep : ∀ surface workspace, call.request.kind = .surfaceRemoved surface workspace →
      s.bridge.surfaceToWindow[surface]? ≠ some window) : window ∈ bridge'.windowToNode := by
  rcases X11WmBridgeState.applyEngineRequest_cases happly with
    ⟨hkept, -⟩ | ⟨surface, workspace, removed, hkind, hsurface, htable, -⟩
  · exact hkept window hw
  · rw [htable, ExtTreeMap.mem_erase]
    refine ⟨fun he => hkeep surface workspace hkind ?_, hw⟩
    rw [hsurface, LawfulEqOrd.eq_of_compare he]

/-- The tables take the request in; nothing that waits is for a window it removes. -/
theorem Between.applyCall (h : s.Between) {call : Call} (hphase : s.phase = .drained call)
    (hsound : s.PhaseSound) (hclean : s.Clean (.bridge .next)) : (s.applyCall call).Sound := by
  rw [PhaseSound, hphase] at hsound
  obtain ⟨hfocus, haction, hlegacy⟩ := hsound
  obtain ⟨told, hconsistent⟩ := h.tables
  rw [LegacySession.applyCall]
  rcases happly : s.bridge.applyEngineRequest call.request with ⟨error | update, bridge'⟩
  · have herror := X11WmBridgeState.applyEngineRequest_error (congrArg Prod.fst happly)
    refine Or.inl ⟨_, rfl, ?_⟩
    rw [herror]
    simp
  have hnext : ∃ told, BridgeLog.Consistent ⟨bridge', told⟩ := by
    refine ⟨told ++ update.events, ?_⟩
    have hstep := hconsistent.step call.request fun error he => by
      rw [happly] at he
      cases he
    simpa only [BridgeLog.step, happly] using hstep
  refine Or.inr ⟨hnext, fun state hs window hw => h.known_sending happly hs hw,
    ⟨fun window hw => ?_, fun request hr => ?_, fun fault hf => ?_⟩,
    .unasked id h.pending h.reply fun hm => ?_⟩
  · refine registered_applied happly (hfocus window hw) fun surface workspace hkind => ?_
    obtain ⟨activation, hactivated⟩ := haction (by rw [hw]; simp)
    rw [hactivated] at hkind
    cases hkind
  · refine registered_applied happly (hlegacy request hr) fun surface workspace hkind hsurface => ?_
    refine hclean surface ?_ request hr hsurface
    obtain ⟨⟨transaction, kind⟩, key, focus⟩ := call
    obtain rfl : kind = .surfaceRemoved surface workspace := hkind
    rw [hphase]
    rfl
  · rcases List.mem_append.mp hf with hf | hf
    · obtain ⟨event, -, he⟩ := List.mem_map.mp hf
      exact serverCommand_error he
    · simp at hf
  · rcases List.mem_append.mp hm with hm | hm
    · exact h.way hm
    · obtain ⟨sent, hsent, hquery⟩ := List.mem_filterMap.mp hm
      rw [Fallible.toOption_eq_some] at hquery
      subst hquery
      rcases List.mem_append.mp hsent with hsent | hsent
      · obtain ⟨event, -, he⟩ := List.mem_map.mp hsent
        exact serverCommand_ne_queryFocus he
      · cases hkey : call.profiledKey <;> simp [hkey, keyCommands] at hsent

/-- The next command of a call goes into the channel. -/
theorem Live.send_command (h : s.Live) {call : Call} {expected : List SyntheticXWindowId}
    {command : ServerCommand} {unsent : List (Except RuntimeFault ServerCommand)}
    (hphase : s.phase = .sending call expected (.ok command :: unsent)) :
    (s.send command (.sending call expected unsent)).Sound := by
  have hway : s.commands ++ [command] ++ unsent.filterMap Except.toOption = s.onTheWay := by
    rw [onTheWay, hphase, List.append_assoc]
    rfl
  have hsound := h.phase
  rw [PhaseSound, hphase] at hsound
  obtain ⟨hfocus, hlegacy, hfaults⟩ := hsound
  rw [send]
  split
  · exact Or.inl ⟨_, rfl, by simp⟩
  · split
    · refine Or.inr ⟨h.tables, ?_, ⟨hfocus, hlegacy, fun fault hf => ?_⟩, ?_⟩
      · intro state hs window hw
        refine h.known state hs window ?_
        rwa [← hway]
      · exact hfaults fault (List.mem_cons_of_mem _ hf)
      · cases h.query with
        | unasked _ hpending hreply hno =>
          refine .unasked id hpending hreply ?_
          rwa [← hway] at hno
        | sent hp _ _ _ _ _ =>
          rw [hphase] at hp
          exact hp.elim
        | received hp _ _ =>
          rw [hphase] at hp
          exact hp.elim
        | replied hp _ _ _ _ _ =>
          rw [hphase] at hp
          exact hp.elim
    · exact Or.inr h

/-- So does its focus query, when no command is left. -/
theorem Live.send_query (h : s.Live) {call : Call} {requests : List LegacyWmRequest}
    (hphase : s.phase = .querying call requests) :
    (s.send .queryFocus (.awaiting call requests)).Sound := by
  have hbetween := h.between (by rw [hphase]; rfl) (by rw [hphase]; exact id)
  have hsound := h.phase
  rw [PhaseSound, hphase] at hsound
  rw [send]
  split
  · exact Or.inl ⟨_, rfl, by simp⟩
  · split
    · refine Or.inr ⟨h.tables, ?_, hsound, ?_⟩
      · intro state hs window hw
        refine hbetween.known state hs window ?_
        change knownAfter window _ (s.commands ++ [.queryFocus] ++ []) at hw
        rw [List.append_nil, knownAfter_append] at hw
        exact hw
      · exact .sent trivial hbetween.pending hbetween.reply s.commands rfl hbetween.way
    · exact Or.inr h

/-- The requests of a call with its focus are all for registered windows. -/
theorem Between.settle (h : s.Between) {call : Call} {expected : List SyntheticXWindowId}
    {configured : ExtTreeMap SyntheticXWindowId LegacyWmRequest} {focus : Option LegacyWmRequest}
    (hfocus : s.FocusSound call) (hconfigured : s.AllRegistered (Ordered.values configured))
    (hlast : s.AllRegistered focus.toList) :
    (s.settle call expected configured focus).Sound := by
  have hwith (request : LegacyWmRequest) (hr : s.Registered request.window) :
      s.AllRegistered (Ordered.values configured ++ [request]) := by
    intro request' hr'
    rcases List.mem_append.mp hr' with hr' | hr'
    · exact hconfigured request' hr'
    · rw [List.mem_singleton.mp hr']
      exact hr
  unfold LegacySession.settle
  split
  · exact Or.inl ⟨_, rfl, by simp⟩
  · rcases hprofiled : call.profiledFocus with _ | window
    · rcases hmanaged : s.managedFocus call.request with _ | window
      · rcases focus with _ | focus
        · exact Or.inr (h.live rfl id hconfigured)
        · exact h.answer (hwith _ (hlast focus (by simp))) call
      · refine h.answer (hwith (.focusWindow window) ?_) call
        rw [managedFocus] at hmanaged
        split at hmanaged
        · exact registered_of_surface h.tables hmanaged
        · cases hmanaged
    · exact h.answer (hwith (.focusWindow window) (hfocus window hprofiled)) call

/-- A request that the bridge takes from the channel is for a registered window. -/
theorem Live.collect (h : s.Live) {call : Call} {expected : List SyntheticXWindowId}
    {configured : ExtTreeMap SyntheticXWindowId LegacyWmRequest} {focus : Option LegacyWmRequest}
    (hphase : s.phase = .collecting call expected configured focus) {request : LegacyWmRequest}
    {legacy : List LegacyWmRequest} (hlegacy : s.legacy = request :: legacy)
    {configured' : ExtTreeMap SyntheticXWindowId LegacyWmRequest}
    {focus' : Option LegacyWmRequest}
    (hnext : ∀ r ∈ Ordered.values configured' ++ focus'.toList,
      r = request ∨ r ∈ Ordered.values configured ++ focus.toList) :
    { s with legacy, phase := .collecting call expected configured' focus' }.Live := by
  have hbetween := h.between (by rw [hphase]; rfl) (by rw [hphase]; exact id)
  have hsound := h.phase
  rw [PhaseSound, hphase] at hsound
  obtain ⟨hfocus, hwaiting, hconfigured, hlast⟩ := hsound
  rw [hlegacy] at hwaiting
  have hall : s.AllRegistered (Ordered.values configured' ++ focus'.toList) := by
    intro r hr
    rcases hnext r hr with rfl | hr
    · exact hwaiting r List.mem_cons_self
    · rcases List.mem_append.mp hr with hr | hr
      · exact hconfigured r hr
      · exact hlast r hr
  have hrest : { s with legacy }.Between :=
    ⟨hbetween.tables, hbetween.known, hbetween.pending, hbetween.reply, hbetween.way⟩
  refine hrest.live rfl id ⟨hfocus, fun r hr => hwaiting r (List.mem_cons_of_mem _ hr), ?_, ?_⟩
  · exact fun r hr => hall r (List.mem_append_left _ hr)
  · exact fun r hr => hall r (List.mem_append_right _ hr)

/-- The reply is all that is left of a focus query that has been answered. -/
theorem Live.take_reply (h : s.Live) {call : Call} {requests : List LegacyWmRequest}
    (hphase : s.phase = .awaiting call requests) {window : Option SyntheticXWindowId}
    (hreply : s.focusReply = some window) :
    { s with focusReply := none }.Between ∧ ∀ w ∈ window, s.Registered w := by
  obtain ⟨hcommands, hpending, hwindow⟩ : s.commands = [] ∧ s.pendingFocusQueries = 0 ∧
      ∀ w ∈ window, s.Registered w := by
    cases h.query with
    | unasked hp _ _ _ =>
      rw [hphase] at hp
      exact absurd trivial hp
    | sent _ _ hnone _ _ _ =>
      rw [hnone] at hreply
      cases hreply
    | received _ _ hnone =>
      rw [hnone] at hreply
      cases hreply
    | replied _ hcommands hpending reply hsome hwindow =>
      rw [hsome] at hreply
      cases hreply
      exact ⟨hcommands, hpending, hwindow⟩
  have hway : s.onTheWay = s.commands := by
    rw [onTheWay, hphase]
    exact List.append_nil _
  refine ⟨⟨h.tables, hway ▸ h.known, hpending, rfl, ?_⟩, hwindow⟩
  rw [hcommands]
  exact List.not_mem_nil

theorem Live.bridgeStep (h : s.Live) {move : BridgeMove} (hclean : s.Clean (.bridge move)) :
    (s.bridgeStep move).Sound := by
  have hsound := h.phase
  have hbetween := h.between
  unfold LegacySession.bridgeStep
  split
  · rename_i call hphase
    rw [PhaseSound, hphase] at hsound
    rw [hphase] at hbetween
    split
    · refine Or.inr ⟨h.tables, h.known, ?_, h.query.of_frame rfl rfl rfl rfl rfl⟩
      rw [PhaseSound, hphase]
      exact hsound
    · rename_i hlegacy
      refine Or.inr ((hbetween rfl id).live rfl id ⟨hsound.1, hsound.2, fun request hr => ?_⟩)
      rw [hlegacy] at hr
      cases hr
  · rename_i call hphase
    rw [hphase] at hbetween
    exact (hbetween rfl id).applyCall hphase hsound hclean
  · rename_i hphase
    exact h.send_command hphase
  · rename_i fault _ hphase
    rw [PhaseSound, hphase] at hsound
    refine Or.inl ⟨fault, rfl, ?_⟩
    rw [hsound.2.2 fault List.mem_cons_self]
    simp
  · rename_i call expected hphase
    rw [PhaseSound, hphase] at hsound
    rw [hphase] at hbetween
    refine Or.inr ((hbetween rfl id).live rfl id ⟨hsound.1, hsound.2.1, ?_, ?_⟩)
    · intro request hr
      simp [Ordered.values] at hr
    · intro request hr
      cases hr
  · rename_i call expected configured focus hphase
    split
    · rename_i window geometry zIndex legacy hlegacy
      refine Or.inr (h.collect hphase hlegacy fun request hr => ?_)
      rcases List.mem_append.mp hr with hr | hr
      · obtain ⟨window', hw⟩ := Ordered.mem_values.mp hr
        rw [ExtTreeMap.getElem?_insert] at hw
        split at hw
        · exact Or.inl (Option.some.inj hw).symm
        · exact Or.inr (List.mem_append_left _ (Ordered.mem_values.mpr ⟨window', hw⟩))
      · exact Or.inr (List.mem_append_right _ hr)
    · rename_i window legacy hlegacy
      refine Or.inr (h.collect hphase hlegacy fun request hr => ?_)
      rcases List.mem_append.mp hr with hr | hr
      · exact Or.inr (List.mem_append_left _ hr)
      · exact Or.inl (List.mem_singleton.mp hr)
    · exact Or.inl ⟨_, rfl, by simp⟩
    · exact Or.inr h
  · rename_i call expected configured focus hphase
    rw [PhaseSound, hphase] at hsound
    rw [hphase] at hbetween
    split
    · exact (hbetween rfl id).settle hsound.1 hsound.2.2.1 hsound.2.2.2
    · exact Or.inr h
  · rename_i call expected configured focus hphase
    rw [PhaseSound, hphase] at hsound
    rw [hphase] at hbetween
    exact (hbetween rfl id).settle hsound.1 hsound.2.2.1 hsound.2.2.2
  · rename_i hphase
    exact h.send_query hphase
  · rename_i call requests hphase
    rw [PhaseSound, hphase] at hsound
    split
    · rename_i window hreply
      obtain ⟨hrest, hwindow⟩ := h.take_reply hphase hreply
      refine hrest.answer (fun request hr => ?_) call
      rcases List.mem_append.mp hr with hr | hr
      · exact hsound request hr
      · obtain ⟨w, hw, rfl⟩ := Option.map_eq_some_iff.mp (Option.mem_toList.mp hr)
        exact hwindow w hw
    · exact Or.inr h
  · exact Or.inl ⟨_, rfl, by simp⟩
  · exact Or.inr h

theorem Sound.step (h : s.Sound) {action : SessionAction} (hclean : s.Clean action) :
    (s.step action).Sound := by
  rcases h with ⟨fault, hphase, hfault⟩ | h
  · exact Or.inl ⟨fault, step_ended hphase action, hfault⟩
  cases action with
  | handle request => exact h.handle hclean
  | bridge move => exact h.bridgeStep hclean
  | server move => exact Or.inr (h.server hclean)
  | wmSend request =>
    exact Or.inr ⟨h.tables, h.known, h.phase, h.query.of_frame rfl rfl rfl rfl rfl⟩
  | wmReceive =>
    rw [LegacySession.step]
    split
    · exact Or.inr h
    · exact Or.inr ⟨h.tables, h.known, h.phase, h.query.of_frame rfl rfl rfl rfl rfl⟩

/-- In every run in which nothing is passed on for a window whose withdrawal is on the way, no
request fails for an unknown window, and every answer is about registered surfaces. -/
theorem answers_throughout (profile : LegacyWmProfile) (session : Option WmSessionDescriptor)
    (root : Rect) {actions : List SessionAction}
    (hclean : Run.Guarded step Clean (start profile session root) actions) :
    Run.Throughout step (fun _ s => s.Answers) (start profile session root) actions := by
  rintro before after rfl
  exact (Run.invariant (sound_start profile session root) (fun _ _ hc h => h.step hc)
    hclean.left).answers

section Removal

/-- The window manager asks nothing for a window of whose destruction it has heard. -/
def Timely (s : LegacySession) : SessionAction → Prop
  | .wmSend request => request.opcode = 12 ∨ request.opcode = 42 →
      ∀ packet ∈ s.heard, packet.head? = some 17 →
        readU32 packet 8 ≠ readU32 request.body 0
  | _ => True

instance (s : LegacySession) : DecidablePred s.Timely
  | .wmSend _ => inferInstanceAs (Decidable (_ → ∀ _ ∈ s.heard, _ → _))
  | .handle _ | .bridge _ | .server _ | .wmReceive => isTrue trivial

def exampleSession : LegacySession := start .layoutOnly none BridgeLog.exampleBounds

/-- A surface is managed: the window manager hears of its window and configures it. -/
def managedRun : List SessionAction :=
  .handle (BridgeLog.exampleManage 1) :: List.replicate 5 (.bridge .next) ++
    [.server .next, .server .next, .wmReceive, .wmReceive,
      .wmSend ⟨12, 0, [0, 0, 1, 0, 0, 0, 0, 0]⟩, .server .next, .server .next, .bridge .next,
      .bridge .quiet]

theorem answers_managed :
    Run.Throughout step (fun _ s => s.Answers) exampleSession managedRun :=
  answers_throughout _ _ _ (by decide)

/-- The surface is removed while a request for the focus of its window is under way. -/
def removedRun : List SessionAction :=
  managedRun ++ [.handle ⟨.fromRaw 2, .surfaceRemoved (BridgeLog.exampleNode 1).surface ⟨1⟩⟩,
    .wmSend ⟨42, 0, [0, 0, 1, 0]⟩, .server .next, .bridge .next, .bridge .next, .server .next,
    .bridge .next, .bridge .next, .bridge .next, .bridge .quiet]

/-- Why the bridge ended, if it did. -/
def fault? (s : LegacySession) : Option RuntimeFault :=
  match s.phase with
  | .ended fault => some fault
  | _ => none

theorem removed_run_fails :
    Run.Guarded step Timely exampleSession removedRun ∧
      ¬ Run.Throughout step (fun _ s => s.Answers) exampleSession removedRun := by
  refine ⟨by decide, fun h => (h removedRun [] (by simp)).known ?_⟩
  have hfault : (Run.exec step exampleSession removedRun).fault? =
      some (.bridge (.error .unknownSyntheticWindow)) := by decide
  rw [fault?] at hfault
  split at hfault
  · rename_i hphase
    rw [hphase, Option.some.inj hfault]
  · cases hfault

end Removal

end LegacySession
end Sophia.Bridge
