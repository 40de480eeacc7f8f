import Sophia.Bridge.PrivateServer
import Sophia.Lib.Run

/-! Which requests make the private server write a record its client cannot find the end of, or
read behind the end of a body. -/
namespace Sophia.Bridge

open Std Protocol Codec

/-- How long a record is, from its own first bytes: a reply is one that begins with 1. -/
def recordLength (record : List UInt8) : ℕ :=
  if record.head? = some 1 then 32 + 4 * fromLe ((record.drop 4).take 4) else 32

structure Complete (sequence : UInt16) (record : List UInt8) : Prop where
  length_eq : record.length = recordLength record
  sequence_eq : (record.drop 2).take 2 = pushU16 sequence

section Records

variable {detail code : UInt8} {sequence : UInt16} {length : UInt32} {size : ℕ}
  {header bytes record : List UInt8}

@[simp] theorem length_pushU16 (value : UInt16) : (pushU16 value).length = 2 := length_toLe ..

@[simp] theorem length_pushU32 (value : UInt32) : (pushU32 value).length = 4 := length_toLe ..

@[simp] theorem length_resize : (resize bytes size).length = size := by
  simp only [resize, List.length_append, List.length_take, List.length_replicate]
  omega

theorem length_replyHeader : (replyHeader detail sequence length).length = 8 := by
  simp [replyHeader]

theorem length_eventHeader : (eventHeader code detail sequence).length = 4 := by
  simp [eventHeader]

/-- What is resized keeps its beginning. -/
theorem prefix_resize (h : header <+: bytes) (hsize : header.length ≤ size) :
    header <+: resize bytes size := by
  obtain ⟨rest, rfl⟩ := h
  refine ⟨rest.take (size - header.length) ++
    List.replicate (size - (header ++ rest).length) 0, ?_⟩
  rw [resize, List.take_append, List.take_of_length_le hsize, List.append_assoc]

theorem complete_reply_iff (h : replyHeader detail sequence length <+: record) :
    Complete sequence record ↔ record.length = 32 + 4 * length.toNat := by
  obtain ⟨rest, rfl⟩ := h
  have hword : fromLe (pushU32 length) = length.toNat := fromLe_toLe length.toNat_lt
  have hlength : recordLength (replyHeader detail sequence length ++ rest) =
      32 + 4 * length.toNat := by
    have hhead : (replyHeader detail sequence length ++ rest).head? = some 1 := rfl
    rw [recordLength, if_pos hhead, ← hword]
    rfl
  refine ⟨fun hc => hc.length_eq.trans hlength, fun hl => ⟨hl.trans hlength.symm, rfl⟩⟩

theorem complete_event (h : eventHeader code detail sequence <+: record) (hcode : code ≠ 1)
    (hlength : record.length = 32) : Complete sequence record := by
  obtain ⟨rest, rfl⟩ := h
  refine ⟨?_, rfl⟩
  rw [hlength, recordLength, if_neg]
  simpa [eventHeader] using hcode

theorem prefix_sizedReply {payload : List UInt8} (hsize : 8 ≤ size) :
    replyHeader detail sequence length <+: sizedReply detail sequence length payload size :=
  prefix_resize (List.prefix_append _ _) (by rwa [length_replyHeader])

/-- A reply is complete when it is brought to the size its length field names. -/
theorem complete_sizedReply {payload : List UInt8} (hsize : size = 32 + 4 * length.toNat) :
    Complete sequence (sizedReply detail sequence length payload size) := by
  rw [complete_reply_iff (prefix_sizedReply (by omega)), sizedReply, length_resize]
  exact hsize

theorem complete_sizedEvent {payload : List UInt8} (hcode : code ≠ 1) :
    Complete sequence (sizedEvent code sequence payload 32) := by
  refine complete_event (prefix_resize (List.prefix_append _ _) ?_) hcode length_resize
  rw [length_eventHeader]
  decide

theorem complete_writeKeyEvent (keycode : UInt8) (pressed : Bool) :
    Complete sequence (writeKeyEvent sequence keycode pressed) := by
  have hprefix : eventHeader (if pressed then 2 else 3) keycode sequence <+:
      writeKeyEvent sequence keycode pressed := by
    simp only [writeKeyEvent, List.append_assoc]
    exact List.prefix_append _ _
  refine complete_event hprefix ?_ ?_
  · split
    · decide
    · decide
  · simp [writeKeyEvent, length_eventHeader]

variable {state : XServerState}

theorem complete_replyQueryTree_iff :
    Complete state.sequence (replyQueryTree state) ↔ state.windows.size < UInt32.size := by
  have hpayload (keys : List UInt32) : (keys.flatMap pushU32).length = 4 * keys.length := by
    induction keys with
    | nil => rfl
    | cons key keys ih =>
      rw [List.flatMap_cons, List.length_append, length_pushU32, ih, List.length_cons]
      omega
  rw [replyQueryTree, complete_reply_iff ((prefix_sizedReply (by decide)).trans
    (List.prefix_append _ _)), List.length_append, sizedReply, length_resize, hpayload,
    ExtTreeMap.length_keys, UInt32.toNat_ofNat', UInt32.size]
  omega

theorem complete_replyKeyboardMapping_iff (body : List UInt8) :
    Complete sequence (replyKeyboardMapping sequence detail body) ↔
      detail.toNat + (body.headD 0).toNat < UInt8.size := by
  have hpayload (keycodes : List ℕ) :
      (keycodes.flatMap fun keycode => pushU32 (UInt32.ofNat keycode)).length =
        4 * keycodes.length := by
    induction keycodes with
    | nil => rfl
    | cons keycode keycodes ih =>
      rw [List.flatMap_cons, List.length_append, length_pushU32, ih, List.length_cons]
      omega
  have hdetail := detail.toNat_lt
  have hcount := (body.headD 0).toNat_lt
  rw [replyKeyboardMapping, complete_reply_iff ((prefix_sizedReply (by decide)).trans
    (List.prefix_append _ _)), List.length_append, sizedReply, length_resize, hpayload,
    List.length_range', UInt32.toNat_ofNat', UInt8.size]
  omega

theorem complete_replyAllocColor (body : List UInt8) :
    Complete sequence (replyAllocColor sequence body) := by
  rw [replyAllocColor, complete_reply_iff (prefix_resize ((prefix_sizedReply (by decide)).trans
    (List.prefix_append _ _)) (by rw [length_replyHeader]; decide))]
  exact length_resize

/-- Names come from the wire, where their length is a halfword. -/
def XServerState.NamesShort (state : XServerState) : Prop :=
  ∀ (atom : UInt32) (name : List UInt8), state.atomNames[atom]? = some name →
    name.length < UInt16.size

theorem complete_replyAtomName (h : state.NamesShort) (atom : UInt32) :
    Complete state.sequence (replyAtomName state atom) := by
  have hshort : (state.atomNames[atom]?.getD []).length < UInt16.size := by
    rcases hname : state.atomNames[atom]? with _ | name
    · decide
    · exact h atom name hname
  rw [replyAtomName, complete_reply_iff (prefix_resize ((prefix_sizedReply (by decide)).trans
    (List.prefix_append _ _)) (by rw [length_replyHeader]; omega)), length_resize,
    UInt32.toNat_ofNat']
  rw [UInt16.size] at hshort
  omega

end Records

inductive ServerAction where
  | command (command : ServerCommand)
  | request (opcode detail : UInt8) (body : List UInt8)

namespace XServerState

variable (state : XServerState)

/-- A focus query waits in the loop; every other command goes to the state. -/
def outcome : ServerAction → Except ServerFault ServerEffect
  | .command .queryFocus => .ok { state }
  | .command command => state.applyServerCommand command
  | .request opcode detail body => state.serveRequest opcode detail body

/-- The grab of a key names the key, a keyboard mapping ends with the last keycode there is, and
the windows of a tree can be counted. -/
def Accepts : ServerAction → Prop
  | .command _ => True
  | .request opcode detail body =>
    (opcode = 15 → state.windows.size < UInt32.size) ∧
    (opcode = 33 → readU32 body 0 = syntheticRootXid → 6 < body.length) ∧
    (opcode = 101 → detail.toNat + (body.headD 0).toNat < UInt8.size)

/-- Nothing is read behind the end of a body, and every packet is a complete record. -/
def Framed (sequence : UInt16) : Except ServerFault ServerEffect → Prop
  | .error fault => fault ≠ .panic
  | .ok effect => ∀ packet ∈ effect.packets, Complete sequence packet

/-- What a command or a request leaves of what the records depend on. -/
structure Kept (state state' : XServerState) : Prop where
  sequence_eq : state'.sequence = state.sequence
  names : state.NamesShort → state'.NamesShort

variable {state} {opcode detail : UInt8} {body : List UInt8} {effect : ServerEffect}

theorem Kept.refl : Kept state state := ⟨rfl, id⟩

theorem framed_silent {sequence : UInt16} {next : XServerState} {legacy : List LegacyWmRequest} :
    Framed sequence (.ok { state := next, legacy }) := by
  intro packet hp
  cases hp

theorem framed_reply {sequence : UInt16} {packet : List UInt8} {next : XServerState} :
    Framed sequence (.ok { state := next, packets := [packet] }) ↔ Complete sequence packet := by
  simp [Framed]

theorem framed_configureWindow {sequence : UInt16} :
    Framed sequence (.ok (state.configureWindow body)) := by
  rw [configureWindow]
  split
  · exact framed_silent
  · exact framed_silent

theorem framed_replyInternAtom (onlyIfExists : Bool) :
    Framed state.sequence (replyInternAtom state onlyIfExists body) := by
  rw [replyInternAtom]
  dsimp only
  split
  · rintro ⟨⟩
  · cases state.atomsByName[(body.drop 4).take (readU16 body 0).toNat]? with
    | some atom => exact framed_reply.mpr (complete_sizedReply rfl)
    | none =>
      dsimp only
      split
      · exact framed_reply.mpr (complete_sizedReply rfl)
      · exact framed_reply.mpr (complete_sizedReply rfl)

theorem framed_grabKey_iff {sequence : UInt16} :
    Framed sequence (state.grabKey body) ↔
      (readU32 body 0 = syntheticRootXid → 6 < body.length) := by
  rw [grabKey]
  split
  · rename_i hroot
    refine iff_of_true ?_ (fun h => absurd h hroot)
    rintro ⟨⟩
  · rename_i hroot
    rw [not_not] at hroot
    cases hkey : body[6]? with
    | none =>
      have hlen : ¬ 6 < body.length := by simpa using hkey
      simp [Framed, hroot, hlen]
    | some key =>
      have hlen : 6 < body.length := (List.getElem?_eq_some_iff.mp hkey).1
      refine iff_of_true ?_ (fun _ => hlen)
      dsimp only
      split
      · rintro ⟨⟩
      · exact framed_silent

/-- All requests but three write a complete record whatever they ask for. -/
theorem framed_dispatch (hnames : state.NamesShort) (htree : opcode ≠ 15) (hgrab : opcode ≠ 33)
    (hkeyboard : opcode ≠ 101) :
    Framed state.sequence (state.dispatchRequest opcode detail body) := by
  unfold dispatchRequest
  split
  · exact framed_silent
  · exact framed_reply.mpr (complete_sizedReply rfl)
  · exact framed_silent
  · exact framed_silent
  · exact framed_configureWindow
  · exact framed_reply.mpr (complete_sizedReply rfl)
  · exact absurd rfl htree
  · exact framed_replyInternAtom _
  · exact framed_reply.mpr (complete_replyAtomName hnames _)
  · exact framed_silent
  · exact framed_silent
  · exact framed_reply.mpr (complete_sizedReply rfl)
  · exact framed_reply.mpr (complete_sizedReply rfl)
  · exact framed_silent
  · exact framed_reply.mpr (complete_sizedReply rfl)
  · exact framed_silent
  · exact framed_silent
  · exact framed_silent
  · exact framed_silent
  · exact framed_silent
  · exact framed_silent
  · exact framed_silent
  · exact framed_silent
  · exact framed_silent
  · exact framed_silent
  · exact absurd rfl hgrab
  · exact framed_silent
  · exact framed_reply.mpr (complete_sizedReply rfl)
  · exact framed_reply.mpr (complete_sizedReply rfl)
  · exact framed_reply.mpr (complete_sizedReply rfl)
  · exact framed_reply.mpr (complete_sizedReply rfl)
  · exact framed_silent
  · exact framed_reply.mpr (complete_sizedReply rfl)
  · exact framed_reply.mpr (complete_sizedReply rfl)
  · exact framed_reply.mpr (complete_replyAllocColor body)
  · exact framed_reply.mpr (complete_sizedReply rfl)
  · exact framed_reply.mpr (complete_sizedReply rfl)
  · exact framed_reply.mpr (complete_sizedReply rfl)
  · exact framed_reply.mpr (complete_sizedReply rfl)
  · exact absurd rfl hkeyboard
  · exact framed_reply.mpr (complete_sizedReply rfl)
  · exact framed_reply.mpr (complete_sizedReply rfl)
  · exact framed_reply.mpr (complete_sizedReply rfl)
  · exact framed_reply.mpr (complete_sizedReply rfl)
  · exact framed_reply.mpr (complete_sizedReply rfl)
  · exact framed_silent
  · split
    · exact framed_silent
    · rintro ⟨⟩

theorem framed_dispatch_iff (hnames : state.NamesShort) :
    Framed state.sequence (state.dispatchRequest opcode detail body) ↔
      (opcode = 15 → state.windows.size < UInt32.size) ∧
      (opcode = 33 → readU32 body 0 = syntheticRootXid → 6 < body.length) ∧
      (opcode = 101 → detail.toNat + (body.headD 0).toNat < UInt8.size) := by
  by_cases htree : opcode = 15
  · subst htree
    exact framed_reply.trans (complete_replyQueryTree_iff.trans (by simp))
  by_cases hgrab : opcode = 33
  · subst hgrab
    exact framed_grabKey_iff.trans (by simp)
  by_cases hkeyboard : opcode = 101
  · subst hkeyboard
    exact framed_reply.trans ((complete_replyKeyboardMapping_iff body).trans (by simp))
  refine iff_of_true (framed_dispatch hnames htree hgrab hkeyboard) ?_
  exact ⟨fun h => absurd h htree, fun h => absurd h hgrab, fun h => absurd h hkeyboard⟩

theorem framed_command (command : ServerCommand) :
    Framed state.sequence (state.outcome (.command command)) := by
  cases command with
  | root bounds => exact framed_reply.mpr (complete_sizedEvent (by decide))
  | map window geometry => exact framed_reply.mpr (complete_sizedEvent (by decide))
  | configure window geometry => exact framed_reply.mpr (complete_sizedEvent (by decide))
  | unmap window => exact framed_reply.mpr (complete_sizedEvent (by decide))
  | destroy window => exact framed_reply.mpr (complete_sizedEvent (by decide))
  | key keycode pressed => exact framed_reply.mpr (complete_writeKeyEvent keycode pressed)
  | wake => exact framed_reply.mpr (complete_sizedEvent (by decide))
  | queryFocus => exact framed_silent

theorem kept_command {command : ServerCommand}
    (h : state.outcome (.command command) = .ok effect) : Kept state effect.state := by
  cases command with
  | queryFocus =>
    cases h
    exact .refl
  | _ =>
    cases h
    exact ⟨rfl, id⟩

theorem kept_replyInternAtom {onlyIfExists : Bool}
    (h : replyInternAtom state onlyIfExists body = .ok effect) : Kept state effect.state := by
  obtain ⟨-, he | ⟨name, atom, nextAtom, atomsByName, hshort, he⟩⟩ := replyInternAtom_cases h
  · rw [he]
    exact .refl
  · rw [he]
    refine ⟨rfl, fun hnames atom' name' hatom => ?_⟩
    rw [ExtTreeMap.getElem?_insert] at hatom
    split at hatom
    · cases hatom
      exact hshort
    · exact hnames atom' name' hatom

theorem kept_dispatch (h : state.dispatchRequest opcode detail body = .ok effect) :
    Kept state effect.state := by
  rcases dispatchRequest_cases h with
    ⟨he, -⟩ | ⟨mapped, rfl⟩ | ⟨-, rfl⟩ | he | he | rfl | ⟨-, rfl⟩
  · rw [he]
    exact .refl
  · exact ⟨rfl, id⟩
  · rw [configureWindow]
    split
    · exact .refl
    · exact ⟨rfl, id⟩
  · exact kept_replyInternAtom he
  · obtain ⟨keyGrabs, rfl⟩ := grabKey_cases he
    exact ⟨rfl, id⟩
  · obtain ⟨keyGrabs, he⟩ := ungrabKey_eq state detail body
    rw [he]
    exact ⟨rfl, id⟩
  · exact ⟨rfl, id⟩

end XServerState

/-- The server with the number of requests it has read. -/
structure ServerRun where
  server : Except ServerFault XServerState
  requests : ℕ

namespace ServerRun

def start (root : Rect) : ServerRun := ⟨.ok (.new root), 0⟩

def requestsAfter (run : ServerRun) : ServerAction → ℕ
  | .command _ => run.requests
  | .request .. => run.requests + 1

/-- A server that has stopped does nothing more. -/
def step (run : ServerRun) (action : ServerAction) : ServerRun :=
  match run.server with
  | .error _ => run
  | .ok state => ⟨(state.outcome action).map (·.state), run.requestsAfter action⟩

/-- The records written by the action carry the number of the last request read. -/
def Framed (run : ServerRun) (action : ServerAction) : Prop :=
  ∀ state, run.server = .ok state →
    XServerState.Framed (UInt16.ofNat (run.requestsAfter action)) (state.outcome action)

def Accepts (run : ServerRun) (action : ServerAction) : Prop :=
  ∀ state, run.server = .ok state → state.Accepts action

/-- The server counts its requests, and every name it gave an atom fits a reply. -/
def Counts (run : ServerRun) : Prop :=
  ∀ state, run.server = .ok state →
    state.sequence = UInt16.ofNat run.requests ∧ state.NamesShort

variable {run : ServerRun} {root : Rect} {action : ServerAction} {state : XServerState}

theorem counts_start : (start root).Counts := by
  rintro state ⟨⟩
  refine ⟨rfl, fun atom name h => ?_⟩
  simp [XServerState.new] at h

theorem kept_outcome {effect : ServerEffect} (hnames : state.NamesShort)
    (h : state.outcome action = .ok effect) :
    effect.state.sequence = state.sequence +
        (match action with | .command _ => 0 | .request .. => 1) ∧
      effect.state.NamesShort := by
  cases action with
  | command command =>
    obtain ⟨hsequence, hshort⟩ := XServerState.kept_command h
    rw [UInt16.add_zero]
    exact ⟨hsequence, hshort hnames⟩
  | request opcode detail body =>
    obtain ⟨hsequence, hshort⟩ := XServerState.kept_dispatch h
    exact ⟨hsequence, hshort hnames⟩

theorem Counts.step (h : run.Counts) (action : ServerAction) : (run.step action).Counts := by
  rcases run with ⟨_ | state, requests⟩
  · exact h
  obtain ⟨hsequence, hnames⟩ := h state rfl
  intro state' hstate
  rcases houtcome : state.outcome action with fault | effect
  · simp [ServerRun.step, houtcome, Except.map] at hstate
  · simp only [ServerRun.step, houtcome, Except.map, Except.ok.injEq] at hstate ⊢
    subst hstate
    obtain ⟨hnext, hshort⟩ := kept_outcome hnames houtcome
    refine ⟨?_, hshort⟩
    rw [hnext, hsequence]
    cases action with
    | command command => exact UInt16.add_zero _
    | request opcode detail body => exact (UInt16.ofNat_add requests 1).symm

theorem framed_iff (h : run.Counts) : run.Framed action ↔ run.Accepts action := by
  refine forall_congr' fun state => forall_congr' fun hstate => ?_
  obtain ⟨hsequence, hnames⟩ := h state hstate
  cases action with
  | command command =>
    refine iff_of_true ?_ trivial
    change XServerState.Framed (UInt16.ofNat run.requests) _
    rw [← hsequence]
    exact XServerState.framed_command command
  | request opcode detail body =>
    have hnext : UInt16.ofNat (run.requestsAfter (.request opcode detail body)) =
        state.sequence + 1 := by
      rw [hsequence]
      exact UInt16.ofNat_add run.requests 1
    rw [hnext]
    exact @XServerState.framed_dispatch_iff { state with sequence := state.sequence + 1 }
      opcode detail body hnames

/-- In every run of commands and requests the server reads no byte behind a body and writes
complete records under the number of the last request, if and only if every key grab names its
key, every keyboard mapping asked for exists and every tree asked for can be counted. -/
theorem framed_run_iff (root : Rect) (actions : List ServerAction) :
    Run.Guarded step Framed (start root) actions ↔
      Run.Guarded step Accepts (start root) actions :=
  Run.guarded_congr counts_start (fun _ action h _ => h.step action) fun _ _ h => framed_iff h

def exampleRoot : Rect := ⟨0, 0, 1280, 720⟩

/-- A key grab on the root whose body ends after the window. -/
def shortGrab : ServerAction := .request 33 0 [0x20, 0, 0, 0]

/-- All keycodes from the minimum on, counted as if they began at zero. -/
def longMapping : ServerAction := .request 101 8 [255, 0, 0, 0]

theorem requests_not_framed :
    ¬ Run.Guarded step Framed (start exampleRoot) [shortGrab] ∧
      ¬ Run.Guarded step Framed (start exampleRoot) [longMapping] := by
  constructor
  · intro h
    have hgrab := ((framed_iff counts_start).mp (h [] shortGrab [] rfl) _ rfl).2.1 rfl (by decide)
    exact absurd hgrab (by decide)
  · intro h
    have hmapping := ((framed_iff counts_start).mp (h [] longMapping [] rfl) _ rfl).2.2 rfl
    exact absurd hmapping (by decide)

end ServerRun
end Sophia.Bridge
