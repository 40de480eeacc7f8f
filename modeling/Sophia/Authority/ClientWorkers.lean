import Sophia.Authority.TransactionIdentity

/-! The clients of one listener: their requests are answered in any order, under identities no
two of which should be the same. -/
namespace Sophia.Authority.Listener

open Std Protocol FullRuntime

/-- What the decoder puts in a packet beside the client's bytes. -/
def identifiedPacket (ns : NamespaceId) (transaction : TransactionId)
    (packet : XAuthorityRequestPacket) : XAuthorityRequestPacket where
  transaction := transaction
  namespaceId := ns
  kind := match packet.kind with
    | .requestSelection request _ => .requestSelection request (.fromRaw transaction.raw)
    | kind => kind

def XWireRequest.identified (ns : NamespaceId) (transaction : TransactionId) :
    XWireRequest → XWireRequest
  | .authority packet => .authority (identifiedPacket ns transaction packet)
  | .createWindow packet depth visual colormap backgroundPixel =>
    .createWindow (identifiedPacket ns transaction packet) depth visual colormap backgroundPixel
  | .presentPixmap request => .presentPixmap { request with transaction }
  | request => request

/-- The thread of one client. A request it has read waits under the identity allocated for it. -/
structure Worker where
  namespaceId : NamespaceId
  byteOrder : XByteOrder
  resourceIdRange : XWireClientResourceRange
  sequence : UInt16
  request : Option TransactionId

/-- What the threads share, with the responses the requests got so far. -/
structure X11CoreSocketServerState where
  runtime : FullRuntime
  nextTransactionId : IdAllocator .transactionId
  workers : ExtTreeMap UInt64 Worker
  responses : List XAuthorityResponsePacket

/-- A step of one thread, or calls of the engine in between. -/
inductive ListenerAction where
  | connect (client : UInt64) (ns : NamespaceId) (byteOrder : XByteOrder)
      (range : XWireClientResourceRange)
  | receive (client : UInt64)
  | refuse (client : UInt64)
  | dispatch (client : UInt64) (majorOpcode : UInt8) (atoms : XAtomTable) (request : XWireRequest)
  | close (client : UInt64)
  | engine (calls : List RuntimeCall)

/-- What a worker's requests are dispatched with. -/
def Worker.context (worker : Worker) (majorOpcode : UInt8) : XDispatchContext :=
  ⟨worker.namespaceId, worker.sequence, majorOpcode⟩

namespace X11CoreSocketServerState

def new : X11CoreSocketServerState where
  runtime := .new
  nextTransactionId := .new
  workers := ∅
  responses := []

variable (state : X11CoreSocketServerState)

/-- Store a client's thread. -/
def put (client : UInt64) (worker : Worker) : X11CoreSocketServerState :=
  { state with workers := state.workers.insert client worker }

def connect (client : UInt64) (ns : NamespaceId) (byteOrder : XByteOrder)
    (range : XWireClientResourceRange) : X11CoreSocketServerState :=
  if client ∈ state.workers then state else state.put client ⟨ns, byteOrder, range, 0, none⟩

/-- A client's next request is read: its own count and the listener's move on. -/
def receive (client : UInt64) : X11CoreSocketServerState :=
  match (state.workers[client]?).filter (·.request.isNone), state.nextTransactionId.nextId with
  | some worker, some (transaction, nextTransactionId) =>
    { state with nextTransactionId }.put client
      { worker with sequence := worker.sequence + 1, request := some transaction }
  | _, _ => state

/-- Bytes that do not decode get an error and never reach the authority. -/
def refuse (client : UInt64) : X11CoreSocketServerState :=
  (state.workers[client]?).elim state fun worker => state.put client { worker with request := none }

def dispatch (client : UInt64) (majorOpcode : UInt8) (atoms : XAtomTable)
    (request : XWireRequest) : X11CoreSocketServerState :=
  match state.workers[client]? with
  | none => state
  | some worker => match worker.request with
    | none => state
    | some transaction =>
      let (response, runtime) := dispatchX11WireRequest state.runtime (worker.context majorOpcode)
        ⟨worker.byteOrder, atoms⟩ (request.identified worker.namespaceId transaction)
      { state with runtime, responses := state.responses ++ response.toList }.put client
        { worker with request := none }

/-- The report of what a client leaves behind takes an identity too, when there is one to make. -/
def close (client : UInt64) : X11CoreSocketServerState :=
  match state.workers[client]? with
  | none => state
  | some worker =>
    let (released, runtime) :=
      state.runtime.releaseClientResourceRange worker.namespaceId worker.resourceIdRange
    let reported := released.toOption.any fun release =>
      !release.removedSurfaces.isEmpty || !release.releasedDmaBufs.isEmpty ||
        !release.releasedFences.isEmpty
    { state with
      runtime
      workers := state.workers.erase client
      nextTransactionId := if reported then
        state.nextTransactionId.nextId.elim state.nextTransactionId Prod.snd
        else state.nextTransactionId }

def step : ListenerAction → X11CoreSocketServerState
  | .connect client ns byteOrder range => state.connect client ns byteOrder range
  | .receive client => state.receive client
  | .refuse client => state.refuse client
  | .dispatch client majorOpcode atoms request => state.dispatch client majorOpcode atoms request
  | .close client => state.close client
  | .engine calls => { state with runtime := Run.exec FullRuntime.step state.runtime calls }

/-- The identities a response and what it asks of the engine are under. -/
def identities (response : XAuthorityResponsePacket) : List TransactionId :=
  response.transaction :: response.transactions.map (·.transaction)

/-- Every identity is valid, and no two requests share one. -/
def Identified : Prop :=
  (∀ response ∈ state.responses, ∀ id ∈ identities response, id.isValid) ∧
    state.responses.Pairwise fun response other =>
      ∀ id ∈ identities response, id ∉ identities other

instance : Decidable state.Identified := inferInstanceAs (Decidable (_ ∧ List.Pairwise _ _))

/-- A request that is answered under its client's count is at the number the listener allocated. -/
def OwnIdentity : ListenerAction → Prop
  | .dispatch client majorOpcode _ request =>
    ∀ worker ∈ state.workers[client]?, ∀ transaction ∈ worker.request,
      request.bySequence state.runtime worker.namespaceId →
        sequenceTransaction (worker.context majorOpcode) = transaction
  | _ => True

instance (action : ListenerAction) : Decidable (state.OwnIdentity action) :=
  match action with
  | .dispatch client majorOpcode _ request =>
    inferInstanceAs (Decidable (∀ worker ∈ state.workers[client]?, ∀ transaction ∈ worker.request,
      request.bySequence state.runtime worker.namespaceId →
        sequenceTransaction (worker.context majorOpcode) = transaction))
  | .connect .. | .receive _ | .refuse _ | .close _ | .engine _ => isTrue trivial

end X11CoreSocketServerState

section Answers

variable (runtime : FullRuntime) (context : XDispatchContext) (around : Surroundings)

/-- A request is answered under the identity allocated for it unless it takes another one. -/
theorem answered_own_iff (request : XWireRequest) (transaction : TransactionId) :
    (∀ response ∈ (dispatchX11WireRequest runtime context around
        (request.identified context.namespaceId transaction)).1, Carries transaction response) ↔
      (request.bySequence runtime context.namespaceId →
        sequenceTransaction context = transaction) := by
  have hcarries := carries_respond (beginDispatch runtime) context around
    (request.identified context.namespaceId transaction)
  cases request with
  | authority packet => exact iff_of_true hcarries (by simp [XWireRequest.bySequence])
  | createWindow packet depth visual colormap backgroundPixel =>
    exact iff_of_true hcarries (by simp [XWireRequest.bySequence])
  | presentPixmap request => exact iff_of_true hcarries (by simp [XWireRequest.bySequence])
  | other calls => exact iff_of_true (by rintro _ ⟨⟩) (by simp [XWireRequest.bySequence])
  | polyText8 drawable gc x y text =>
    refine (carries_iff hcarries).trans (imp_congr_left ?_)
    exact Eq.congr_left (isSome_textDraw drawable gc x y text false)
  | imageText8 drawable gc x y text =>
    refine (carries_iff hcarries).trans (imp_congr_left ?_)
    exact Eq.congr_left (isSome_textDraw drawable gc x y text true)
  | _ => exact carries_iff hcarries

end Answers

namespace X11CoreSocketServerState

variable {state : X11CoreSocketServerState} {client : UInt64} {worker : Worker}

/-- The identity a client's request waits under. -/
def waiting (state : X11CoreSocketServerState) (client : UInt64) : Option TransactionId :=
  (state.workers[client]?).bind (·.request)

/-- The identity was allocated, and nothing is answered under it. -/
def Unused (state : X11CoreSocketServerState) (transaction : TransactionId) : Prop :=
  transaction.isValid ∧ transaction.raw.toNat < state.nextTransactionId.next.toNat ∧
    ∀ response ∈ state.responses, response.transaction ≠ transaction

/-- No two requests wait or are answered under one identity. -/
structure Accounted (state : X11CoreSocketServerState) : Prop where
  started : 0 < state.nextTransactionId.next.toNat
  waiting : InStep state.waiting state.Unused
  carried : ∀ response ∈ state.responses, Carries response.transaction response ∧
    response.transaction.isValid ∧
      response.transaction.raw.toNat < state.nextTransactionId.next.toNat
  distinct : state.responses.Pairwise fun response other =>
    response.transaction ≠ other.transaction

theorem waiting_of_get (h : state.workers[client]? = some worker) :
    state.waiting client = worker.request := by
  rw [waiting, h, Option.bind_some]

theorem waiting_put (state : X11CoreSocketServerState) (client other : UInt64) (worker : Worker) :
    (state.put client worker).waiting other =
      if other = client then worker.request else state.waiting other := by
  simp only [waiting, put, ExtTreeMap.getElem?_insert, Std.compare_eq_iff_eq, eq_comm (a := client)]
  split <;> rfl

theorem waiting_erase (state : X11CoreSocketServerState) (client other : UInt64) :
    (({ state with workers := state.workers.erase client } : X11CoreSocketServerState).waiting
      other) = if other = client then none else state.waiting other := by
  simp only [waiting, ExtTreeMap.getElem?_erase, Std.compare_eq_iff_eq, eq_comm (a := client)]
  split <;> rfl

theorem Accounted.identified (h : state.Accounted) : state.Identified := by
  have hall : ∀ response ∈ state.responses, ∀ id ∈ identities response,
      id = response.transaction := by
    intro response hresponse id hid
    rcases List.mem_cons.mp hid with rfl | hid
    · rfl
    · obtain ⟨surface, hsurface, rfl⟩ := List.mem_map.mp hid
      exact (h.carried response hresponse).1.2 surface hsurface
  constructor
  · intro response hresponse id hid
    rw [hall response hresponse id hid]
    exact (h.carried response hresponse).2.1
  · refine h.distinct.imp_of_mem fun {response other} hresponse hother hne id hid hid' => hne ?_
    rw [← hall response hresponse id hid, hall other hother id hid']

theorem accounted_new : new.Accounted where
  started := Nat.one_pos
  waiting := by
    have hnone : new.waiting = fun _ => none := by
      funext client
      simp [X11CoreSocketServerState.waiting, new]
    rw [hnone]
    exact .empty _
  carried := by simp [new]
  distinct := List.Pairwise.nil

/-- A step that answers nothing and loses no more than requests that wait. -/
theorem Accounted.quiet {next : X11CoreSocketServerState} {lost : List TransactionId}
    (h : state.Accounted) (hlost : Loses state.waiting next.waiting lost)
    (hresponses : next.responses = state.responses)
    (hcount : state.nextTransactionId.next.toNat ≤ next.nextTransactionId.next.toNat) :
    next.Accounted where
  started := Nat.lt_of_lt_of_le h.started hcount
  waiting := by
    refine h.waiting.lose hlost fun transaction _ hunused => ?_
    obtain ⟨hvalid, hlt, hnew⟩ := hunused
    exact ⟨hvalid, Nat.lt_of_lt_of_le hlt hcount, hresponses ▸ hnew⟩
  carried := by
    rw [hresponses]
    intro response hresponse
    obtain ⟨hcarries, hvalid, hlt⟩ := h.carried response hresponse
    exact ⟨hcarries, hvalid, Nat.lt_of_lt_of_le hlt hcount⟩
  distinct := hresponses ▸ h.distinct

theorem accounted_connect (h : state.Accounted) (ns : NamespaceId) (byteOrder : XByteOrder)
    (range : XWireClientResourceRange) : (state.connect client ns byteOrder range).Accounted := by
  unfold connect
  split
  · exact h
  · rename_i hnew
    refine h.quiet (.of_erased (k := client) fun other => ?_) rfl le_rfl
    rw [waiting_put]

theorem accounted_receive (h : state.Accounted) : (state.receive client).Accounted := by
  unfold receive
  split
  · rename_i worker transaction nextTransactionId hworker hnext
    obtain ⟨hraw, hcount⟩ := IdAllocator.nextId_eq_some hnext
    obtain ⟨hget, hidle⟩ := Option.filter_eq_some_iff.mp hworker
    refine ⟨?_, h.waiting.enter (k := client) (h := transaction) ?_ ?_ ?_ ?_, ?_, h.distinct⟩
    · change 0 < nextTransactionId.next.toNat
      omega
    · rintro ⟨-, hlt, -⟩
      rw [hraw] at hlt
      exact lt_irrefl _ hlt
    · refine ⟨?_, ?_, fun response hresponse he => ?_⟩
      · have hstarted := h.started
        simp only [SimpleId.isValid, hraw, bne_iff_ne, ne_eq]
        rintro hzero
        rw [hzero] at hstarted
        exact lt_irrefl _ hstarted
      · change transaction.raw.toNat < nextTransactionId.next.toNat
        rw [hraw]
        omega
      · have hlt := (h.carried response hresponse).2.2
        rw [he, hraw] at hlt
        exact lt_irrefl _ hlt
    · rintro other ⟨hvalid, hlt, hnew⟩
      refine ⟨hvalid, ?_, hnew⟩
      change other.raw.toNat < nextTransactionId.next.toNat
      omega
    · intro other found hfound
      rw [waiting_put] at hfound
      split at hfound
      · rename_i hsame
        cases hfound
        exact Or.inl ⟨hsame, rfl⟩
      · exact Or.inr hfound
    · intro response hresponse
      obtain ⟨hcarries, hvalid, hlt⟩ := h.carried response hresponse
      refine ⟨hcarries, hvalid, ?_⟩
      change response.transaction.raw.toNat < nextTransactionId.next.toNat
      omega
  · exact h

theorem accounted_refuse (h : state.Accounted) : (state.refuse client).Accounted := by
  unfold refuse
  cases hget : state.workers[client]? with
  | none => exact h
  | some worker =>
    refine h.quiet (.of_erased (k := client) fun other => ?_) rfl le_rfl
    exact waiting_put _ _ _ _

theorem accounted_close (h : state.Accounted) : (state.close client).Accounted := by
  unfold close
  split
  · exact h
  · refine h.quiet (.of_erased (k := client) fun other => waiting_erase state client other) rfl ?_
    dsimp only
    split
    · cases hnext : state.nextTransactionId.nextId with
      | none => exact le_rfl
      | some allocated =>
        obtain ⟨-, hcount⟩ := IdAllocator.nextId_eq_some hnext
        rw [Option.elim_some, hcount]
        exact Nat.le_succ _
    · exact le_rfl

/-- A response under the identity its request waited under is the first one under it. -/
theorem accounted_dispatch (h : state.Accounted) {majorOpcode : UInt8} {atoms : XAtomTable}
    {request : XWireRequest}
    (hown : state.OwnIdentity (.dispatch client majorOpcode atoms request)) :
    (state.dispatch client majorOpcode atoms request).Accounted := by
  unfold dispatch
  split
  · exact h
  rename_i worker hget
  split
  · exact h
  rename_i transaction hrequest
  have hwaiting : state.waiting client = some transaction := (waiting_of_get hget).trans hrequest
  obtain ⟨hvalid, hlt, hunused⟩ := h.waiting.live client transaction hwaiting
  have hcarries := (answered_own_iff state.runtime (worker.context majorOpcode)
    ⟨worker.byteOrder, atoms⟩ request transaction).mpr (hown worker hget transaction hrequest)
  generalize hanswer : dispatchX11WireRequest state.runtime (worker.context majorOpcode)
    ⟨worker.byteOrder, atoms⟩ (request.identified worker.namespaceId transaction) = answer
  obtain ⟨answered, runtime⟩ := answer
  rw [show (worker.context majorOpcode).namespaceId = worker.namespaceId from rfl, hanswer]
    at hcarries
  have hlost : Loses state.waiting (({ state with
      runtime, responses := state.responses ++ answered.toList } :
        X11CoreSocketServerState).put client { worker with request := none }).waiting
      [transaction] := by
    rw [← Option.toList_some, ← hwaiting]
    exact .of_erased fun other => waiting_put _ _ _ _
  refine ⟨h.started, ?_, ?_, ?_⟩
  · refine h.waiting.lose hlost fun other hother hold => ?_
    obtain ⟨hvalid, hlt, hnew⟩ := hold
    refine ⟨hvalid, hlt, fun response hresponse => ?_⟩
    rcases List.mem_append.mp hresponse with hresponse | hresponse
    · exact hnew response hresponse
    · rw [(hcarries response (Option.mem_toList.mp hresponse)).1]
      rintro rfl
      exact hother List.mem_cons_self
  · intro response hresponse
    rcases List.mem_append.mp hresponse with hresponse | hresponse
    · exact h.carried response hresponse
    · have hresponse := hcarries response (Option.mem_toList.mp hresponse)
      rw [hresponse.1]
      exact ⟨hresponse, hvalid, hlt⟩
  · refine List.pairwise_append.mpr ⟨h.distinct, ?_, ?_⟩
    · cases answered <;> simp
    · intro response hresponse other hother
      rw [(hcarries other (Option.mem_toList.mp hother)).1]
      exact hunused response hresponse

theorem accounted_step (h : state.Accounted) (action : ListenerAction)
    (hown : state.OwnIdentity action) : (state.step action).Accounted := by
  cases action with
  | connect client ns byteOrder range => exact accounted_connect h ns byteOrder range
  | receive client => exact accounted_receive h
  | refuse client => exact accounted_refuse h
  | dispatch client majorOpcode atoms request => exact accounted_dispatch h hown
  | close client => exact accounted_close h
  | engine calls => exact h.quiet (.refl _) rfl le_rfl

/-- As long as every request that is answered under its client's count of requests is at the
number the listener allocated for it, no two requests are answered under one identity. -/
theorem identified_of_own {actions : List ListenerAction}
    (h : Run.Guarded step OwnIdentity new actions) :
    (Run.exec step new actions).Identified := by
  have haccounted : (Run.exec step new actions).Accounted :=
    Run.invariant accounted_new (fun state action hown haccounted =>
      accounted_step haccounted action hown) h
  exact haccounted.identified

/-- A client of the range its number gives, its window, and the damage of one pixel. -/
def exampleRange (client : UInt32) : XWireClientResourceRange where
  base := client <<< 21
  mask := 0x1fffff

def exampleWindow (client : UInt32) : XResourceId := .new (client <<< 21).toUInt64 1

def exampleCreate (client : UInt32) : XWireRequest :=
  .createWindow
    { transaction := .fromRaw 0, namespaceId := .fromRaw 0
      kind := .createWindow (exampleWindow client) ⟨client <<< 21, 1⟩ ⟨0, 0, 1, 1⟩
        ⟨none, none⟩ 1 } 0 0 none none

def exampleSegment (client : UInt32) : XWireRequest :=
  .polySegment (exampleWindow client) [⟨0, 0, 1, 1⟩]

/-- A client connects, creates its window and draws in it. -/
def exampleClient (client : UInt32) : List ListenerAction :=
  [.connect client.toUInt64 (.fromRaw client.toUInt64) .littleEndian (exampleRange client),
    .receive client.toUInt64,
    .dispatch client.toUInt64 1 ⟨∅, ∅, 69⟩ (exampleCreate client),
    .receive client.toUInt64, .dispatch client.toUInt64 66 ⟨∅, ∅, 69⟩ (exampleSegment client)]

/-- The first client's own count is the listener's. -/
theorem identified_of_own_first : (Run.exec step new (exampleClient 1)).Identified :=
  identified_of_own (by decide +kernel)

/-- Two clients that draw second are answered under one identity. -/
theorem clients_share_identity :
    ¬ (Run.exec step new (exampleClient 1 ++ exampleClient 2)).Identified := by
  decide +kernel

end X11CoreSocketServerState
end Sophia.Authority.Listener
