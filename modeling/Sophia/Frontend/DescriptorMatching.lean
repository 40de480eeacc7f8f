import Sophia.Frontend.RequestDescriptors

/-! Which descriptors reach which request, against what the client sent for each. -/
namespace Sophia.Frontend

open Protocol Authority Session

variable {φ : Type}

/-- A request together with the descriptors the client sent for it. -/
structure SentRequest (φ : Type) extends SocketRequest φ where
  own : List φ
  deriving DecidableEq

/-- The descriptors attached to the bytes of a request. -/
def SentRequest.fds (sent : SentRequest φ) : List φ := sent.headerFds ++ sent.payloadFds

def arrived (requests : List (SentRequest φ)) : List φ := requests.flatMap (·.fds)

def sentFor (requests : List (SentRequest φ)) : List φ := requests.flatMap (·.own)

theorem arrived_snoc (requests : List (SentRequest φ)) (request : SentRequest φ) :
    arrived (requests ++ [request]) = arrived requests ++ request.fds := by simp [arrived]

theorem sentFor_snoc (requests : List (SentRequest φ)) (request : SentRequest φ) :
    sentFor (requests ++ [request]) = sentFor requests ++ request.own := by simp [sentFor]

variable (decode : List UInt8 → Except XWireParseError XWireRequest)

/-- The descriptors of a decodable request, as the loop should hand them over. -/
def SentRequest.handed (request : SentRequest φ) : List (List UInt8 × List φ) :=
  match decode request.bytes with
  | .ok _ => [(request.bytes, request.own)]
  | .error _ => []

/-- A client that sends each decodable request's descriptors at or before that request, on a
stream that keeps their order, with never more than the limit outstanding. -/
structure FdStream (requests : List (SentRequest φ)) : Prop where
  required : ∀ sent ∈ requests, ∀ request ∈ (decode sent.bytes).toOption,
    sent.own.length = request.requiredFdCount
  placed : Run.Each (fun before sent => sentFor (before ++ [sent]) <+: arrived (before ++ [sent]))
    requests
  bounded : Run.Each (fun before sent => (arrived (before ++ [sent])).length ≤
    (sentFor before).length + maxPendingRequestFds) requests
  distinct : (arrived requests).Nodup

def RequestLoop.observe (state : Except String (RequestLoop φ)) (sent : SentRequest φ) :
    Except String (RequestLoop φ) :=
  RequestLoop.step decode state sent.toSocketRequest

/-- Every decoded request was handed what was sent for it, and what arrived besides is pending. -/
def Matched (before : List (SentRequest φ)) (state : Except String (RequestLoop φ)) : Prop :=
  ∃ loop, state = .ok loop ∧ loop.handed = before.flatMap (SentRequest.handed decode) ∧
    arrived before = sentFor before ++ loop.pendingRequestFds

/-- A header carries no more descriptors than one read takes. Behind the header of a decodable
request there are none; those of an undecodable one are its own, with no others outstanding. -/
def Separable (before : List (SentRequest φ)) (sent : SentRequest φ) : Prop :=
  sent.headerFds.length ≤ dmaBufMaxPlanes ∧
    ((decode sent.bytes).isOk → sent.payloadFds = []) ∧
    (¬ (decode sent.bytes).isOk →
      sent.fds = sent.own ∧ (sent.own = [] ∨ arrived before = sentFor before))

instance [DecidableEq φ] (before : List (SentRequest φ)) :
    DecidablePred (Separable decode before) := fun sent =>
  inferInstanceAs (Decidable (sent.headerFds.length ≤ dmaBufMaxPlanes ∧
    ((decode sent.bytes).isOk → sent.payloadFds = []) ∧
    (¬ (decode sent.bytes).isOk →
      sent.fds = sent.own ∧ (sent.own = [] ∨ arrived before = sentFor before))))

/-- Distinct elements keep their places only if nothing is put before them. -/
theorem append_eq_append_left_iff {pending fds own : List φ} (h : (pending ++ fds).Nodup) :
    pending ++ fds = own ++ pending ↔ fds = own ∧ (own = [] ∨ pending = []) := by
  constructor
  · intro he
    cases own with
    | nil =>
      have hfds : fds = [] := List.append_right_eq_self.mp he
      exact ⟨hfds, Or.inl rfl⟩
    | cons a own =>
      cases pending with
      | nil => exact ⟨by simpa using he, Or.inr rfl⟩
      | cons b pending =>
        obtain rfl : b = a := (List.cons.inj he).1
        rw [he] at h
        have ha := (List.nodup_cons.mp h).1
        exact (ha (by simp)).elim
  · rintro ⟨rfl, rfl | rfl⟩ <;> simp

variable {decode}

theorem receive_decoded {loop : RequestLoop φ} {received : X11ReceivedCoreRequest φ}
    {request : XWireRequest} {own rest : List φ} (hdecode : decode received.bytes = .ok request)
    (hown : own.length = request.requiredFdCount)
    (hpending : loop.pendingRequestFds ++ received.fds = own ++ rest)
    (hbound : (loop.pendingRequestFds ++ received.fds).length ≤ maxPendingRequestFds) :
    loop.receive decode received =
      .ok ⟨rest, loop.handed ++ [(received.bytes, own)]⟩ := by
  have hmin : min request.requiredFdCount (own ++ rest).length = own.length := by
    rw [List.length_append]
    omega
  rw [hpending] at hbound
  simp only [RequestLoop.receive, hdecode, hpending, hmin, List.take_left, List.drop_left]
  rw [if_neg (Nat.not_lt.mpr hbound), if_neg (by simp [hown])]

theorem receive_undecoded {loop : RequestLoop φ} {received : X11ReceivedCoreRequest φ}
    {error : XWireParseError} (hdecode : decode received.bytes = .error error) :
    loop.receive decode received = .ok loop := by
  simp only [RequestLoop.receive, hdecode]

/-- What a decoded request is handed is taken off the front of what is pending. -/
theorem receive_hands {loop next : RequestLoop φ} {received : X11ReceivedCoreRequest φ}
    {request : XWireRequest} (hdecode : decode received.bytes = .ok request)
    (h : loop.receive decode received = .ok next) :
    ∃ taken, next.handed = loop.handed ++ [(received.bytes, taken)] ∧
      loop.pendingRequestFds ++ received.fds = taken ++ next.pendingRequestFds := by
  simp only [RequestLoop.receive, hdecode] at h
  split at h
  · cases h
  · split at h
    · cases h
    · cases h
      exact ⟨_, rfl, (List.take_append_drop _ _).symm⟩

theorem observe_ok (loop : RequestLoop φ) {sent : SentRequest φ}
    (h : sent.headerFds.length ≤ dmaBufMaxPlanes) :
    RequestLoop.observe decode (.ok loop) sent =
      loop.receive decode ⟨sent.bytes, sent.headerFds⟩ := by
  simp only [RequestLoop.observe, RequestLoop.step, readX11CoreRequest, Except.bind]
  rw [if_neg (Nat.not_lt.mpr h)]

theorem observe_too_many (loop : RequestLoop φ) {sent : SentRequest φ}
    (h : dmaBufMaxPlanes < sent.headerFds.length) :
    ∃ error, RequestLoop.observe decode (.ok loop) sent = .error error := by
  simp only [RequestLoop.observe, RequestLoop.step, readX11CoreRequest, Except.bind]
  rw [if_pos h]
  exact ⟨_, rfl⟩

section Step

variable {before : List (SentRequest φ)} {sent : SentRequest φ} {loop : RequestLoop φ}

theorem matched_decoded {request : XWireRequest} (hdecode : decode sent.bytes = .ok request)
    (hown : sent.own.length = request.requiredFdCount)
    (hplaced : sentFor (before ++ [sent]) <+: arrived (before ++ [sent]))
    (hbound : (arrived (before ++ [sent])).length ≤
      (sentFor before).length + maxPendingRequestFds)
    (hhanded : loop.handed = before.flatMap (SentRequest.handed decode))
    (harrived : arrived before = sentFor before ++ loop.pendingRequestFds) :
    Matched decode (before ++ [sent]) (loop.receive decode ⟨sent.bytes, sent.headerFds⟩) ↔
      sent.payloadFds = [] := by
  have hnext : (before ++ [sent]).flatMap (SentRequest.handed decode) =
      loop.handed ++ [(sent.bytes, sent.own)] := by
    rw [hhanded, List.flatMap_append, List.flatMap_singleton, SentRequest.handed, hdecode]
  constructor
  · rintro ⟨next, hok, hhands, hkept⟩
    obtain ⟨taken, htaken, hfront⟩ := receive_hands hdecode hok
    have hsame : taken = sent.own := by
      rw [htaken, hnext] at hhands
      simpa using hhands
    rw [arrived_snoc, sentFor_snoc, harrived, List.append_assoc, List.append_assoc,
      SentRequest.fds, ← List.append_assoc loop.pendingRequestFds, hfront, hsame] at hkept
    exact List.append_right_eq_self.mp (List.append_cancel_left hkept)
  · intro hpayload
    have hfds : sent.fds = sent.headerFds := by rw [SentRequest.fds, hpayload, List.append_nil]
    obtain ⟨rest, hrest⟩ := hplaced
    rw [sentFor_snoc, arrived_snoc, harrived, List.append_assoc, List.append_assoc, hfds] at hrest
    have hpending : loop.pendingRequestFds ++ sent.headerFds = sent.own ++ rest :=
      (List.append_cancel_left hrest).symm
    rw [arrived_snoc, harrived, List.append_assoc, List.length_append, hfds] at hbound
    have hroom : (loop.pendingRequestFds ++ sent.headerFds).length ≤ maxPendingRequestFds := by
      omega
    refine ⟨_, receive_decoded hdecode hown hpending hroom, hnext.symm, ?_⟩
    rw [arrived_snoc, sentFor_snoc, harrived, hfds, List.append_assoc, List.append_assoc, hpending]

theorem matched_undecoded {error : XWireParseError} (hdecode : decode sent.bytes = .error error)
    (hdistinct : (arrived (before ++ [sent])).Nodup)
    (hhanded : loop.handed = before.flatMap (SentRequest.handed decode))
    (harrived : arrived before = sentFor before ++ loop.pendingRequestFds) :
    Matched decode (before ++ [sent]) (loop.receive decode ⟨sent.bytes, sent.headerFds⟩) ↔
      sent.fds = sent.own ∧ (sent.own = [] ∨ arrived before = sentFor before) := by
  have hnone : arrived before = sentFor before ↔ loop.pendingRequestFds = [] := by
    rw [harrived]
    exact List.append_right_eq_self
  have hnodup : (loop.pendingRequestFds ++ sent.fds).Nodup := by
    rw [arrived_snoc, harrived, List.append_assoc] at hdistinct
    exact (List.nodup_append.mp hdistinct).2.1
  have harrive : arrived (before ++ [sent]) = sentFor (before ++ [sent]) ++
      loop.pendingRequestFds ↔
        loop.pendingRequestFds ++ sent.fds = sent.own ++ loop.pendingRequestFds := by
    rw [arrived_snoc, sentFor_snoc, harrived, List.append_assoc, List.append_assoc]
    exact List.append_right_inj _
  have hloop : loop.receive decode ⟨sent.bytes, sent.headerFds⟩ = .ok loop :=
    receive_undecoded hdecode
  rw [hnone, ← append_eq_append_left_iff hnodup, hloop, ← harrive]
  constructor
  · rintro ⟨next, hok, -, hkept⟩
    cases hok
    exact hkept
  · intro hkept
    refine ⟨loop, rfl, ?_, hkept⟩
    rw [hhanded, List.flatMap_append, List.flatMap_singleton, SentRequest.handed, hdecode,
      List.append_nil]

theorem matched_step {requests after : List (SentRequest φ)}
    {state : Except String (RequestLoop φ)} (hstream : FdStream decode requests)
    (he : requests = before ++ sent :: after) (h : Matched decode before state) :
    Matched decode (before ++ [sent]) (RequestLoop.observe decode state sent) ↔
      Separable decode before sent := by
  obtain ⟨loop, rfl, hhanded, harrived⟩ := h
  rcases Nat.lt_or_ge dmaBufMaxPlanes sent.headerFds.length with hmany | hfew
  · obtain ⟨error, hread⟩ := @observe_too_many _ decode loop _ hmany
    rw [hread]
    refine iff_of_false ?_ (fun hsep => Nat.not_lt.mpr hsep.1 hmany)
    rintro ⟨_, hok, -⟩
    cases hok
  · rw [observe_ok loop hfew]
    cases hdecode : decode sent.bytes with
    | ok request =>
      have hown := hstream.required sent (by simp [he]) request (by simp [hdecode, Except.toOption])
      have hisOk : (decode sent.bytes).isOk = true := by rw [hdecode]; rfl
      rw [matched_decoded hdecode hown (hstream.placed before sent after he)
        (hstream.bounded before sent after he) hhanded harrived]
      exact ⟨fun hnone => ⟨hfew, fun _ => hnone, fun hnot => absurd hisOk hnot⟩,
        fun hsep => hsep.2.1 hisOk⟩
    | error error =>
      have hdistinct : (arrived (before ++ [sent])).Nodup := by
        have hall : arrived requests = arrived (before ++ [sent]) ++ arrived after := by
          simp [he, arrived]
        exact (List.nodup_append.mp (hall ▸ hstream.distinct)).1
      have hnotOk : ¬ (decode sent.bytes).isOk = true := by rw [hdecode]; exact Bool.false_ne_true
      rw [matched_undecoded hdecode hdistinct hhanded harrived]
      exact ⟨fun hsep => ⟨hfew, fun hok => absurd hok hnotOk, fun _ => hsep⟩,
        fun hsep => hsep.2.2 hnotOk⟩

end Step

/-- All along the stream every decodable request is handed exactly its own descriptors if and only
if the descriptors attached to each request are separable from the others'. -/
theorem descriptors_matched_iff {requests : List (SentRequest φ)}
    (hstream : FdStream decode requests) :
    Run.Throughout (RequestLoop.observe decode) (Matched decode) (.ok {}) requests ↔
      Run.Each (Separable decode) requests := by
  have hguarded : Run.Throughout (RequestLoop.observe decode) (Matched decode) (.ok {}) requests ↔
      Run.GuardedBy (RequestLoop.observe decode) (fun before _ => Separable decode before) (.ok {})
        requests :=
    Run.throughout_iff ⟨{}, rfl, rfl, rfl⟩ fun _ _ _ he h => matched_step hstream he h
  exact hguarded

def exampleContext : XWireClientContext where
  byteOrder := .littleEndian
  namespaceId := .fromRaw 1
  transaction := .fromRaw 1
  resourceIdRange := some ⟨0x200000, 0x1fffff⟩

/-- Besides the descriptor requests, only `FreePixmap`. -/
def exampleDecode (bytes : List UInt8) : Except XWireParseError XWireRequest :=
  decodeX11CoreRequest exampleContext bytes fun context bytes =>
    if bytes.getD 0 0 = 54 then
      (requireExactLen bytes 54 8).map fun _ => .freePixmap (context.resource bytes 4)
    else .error (.unknownOpcode (bytes.getD 0 0))

def noOperation : List UInt8 := [127, 0, 1, 0]

def freePixmap : List UInt8 := [54, 0, 2, 0, 1, 0, 32, 0]

def fenceFromFd : List UInt8 := [137, 4, 4, 0, 2, 0, 32, 0, 3, 0, 32, 0, 1, 0, 0, 0]

/-- The fence's descriptor comes early, with a request that can be decoded. -/
def carriedEarly : List (SentRequest ℕ) :=
  [⟨⟨noOperation, [], []⟩, []⟩, ⟨⟨freePixmap, [7], []⟩, []⟩,
    ⟨⟨fenceFromFd, [], []⟩, [7]⟩]

theorem descriptors_matched_early :
    Run.Throughout (RequestLoop.observe exampleDecode) (Matched exampleDecode) (.ok {})
      carriedEarly :=
  (descriptors_matched_iff ⟨by decide, by decide, by decide, by decide⟩).mpr (by decide)

/-- The fence's descriptor comes early, with a request that cannot be decoded. -/
def carriedByUndecodable : List (SentRequest ℕ) :=
  [⟨⟨noOperation, [7], []⟩, []⟩, ⟨⟨fenceFromFd, [], []⟩, [7]⟩]

theorem descriptor_lost_with_undecodable :
    FdStream exampleDecode carriedByUndecodable ∧
      ¬ Run.Throughout (RequestLoop.observe exampleDecode) (Matched exampleDecode) (.ok {})
        carriedByUndecodable := by
  refine ⟨⟨by decide, by decide, by decide, by decide⟩, fun h => ?_⟩
  obtain ⟨loop, hok, -⟩ := h carriedByUndecodable [] rfl
  have hend : (Run.exec (RequestLoop.observe exampleDecode) (.ok {}) carriedByUndecodable).isOk =
      false := by decide
  rw [hok] at hend
  cases hend

end Sophia.Frontend
