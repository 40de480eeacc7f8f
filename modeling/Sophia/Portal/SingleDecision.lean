import Sophia.Lib.History
import Sophia.Portal.Transfers

/-! Each transfer of a portal is decided once and handed over at most once. -/
namespace Sophia.Portal

open Std Sophia.Protocol

inductive PortalKind where
  | clipboard
  | dragAndDrop
  | fileHandoff
  | screenCapture
  | uriOpen
  | notification
  deriving DecidableEq, Repr

namespace PortalKind

abbrev Request : PortalKind → Type
  | .clipboard => ClipboardTransferRequest
  | .dragAndDrop => DragAndDropTransferRequest
  | .fileHandoff => FileHandoffRequest
  | .screenCapture => ScreenCaptureRequest
  | .uriOpen => UriOpenRequest
  | .notification => NotificationRequest

def family : (kind : PortalKind) → PortalFamily kind.Request
  | .clipboard => clipboardFamily
  | .dragAndDrop => dragAndDropFamily
  | .fileHandoff => fileHandoffFamily
  | .screenCapture => screenCaptureFamily
  | .uriOpen => uriOpenFamily
  | .notification => notificationFamily

variable {kind : PortalKind} {id id' : PortalTransferId}

theorem decision_transfer (request : kind.Request) :
    (kind.family.transfer request).decision = .pending := by
  cases kind <;> rfl

theorem handoff_injective (h : kind.family.handoff id = kind.family.handoff id') : id = id' := by
  cases kind <;> cases h <;> rfl

theorem handoff_ne_prompt (transfer : PortalTransfer) :
    kind.family.prompt transfer ≠ kind.family.handoff id := by
  cases kind <;> exact fun h => by cases h

theorem handoff_ne_cancel : kind.family.cancel id' ≠ kind.family.handoff id := by
  cases kind <;> exact fun h => by cases h

end PortalKind

/-- The recorded decision about a transfer, once there is one. -/
def TransferPortal.decided {ρ : Type} {family : PortalFamily ρ} (portal : TransferPortal family)
    (id : PortalTransferId) : Option PortalDecision :=
  (portal.transfers[id]?.map (·.decision)).filter (· ≠ .pending)

inductive PortalOp (ρ : Type) where
  | request (request : ρ)
  | deny (transfer : PortalTransferId)
  | approveGeneration (transfer : PortalTransferId) (generation : UInt64)
  | sourceOwnerChanged (sourceNamespace : NamespaceId) (generation : UInt64)

/-- A portal and every command it has answered with. -/
structure PortalLog (kind : PortalKind) where
  portal : TransferPortal kind.family
  commands : List PortalCommand

namespace PortalLog

variable {kind : PortalKind} {log : PortalLog kind} {op : PortalOp kind.Request}
  {id : PortalTransferId} {state : PortalTransfer}

def new : PortalLog kind := ⟨.new, []⟩

/-- Keep the log when the operation is refused. -/
def answer (log : PortalLog kind)
    (result : Except PortalError (PortalCommand × TransferPortal kind.family)) : PortalLog kind :=
  match result with
  | .error _ => log
  | .ok (command, portal) => ⟨portal, log.commands ++ [command]⟩

def step (log : PortalLog kind) : PortalOp kind.Request → PortalLog kind
  | .request request => log.answer (log.portal.request request)
  | .deny transfer => log.answer (log.portal.deny transfer)
  | .approveGeneration transfer generation =>
    log.answer (log.portal.approveGeneration transfer generation)
  | .sourceOwnerChanged sourceNamespace generation =>
    let changed := log.portal.sourceOwnerChanged sourceNamespace generation
    ⟨changed.2, log.commands ++ changed.1⟩

/-- No transfer is handed over twice, and every decision taken so far still stands. -/
def SingleDecision (history : List (PortalOp kind.Request)) (log : PortalLog kind) : Prop :=
  (∀ id, log.commands.count (kind.family.handoff id) ≤ 1) ∧
    ∀ before rest, history = before ++ rest → ∀ id decision,
      (Run.exec step new before).portal.decided id = some decision →
        log.portal.decided id = some decision

/-- A request that passes validation does not reuse the id of a decided transfer. -/
def FreshRequest (log : PortalLog kind) : PortalOp kind.Request → Prop
  | .request request =>
    kind.family.validate request = .ok () →
      log.portal.decided (kind.family.transfer request).transfer = none
  | _ => True

/-- Whatever was handed over is recorded as allowed. -/
def HandoffsAllowed (log : PortalLog kind) : Prop :=
  ∀ id, kind.family.handoff id ∈ log.commands → log.portal.decided id = some .allowed

/-- What an operation can do to the portal. -/
inductive Does (log : PortalLog kind) : PortalOp kind.Request → PortalLog kind → Prop where
  | refused (op : PortalOp kind.Request) : Does log op log
  | requested (request : kind.Request) (h : kind.family.validate request = .ok ()) :
    Does log (.request request)
      ⟨⟨log.portal.transfers.insert (kind.family.transfer request).transfer
          (kind.family.transfer request)⟩,
        log.commands ++ [kind.family.prompt (kind.family.transfer request)]⟩
  | cancelled (op : PortalOp kind.Request) {id : PortalTransferId} {state : PortalTransfer}
      {decision : PortalDecision} (h : log.portal.transfers[id]? = some state)
      (hpending : state.decision = .pending) (hdecision : decision ≠ .pending) :
    Does log op ⟨log.portal.decide id state decision, log.commands ++ [kind.family.cancel id]⟩
  | handedOver (op : PortalOp kind.Request) {id : PortalTransferId} {state : PortalTransfer}
      (h : log.portal.transfers[id]? = some state) (hpending : state.decision = .pending) :
    Does log op ⟨log.portal.decide id state .allowed, log.commands ++ [kind.family.handoff id]⟩
  | revoked (sourceNamespace : NamespaceId) (generation : UInt64) :
    Does log (.sourceOwnerChanged sourceNamespace generation)
      ⟨(log.portal.sourceOwnerChanged sourceNamespace generation).2,
        log.commands ++ (log.portal.sourceOwnerChanged sourceNamespace generation).1⟩

theorem pendingTransfer_ok (h : log.portal.pendingTransfer id = .ok state) :
    log.portal.transfers[id]? = some state ∧ state.decision = .pending := by
  unfold TransferPortal.pendingTransfer at h
  cases hget : log.portal.transfers[id]? with
  | none => simp [hget] at h
  | some found =>
    simp only [hget] at h
    split at h
    · cases h
    · rename_i hpending
      cases h
      exact ⟨rfl, not_not.mp hpending⟩

theorem does_answer {result : Except PortalError (PortalCommand × TransferPortal kind.family)}
    (h : ∀ command portal, result = .ok (command, portal) →
      log.Does op ⟨portal, log.commands ++ [command]⟩) : log.Does op (log.answer result) := by
  cases result with
  | error error => exact .refused op
  | ok result => exact h result.1 result.2 rfl

theorem does_step (log : PortalLog kind) (op : PortalOp kind.Request) :
    log.Does op (log.step op) := by
  cases op with
  | request request =>
    refine does_answer fun command portal h => ?_
    simp only [TransferPortal.request, Fallible.bind_eq_ok, Fallible.pure_eq_ok] at h
    obtain ⟨_, hvalid, he⟩ := h
    cases he
    exact .requested request hvalid
  | deny transfer =>
    refine does_answer fun command portal h => ?_
    simp only [TransferPortal.deny, Fallible.bind_eq_ok, Fallible.pure_eq_ok] at h
    obtain ⟨state, hstate, he⟩ := h
    obtain ⟨hget, hpending⟩ := pendingTransfer_ok hstate
    cases he
    exact .cancelled _ hget hpending (by decide)
  | approveGeneration transfer generation =>
    refine does_answer fun command portal h => ?_
    simp only [TransferPortal.approveGeneration, Fallible.bind_eq_ok] at h
    obtain ⟨state, hstate, h⟩ := h
    obtain ⟨hget, hpending⟩ := pendingTransfer_ok hstate
    split at h
    · cases Fallible.pure_eq_ok.mp h
      exact .cancelled _ hget hpending (by decide)
    · cases Fallible.pure_eq_ok.mp h
      exact .handedOver _ hget hpending
  | sourceOwnerChanged sourceNamespace generation => exact .revoked sourceNamespace generation

variable {portal : TransferPortal kind.family} {decision : PortalDecision}

theorem decided_eq_some :
    portal.decided id = some decision ↔ ∃ state, portal.transfers[id]? = some state ∧
      state.decision = decision ∧ decision ≠ .pending := by
  unfold TransferPortal.decided
  rw [Option.filter_eq_some_iff]
  simp only [Option.map_eq_some_iff, decide_eq_true_eq]
  constructor
  · rintro ⟨⟨state, hget, hd⟩, hne⟩
    exact ⟨state, hget, hd, hne⟩
  · rintro ⟨state, hget, hd, hne⟩
    exact ⟨⟨state, hget, hd⟩, hne⟩

theorem decided_of_pending (h : portal.transfers[id]? = some state)
    (hpending : state.decision = .pending) : portal.decided id = none := by
  simp [TransferPortal.decided, h, hpending]

/-- A new record in the table is the one found under its id; the others stay. -/
theorem decided_insert (transfer : PortalTransferId) (state : PortalTransfer)
    (id : PortalTransferId) :
    (⟨portal.transfers.insert transfer state⟩ : TransferPortal kind.family).decided id =
      if transfer = id then (some state.decision).filter (· ≠ .pending)
      else portal.decided id := by
  unfold TransferPortal.decided
  simp only [ExtTreeMap.getElem?_insert, LawfulEqCmp.compare_eq_iff_eq]
  split <;> rfl

theorem decided_decide (hdecision : decision ≠ .pending) (transfer : PortalTransferId)
    (state : PortalTransfer) (id : PortalTransferId) :
    (portal.decide transfer state decision).decided id =
      if transfer = id then some decision else portal.decided id := by
  unfold TransferPortal.decide
  rw [decided_insert]
  split
  · simp [hdecision]
  · rfl

theorem decided_revoked {sourceNamespace : NamespaceId} {generation : UInt64}
    (h : portal.decided id = some decision) :
    (portal.sourceOwnerChanged sourceNamespace generation).2.decided id = some decision := by
  obtain ⟨state, hget, hd, hne⟩ := decided_eq_some.mp h
  rw [decided_eq_some]
  refine ⟨state, ?_, hd, hne⟩
  simp only [TransferPortal.sourceOwnerChanged, ExtTreeMap.getElem?_map, hget, Option.map_some]
  have hkept : TransferPortal.outdated sourceNamespace generation state = false := by
    simp [TransferPortal.outdated, hd, hne]
  rw [hkept]
  rfl

/-- An operation that reuses no decided id changes no decision. -/
theorem decided_does {log' : PortalLog kind} (h : log.Does op log') (hfresh : log.FreshRequest op)
    (hd : log.portal.decided id = some decision) : log'.portal.decided id = some decision := by
  cases h with
  | refused => exact hd
  | requested request hvalid =>
    have hnone := hfresh hvalid
    rw [decided_insert, if_neg]
    · exact hd
    · rintro rfl
      rw [hnone] at hd
      cases hd
  | cancelled op hget hpending hdecision =>
    rw [decided_decide hdecision, if_neg]
    · exact hd
    · rintro rfl
      rw [decided_of_pending hget hpending] at hd
      cases hd
  | handedOver op hget hpending =>
    rw [decided_decide (by decide), if_neg]
    · exact hd
    · rintro rfl
      rw [decided_of_pending hget hpending] at hd
      cases hd
  | revoked sourceNamespace generation => exact decided_revoked hd

/-- Only the hand-over of a pending transfer answers with its hand-off command. -/
theorem handoff_mem_does {log' : PortalLog kind} (h : log.Does op log')
    (hmem : kind.family.handoff id ∈ log'.commands) :
    kind.family.handoff id ∈ log.commands ∨
      log.portal.decided id = none ∧ log'.portal.decided id = some .allowed := by
  cases h with
  | refused => exact Or.inl hmem
  | requested request hvalid =>
    rcases List.mem_append.mp hmem with hmem | hmem
    · exact Or.inl hmem
    · exact absurd (List.mem_singleton.mp hmem).symm (PortalKind.handoff_ne_prompt _)
  | cancelled op hget hpending hdecision =>
    rcases List.mem_append.mp hmem with hmem | hmem
    · exact Or.inl hmem
    · exact absurd (List.mem_singleton.mp hmem).symm PortalKind.handoff_ne_cancel
  | handedOver op hget hpending =>
    rcases List.mem_append.mp hmem with hmem | hmem
    · exact Or.inl hmem
    · cases PortalKind.handoff_injective (List.mem_singleton.mp hmem)
      refine Or.inr ⟨decided_of_pending hget hpending, ?_⟩
      rw [decided_decide (by decide), if_pos rfl]
  | revoked sourceNamespace generation =>
    rcases List.mem_append.mp hmem with hmem | hmem
    · exact Or.inl hmem
    · simp only [TransferPortal.sourceOwnerChanged, List.mem_map] at hmem
      obtain ⟨state, -, he⟩ := hmem
      exact absurd he PortalKind.handoff_ne_cancel

/-- An operation adds at most one hand-off command, and none for what was handed over before. -/
theorem count_does {log' : PortalLog kind} (h : log.Does op log') (hallowed : log.HandoffsAllowed)
    (hcount : ∀ id, log.commands.count (kind.family.handoff id) ≤ 1) (id : PortalTransferId) :
    log'.commands.count (kind.family.handoff id) ≤ 1 := by
  have hone := hcount id
  cases h with
  | refused => exact hone
  | requested request hvalid =>
    rw [List.count_append, List.count_singleton]
    simpa [PortalKind.handoff_ne_prompt] using hone
  | cancelled op hget hpending hdecision =>
    rw [List.count_append, List.count_singleton]
    simpa [PortalKind.handoff_ne_cancel] using hone
  | @handedOver op transfer state hget hpending =>
    rw [List.count_append, List.count_singleton]
    by_cases he : transfer = id
    · subst he
      have hnot : kind.family.handoff transfer ∉ log.commands := by
        intro hmem
        have hd := hallowed transfer hmem
        rw [decided_of_pending hget hpending] at hd
        cases hd
      rw [List.count_eq_zero_of_not_mem hnot]
      split <;> omega
    · have hne : kind.family.handoff transfer ≠ kind.family.handoff id :=
        fun h => he (PortalKind.handoff_injective h)
      simpa [hne] using hone
  | revoked sourceNamespace generation =>
    have hnot : kind.family.handoff id ∉
        (log.portal.sourceOwnerChanged sourceNamespace generation).1 := by
      simp only [TransferPortal.sourceOwnerChanged, List.mem_map, not_exists, not_and]
      exact fun state _ => PortalKind.handoff_ne_cancel
    rw [List.count_append, List.count_eq_zero_of_not_mem hnot]
    exact hone

theorem handoffsAllowed_new : (new : PortalLog kind).HandoffsAllowed := by
  intro id hmem
  cases hmem

theorem singleDecision_new : SingleDecision [] (new : PortalLog kind) := by
  refine ⟨fun id => by simp [new], ?_⟩
  intro before rest he id decision hd
  rw [(List.append_eq_nil_iff.mp he.symm).1] at hd
  exact hd

theorem handoffsAllowed_step (hfresh : log.FreshRequest op) (h : log.HandoffsAllowed) :
    (log.step op).HandoffsAllowed := by
  intro id hmem
  rcases handoff_mem_does (does_step log op) hmem with hmem | ⟨-, hd⟩
  · exact decided_does (does_step log op) hfresh (h id hmem)
  · exact hd

theorem single_decision_step {history : List (PortalOp kind.Request)}
    (hfresh : (Run.exec step new history).FreshRequest op)
    (hallowed : (Run.exec step new history).HandoffsAllowed)
    (h : SingleDecision history (Run.exec step new history)) :
    SingleDecision (history ++ [op]) ((Run.exec step new history).step op) := by
  refine ⟨count_does (does_step _ op) hallowed h.1, ?_⟩
  intro before rest he id decision hd
  rcases List.eq_nil_or_concat rest with rfl | ⟨rest, last, rfl⟩
  · rw [List.append_nil] at he
    rw [← he, Run.exec_snoc] at hd
    exact hd
  · have he : history ++ [op] = (before ++ rest) ++ [last] := by simpa using he
    obtain ⟨hhistory, -⟩ := List.append_inj' he rfl
    exact decided_does (does_step _ op) hfresh (h.2 before rest hhistory id decision hd)

/-- Each transfer is decided once and handed over at most once, along a whole run, exactly when
no accepted request of the run reuses the id of a decided transfer. -/
theorem single_decision_iff (kind : PortalKind) (ops : List (PortalOp kind.Request)) :
    Run.Throughout step SingleDecision (new : PortalLog kind) ops ↔
      Run.Guarded step FreshRequest new ops := by
  constructor
  · intro h before op rest he
    cases op with
    | request request =>
      intro hvalid
      by_contra hdecided
      obtain ⟨decision, hd⟩ := Option.ne_none_iff_exists'.mp hdecided
      have hkept := (h (before ++ [.request request]) rest (by simp [he])).2 before [_] rfl _ _ hd
      rw [Run.exec_snoc] at hkept
      have hok : (Run.exec step new before).portal.request request =
          .ok (kind.family.prompt (kind.family.transfer request),
            ⟨(Run.exec step new before).portal.transfers.insert
              (kind.family.transfer request).transfer (kind.family.transfer request)⟩) := by
        simp [TransferPortal.request, hvalid, bind, Except.bind, pure, Except.pure]
      simp only [step, answer, hok, decided_insert, if_pos, PortalKind.decision_transfer] at hkept
      cases hkept
    | _ => trivial
  · intro h before rest he
    rw [he] at h
    have hinv := Run.history_induction (s := (new : PortalLog kind))
      (P := fun history log => log.HandoffsAllowed ∧ SingleDecision history log)
      ⟨handoffsAllowed_new, singleDecision_new⟩
      (fun before op hg hp => ⟨handoffsAllowed_step hg.last hp.1,
        single_decision_step hg.last hp.1 hp.2⟩) h.left
    exact hinv.2

/-- A clipboard transfer that is requested and approved, and then requested again. -/
def reusedTransfer : List (PortalOp ClipboardTransferRequest) :=
  [.request ⟨⟨1⟩, ⟨10⟩, ⟨20⟩, .atom "UTF8_STRING", 6, 7⟩, .approveGeneration ⟨1⟩ 7,
    .request ⟨⟨1⟩, ⟨10⟩, ⟨20⟩, .atom "UTF8_STRING", 6, 7⟩, .approveGeneration ⟨1⟩ 7]

/-- The second request makes the allowed transfer pending, and it is handed over again. -/
theorem reused_transfer_handed_over_twice :
    ¬ Run.Throughout step SingleDecision (new : PortalLog .clipboard) reusedTransfer := by
  intro h
  have honce := (h reusedTransfer [] (by simp)).1 ⟨1⟩
  revert honce
  decide +kernel

end PortalLog
end Sophia.Portal
