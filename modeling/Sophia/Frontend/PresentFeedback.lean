import Sophia.Frontend.PresentRoutes
import Sophia.Lib.History

/-! Each presentation completes at most once and then turns idle at most once. -/
namespace Sophia.Frontend

open Std Sophia.Protocol Sophia.Authority

namespace PresentAction

/-- The call queues this presentation. -/
def queues (action : PresentAction) (transaction : TransactionId) (presentation : XPendingPresent) :
    Prop :=
  action = .queuePresent transaction presentation.client presentation.window presentation.pixmap
    presentation.serial presentation.idleFence

def queuedTransaction : PresentAction → Option TransactionId
  | .queuePresent transaction _ _ _ _ _ => some transaction
  | _ => none

end PresentAction

/-- Some call of the run queued the presentation. -/
def QueuedBy (actions : List PresentAction) (transaction : TransactionId)
    (presentation : XPendingPresent) : Prop :=
  ∃ action ∈ actions, action.queues transaction presentation

abbrev PendingTable := ExtTreeMap TransactionId XPendingPresent
abbrev WorkerTable := ExtTreeMap XServerFrontendClientId PresentWorker

namespace PresentRound

/-- The round as its first critical section made it. -/
def origin (round : PresentRound) : PresentRound :=
  .start round.transaction round.presentation round.feedback

end PresentRound

namespace PresentSession

def pending (session : PresentSession) : PendingTable := session.routes.pendingPresentations

def origins (session : PresentSession) : List PresentRound :=
  session.rounds.map PresentRound.origin

def pendingOf (pending : PendingTable) (client : XServerFrontendClientId) : ℕ :=
  Users.count pending fun presentation => presentation.client = client

/-- What an action does to the pending table, the workers and the rounds begun so far. -/
inductive Effect (capacity : ℕ) (pending : PendingTable) (workers : WorkerTable)
    (origins : List PresentRound) :
    PresentAction → PendingTable → WorkerTable → List PresentRound → Prop where
  | quiet {action : PresentAction} : Effect capacity pending workers origins action pending workers origins
  | registered {client : XServerFrontendClientId} (new : client ∉ workers) :
      Effect capacity pending workers origins (.registerClient client) pending
        (workers.insert client .running) origins
  | queued {action : PresentAction} {transaction : TransactionId} {presentation : XPendingPresent}
      (queues : action.queues transaction presentation) (fresh : presentation.completed = false)
      (running : workers[presentation.client]? = some .running)
      (room : pendingOf pending presentation.client < capacity) :
      Effect capacity pending workers origins action (pending.insert transaction presentation)
        workers origins
  | suspended {action : PresentAction} {transaction : TransactionId}
      {presentation : XPendingPresent} (queues : action.queues transaction presentation)
      (fresh : presentation.completed = false)
      (running : workers[presentation.client]? = some .running) :
      Effect capacity pending workers origins action pending
        (workers.insert presentation.client (.waiting transaction presentation)) origins
  | resumed {client : XServerFrontendClientId} {timedOut : Bool} {transaction : TransactionId}
      {presentation : XPendingPresent}
      (waiting : workers[client]? = some (.waiting transaction presentation))
      (room : pendingOf pending client < capacity) :
      Effect capacity pending workers origins (.wake client timedOut)
        (pending.insert transaction presentation) (workers.insert client .running) origins
  | abandoned {client : XServerFrontendClientId} {timedOut : Bool} {transaction : TransactionId}
      {presentation : XPendingPresent}
      (waiting : workers[client]? = some (.waiting transaction presentation)) :
      Effect capacity pending workers origins (.wake client timedOut) pending
        (workers.insert client .running) origins
  | cancelled {transaction : TransactionId} :
      Effect capacity pending workers origins (.cancelPresent transaction)
        (pending.erase transaction) workers origins
  | completed {action : PresentAction} {transaction : TransactionId}
      {presentation : XPendingPresent} {feedback : PresentFeedback}
      (other : action.queuedTransaction = none) (kind : feedback.isIdle = false)
      (found : pending[transaction]? = some presentation)
      (incomplete : presentation.completed = false) :
      Effect capacity pending workers origins action
        (pending.insert transaction { presentation with completed := true }) workers
        (origins ++ [.start transaction { presentation with completed := true } feedback])
  | idled {action : PresentAction} {transaction : TransactionId} {presentation : XPendingPresent}
      (other : action.queuedTransaction = none)
      (found : pending[transaction]? = some presentation)
      (complete : presentation.completed = true) :
      Effect capacity pending workers origins action (pending.erase transaction) workers
        (origins ++ [.start transaction presentation .idle])
  | disconnected {client : XServerFrontendClientId} :
      Effect capacity pending workers origins (.disconnect client)
        (pending.filter fun _ presentation => presentation.client ≠ client) (workers.erase client)
        origins

variable {session : PresentSession} {client : XServerFrontendClientId}

theorem running_iff : session.running client = true ↔ session.workers[client]? = some .running := by
  simp [running]

theorem not_atCapacity {routes : PresentRoutes} (h : routes.atCapacity client = false) :
    pendingOf routes.pendingPresentations client < routes.perClientQueueCapacity := by
  have hlt := of_decide_eq_false h
  exact Nat.lt_of_not_le hlt

theorem origins_set {n : ℕ} {round round' : PresentRound} (hround : session.rounds[n]? = some round)
    (horigin : round'.origin = round.origin) :
    (session.rounds.set n round').map PresentRound.origin = session.origins := by
  rw [List.map_set, horigin, origins]
  apply List.ext_getElem?
  intro i
  rw [List.getElem?_set, List.getElem?_map]
  split
  · rename_i hi
    subst hi
    obtain ⟨hlt, hget⟩ := List.getElem?_eq_some_iff.mp hround
    simp [hlt, hget]
  · rfl

theorem routeProtocol_pending (routes : PresentRoutes) (client : XServerFrontendClientId)
    (event : PresentEvent) :
    (routes.routeProtocol client event).2.pendingPresentations = routes.pendingPresentations ∧
      (routes.routeProtocol client event).2.perClientQueueCapacity =
        routes.perClientQueueCapacity := by
  rw [PresentRoutes.routeProtocol]
  split
  · exact ⟨rfl, rfl⟩
  split <;> exact ⟨rfl, rfl⟩

theorem queuePresent_effect {transaction : TransactionId} {presentation : XPendingPresent}
    {action : PresentAction} (hqueues : action.queues transaction presentation)
    (hfresh : presentation.completed = false)
    (hrunning : session.workers[presentation.client]? = some .running) :
    let next := session.queuePresent transaction presentation
    Effect session.routes.perClientQueueCapacity session.pending session.workers session.origins
      action next.pending next.workers next.origins := by
  intro next
  show Effect _ _ _ _ action (session.queuePresent transaction presentation).pending
    (session.queuePresent transaction presentation).workers
    (session.queuePresent transaction presentation).origins
  rw [queuePresent]
  split
  · exact .quiet
  · cases hcapacity : session.routes.atCapacity presentation.client with
    | true => exact .suspended hqueues hfresh hrunning
    | false => exact .queued hqueues hfresh hrunning (not_atCapacity hcapacity)

theorem wake_effect (timedOut : Bool) :
    Effect session.routes.perClientQueueCapacity session.pending session.workers session.origins
      (.wake client timedOut) (session.wake client timedOut).pending
      (session.wake client timedOut).workers (session.wake client timedOut).origins := by
  rw [wake]
  split
  · rename_i transaction presentation hwaiting
    cases hcapacity : session.routes.atCapacity client with
    | true =>
      cases timedOut with
      | true => exact .abandoned hwaiting
      | false => exact .quiet
    | false => exact .resumed hwaiting (not_atCapacity hcapacity)
  · exact .quiet

theorem complete_effect {action : PresentAction} {transaction : TransactionId}
    {feedback : PresentFeedback} (hother : action.queuedTransaction = none)
    (hkind : feedback.isIdle = false) :
    let next := session.beginRound transaction feedback (session.routes.markComplete transaction)
    Effect session.routes.perClientQueueCapacity session.pending session.workers session.origins
      action next.pending next.workers next.origins := by
  dsimp only
  rw [PresentRoutes.markComplete]
  split
  · exact .quiet
  · rename_i presentation hfound
    cases hcompleted : presentation.completed with
    | true => exact .quiet
    | false =>
      simp only [Bool.false_eq_true, if_false, beginRound, pending, origins, List.map_append,
        List.map_singleton]
      exact .completed hother hkind hfound hcompleted

theorem idle_effect {action : PresentAction} {transaction : TransactionId}
    (hother : action.queuedTransaction = none) :
    let next := session.beginRound transaction .idle (session.routes.takeIdle transaction)
    Effect session.routes.perClientQueueCapacity session.pending session.workers session.origins
      action next.pending next.workers next.origins := by
  dsimp only
  rw [PresentRoutes.takeIdle]
  split
  · exact .quiet
  · rename_i presentation hfound
    cases hcompleted : presentation.completed with
    | false => exact .quiet
    | true =>
      simp only [Bool.not_true, Bool.false_eq_true, if_false, beginRound, pending, origins,
        List.map_append, List.map_singleton]
      exact .idled hother hfound hcompleted

theorem collect_quiet (n : ℕ) : (session.collect n).pending = session.pending ∧
    (session.collect n).workers = session.workers ∧ (session.collect n).origins = session.origins := by
  rw [collect]
  split
  · exact ⟨rfl, rfl, rfl⟩
  · rename_i round hround
    split
    · exact ⟨rfl, rfl, rfl⟩
    · exact ⟨rfl, rfl, origins_set hround rfl⟩

theorem deliver_quiet (n : ℕ) : (session.deliver n).pending = session.pending ∧
    (session.deliver n).workers = session.workers ∧ (session.deliver n).origins = session.origins := by
  rw [deliver]
  split
  · exact ⟨rfl, rfl, rfl⟩
  rename_i round hround
  split
  · exact ⟨rfl, rfl, rfl⟩
  rename_i subscription hnext
  have hpending := (routeProtocol_pending session.routes round.presentation.client
    (round.event subscription)).1
  split
  · rename_i routes hroute
    rw [hroute] at hpending
    exact ⟨hpending, rfl, origins_set hround rfl⟩
  · rename_i routes hroute
    rw [hroute] at hpending
    exact ⟨hpending, rfl, origins_set hround rfl⟩

theorem modifyQueue_quiet (f : RouteQueue PresentEvent → RouteQueue PresentEvent) :
    (session.modifyQueue client f).pending = session.pending ∧
      (session.modifyQueue client f).workers = session.workers ∧
      (session.modifyQueue client f).origins = session.origins := by
  rw [modifyQueue]
  split <;> exact ⟨rfl, rfl, rfl⟩

theorem effect_of_quiet {capacity : ℕ} {action : PresentAction} {next : PresentSession}
    (h : next.pending = session.pending ∧ next.workers = session.workers ∧
      next.origins = session.origins) :
    Effect capacity session.pending session.workers session.origins action next.pending next.workers
      next.origins := by
  rw [h.1, h.2.1, h.2.2]
  exact .quiet

theorem step_effect (session : PresentSession) (action : PresentAction) :
    Effect session.routes.perClientQueueCapacity session.pending session.workers session.origins
      action (session.step action).pending (session.step action).workers
      (session.step action).origins := by
  cases action with
  | registerClient client =>
    rw [step, registerClient]
    split
    · exact .quiet
    · rename_i hnew
      rw [PresentRoutes.registerClient]
      split
      · exact .quiet
      · rename_i routes hroutes
        split at hroutes
        · cases hroutes
        · cases hroutes
          exact .registered hnew
  | registerSurface client namespaceId surface window =>
    rw [step, byWorker]
    split <;> exact .quiet
  | receive client n => exact effect_of_quiet (modifyQueue_quiet _)
  | hangUp client => exact effect_of_quiet (modifyQueue_quiet _)
  | selectPresentInput client eventId window mask =>
    rw [step, byWorker]
    split <;> exact .quiet
  | queuePresent transaction client window pixmap serial idleFence =>
    rw [step, byWorker]
    split
    · rename_i hrunning
      exact queuePresent_effect rfl rfl (running_iff.mp hrunning)
    · exact .quiet
  | wake client timedOut => exact wake_effect timedOut
  | cancelPresent transaction => exact .cancelled
  | routePresentComplete transaction ust msc mode => exact complete_effect rfl rfl
  | routePresentIdle transaction => exact idle_effect rfl
  | collect n => exact effect_of_quiet (collect_quiet n)
  | deliver n => exact effect_of_quiet (deliver_quiet n)
  | disconnect client =>
    rw [step, byWorker]
    split
    · exact .disconnected
    · exact .quiet

theorem step_capacity (session : PresentSession) (action : PresentAction) :
    (session.step action).routes.perClientQueueCapacity = session.routes.perClientQueueCapacity := by
  cases action with
  | registerClient client =>
    rw [step, registerClient, PresentRoutes.registerClient]
    split
    · rfl
    · split
      · rfl
      · rename_i hroutes
        split at hroutes
        · cases hroutes
        · cases hroutes
          rfl
  | registerSurface client namespaceId surface window =>
    rw [step, byWorker]
    split <;> rfl
  | receive client n =>
    rw [step, modifyQueue]
    split <;> rfl
  | hangUp client =>
    rw [step, modifyQueue]
    split <;> rfl
  | selectPresentInput client eventId window mask =>
    rw [step, byWorker]
    split <;> rfl
  | queuePresent transaction client window pixmap serial idleFence =>
    rw [step, byWorker, queuePresent]
    split
    · split
      · rfl
      · split <;> rfl
    · rfl
  | wake client timedOut =>
    rw [step, wake]
    split
    · split
      · split <;> rfl
      · rfl
    · rfl
  | cancelPresent transaction => rfl
  | routePresentComplete transaction ust msc mode =>
    rw [step, PresentRoutes.markComplete]
    split
    · rfl
    · split <;> rfl
  | routePresentIdle transaction =>
    rw [step, PresentRoutes.takeIdle]
    split
    · rfl
    · split <;> rfl
  | collect n =>
    rw [step, collect]
    split
    · rfl
    · split <;> rfl
  | deliver n =>
    rw [step, deliver]
    split
    · rfl
    split
    · rfl
    rename_i round _ _ subscription _
    have hcapacity := (routeProtocol_pending session.routes round.presentation.client
      (round.event subscription)).2
    split
    · rename_i hroute
      rw [hroute] at hcapacity
      exact hcapacity
    · rename_i hroute
      rw [hroute] at hcapacity
      exact hcapacity
  | disconnect client =>
    rw [step, byWorker]
    split <;> rfl

end PresentSession
section Lifecycle

section Queued

variable {actions : List PresentAction} {transaction : TransactionId}
  {presentation : XPendingPresent}

theorem QueuedBy.snoc (h : QueuedBy actions transaction presentation) (action : PresentAction) :
    QueuedBy (actions ++ [action]) transaction presentation := by
  obtain ⟨queuing, hmem, hqueues⟩ := h
  exact ⟨queuing, List.mem_append_left _ hmem, hqueues⟩

theorem QueuedBy.complete (h : QueuedBy actions transaction presentation) :
    QueuedBy actions transaction { presentation with completed := true } := h

theorem QueuedBy.mem (h : QueuedBy actions transaction presentation) :
    transaction ∈ actions.filterMap PresentAction.queuedTransaction := by
  obtain ⟨queuing, hmem, rfl⟩ := h
  exact List.mem_filterMap.mpr ⟨_, hmem, rfl⟩

end Queued

namespace PresentSession

variable {capacity : ℕ} {actions : List PresentAction} {pending : PendingTable}
  {workers : WorkerTable} {origins : List PresentRound} {transaction : TransactionId}
  {presentation : XPendingPresent} {client : XServerFrontendClientId}

/-- Nothing is known of the transaction yet. -/
structure Unseen (pending : PendingTable) (workers : WorkerTable) (origins : List PresentRound)
    (transaction : TransactionId) : Prop where
  pending : pending[transaction]? = none
  waiting : ∀ (client : XServerFrontendClientId) presentation,
    workers[client]? ≠ some (.waiting transaction presentation)
  rounds : ∀ round ∈ origins, round.transaction ≠ transaction

/-- Every transaction goes from its queueing through a wait to pending, completed and idle. -/
structure Lifecycle (capacity : ℕ) (actions : List PresentAction) (pending : PendingTable)
    (workers : WorkerTable) (origins : List PresentRound) : Prop where
  pendingQueued : ∀ (transaction : TransactionId) presentation,
    pending[transaction]? = some presentation → QueuedBy actions transaction presentation
  waiting : ∀ (client : XServerFrontendClientId) transaction presentation,
    workers[client]? = some (.waiting transaction presentation) →
      QueuedBy actions transaction presentation ∧ presentation.client = client ∧
      presentation.completed = false ∧ pending[transaction]? = none ∧
      ∀ round ∈ origins, round.transaction ≠ transaction
  alone : ∀ (client client' : XServerFrontendClientId) transaction presentation presentation',
    workers[client]? = some (.waiting transaction presentation) →
    workers[client']? = some (.waiting transaction presentation') → client = client'
  roundQueued : ∀ round ∈ origins, QueuedBy actions round.transaction round.presentation
  completed : ∀ (transaction : TransactionId) presentation,
    pending[transaction]? = some presentation →
      (presentation.completed = true ↔ (transaction, false) ∈ origins.map PresentRound.key)
  idle : ∀ transaction : TransactionId, (transaction, true) ∈ origins.map PresentRound.key →
    pending[transaction]? = none
  distinct : (origins.map PresentRound.key).Nodup
  ordered : ∀ before after transaction,
    origins.map PresentRound.key = before ++ (transaction, true) :: after →
      (transaction, false) ∈ before
  connected : ∀ (transaction : TransactionId) presentation,
    pending[transaction]? = some presentation → presentation.client ∈ workers
  bounded : ∀ client, pendingOf pending client ≤ capacity

theorem Lifecycle.snoc (h : Lifecycle capacity actions pending workers origins)
    (action : PresentAction) :
    Lifecycle capacity (actions ++ [action]) pending workers origins where
  pendingQueued := fun transaction presentation hp => (h.pendingQueued _ _ hp).snoc action
  waiting := by
    intro client transaction presentation hw
    obtain ⟨hqueued, hrest⟩ := h.waiting client transaction presentation hw
    exact ⟨hqueued.snoc action, hrest⟩
  alone := h.alone
  roundQueued := fun round hr => (h.roundQueued round hr).snoc action
  completed := h.completed
  idle := h.idle
  distinct := h.distinct
  ordered := h.ordered
  connected := h.connected
  bounded := h.bounded

/-- What has not been queued is unseen. -/
theorem Lifecycle.unseen (h : Lifecycle capacity actions pending workers origins)
    (hnew : transaction ∉ actions.filterMap PresentAction.queuedTransaction) :
    Unseen pending workers origins transaction where
  pending := by
    by_contra hp
    obtain ⟨presentation, hp⟩ := Option.ne_none_iff_exists'.mp hp
    exact hnew (h.pendingQueued _ _ hp).mem
  waiting := fun client presentation hw => hnew (h.waiting _ _ _ hw).1.mem
  rounds := by
    rintro round hr rfl
    exact hnew (h.roundQueued round hr).mem

theorem not_mem_keys (h : ∀ round ∈ origins, round.transaction ≠ transaction) (idle : Bool) :
    (transaction, idle) ∉ origins.map PresentRound.key := by
  intro hm
  obtain ⟨round, hr, hkey⟩ := List.mem_map.mp hm
  exact h round hr (congrArg Prod.fst hkey)

theorem Lifecycle.setRunning (h : Lifecycle capacity actions pending workers origins)
    (client : XServerFrontendClientId) :
    Lifecycle capacity actions pending (workers.insert client .running) origins := by
  have hwaiting : ∀ (other : XServerFrontendClientId) transaction presentation,
      (workers.insert client .running)[other]? = some (.waiting transaction presentation) →
        workers[other]? = some (.waiting transaction presentation) := by
    intro other transaction presentation hw
    rw [ExtTreeMap.getElem?_insert] at hw
    split at hw
    · cases hw
    · exact hw
  constructor
  · exact h.pendingQueued
  · exact fun _ _ _ hw => h.waiting _ _ _ (hwaiting _ _ _ hw)
  · exact fun _ _ _ _ _ hw hw' => h.alone _ _ _ _ _ (hwaiting _ _ _ hw) (hwaiting _ _ _ hw')
  · exact h.roundQueued
  · exact h.completed
  · exact h.idle
  · exact h.distinct
  · exact h.ordered
  · exact fun _ _ hp => Ordered.mem_insert.mpr (Or.inr (h.connected _ _ hp))
  · exact h.bounded

theorem Lifecycle.suspended (h : Lifecycle capacity actions pending workers origins)
    (hqueued : QueuedBy actions transaction presentation) (hfresh : presentation.completed = false)
    (hunseen : Unseen pending workers origins transaction) :
    Lifecycle capacity actions pending
      (workers.insert presentation.client (.waiting transaction presentation)) origins where
  pendingQueued := h.pendingQueued
  waiting := by
    intro other transaction' presentation' hw
    rw [ExtTreeMap.getElem?_insert] at hw
    split at hw
    · rename_i hclient
      cases hw
      exact ⟨hqueued, LawfulEqOrd.eq_of_compare hclient, hfresh, hunseen.pending, hunseen.rounds⟩
    · exact h.waiting _ _ _ hw
  alone := by
    intro other other' transaction' p p' hw hw'
    rw [ExtTreeMap.getElem?_insert] at hw hw'
    split at hw
    · rename_i hclient
      cases hw
      split at hw'
      · rename_i hclient'
        rw [← LawfulEqOrd.eq_of_compare hclient, LawfulEqOrd.eq_of_compare hclient']
      · exact absurd hw' (hunseen.waiting _ _)
    · split at hw'
      · cases hw'
        exact absurd hw (hunseen.waiting _ _)
      · exact h.alone _ _ _ _ _ hw hw'
  roundQueued := h.roundQueued
  completed := h.completed
  idle := h.idle
  distinct := h.distinct
  ordered := h.ordered
  connected := fun _ _ hp => Ordered.mem_insert.mpr (Or.inr (h.connected _ _ hp))
  bounded := h.bounded

theorem Lifecycle.inserted (h : Lifecycle capacity actions pending workers origins)
    (hqueued : QueuedBy actions transaction presentation) (hfresh : presentation.completed = false)
    (hunseen : Unseen pending workers origins transaction)
    (hconnected : presentation.client ∈ workers)
    (hroom : pendingOf pending presentation.client < capacity) :
    Lifecycle capacity actions (pending.insert transaction presentation) workers origins where
  pendingQueued := by
    intro transaction' presentation' hp
    rw [ExtTreeMap.getElem?_insert] at hp
    split at hp
    · rename_i ht
      cases hp
      rwa [← LawfulEqOrd.eq_of_compare ht]
    · exact h.pendingQueued _ _ hp
  waiting := by
    intro client transaction' presentation' hw
    obtain ⟨hq, hclient, hf, hnone, hrounds⟩ := h.waiting _ _ _ hw
    refine ⟨hq, hclient, hf, ?_, hrounds⟩
    have hne : transaction ≠ transaction' := by
      rintro rfl
      exact hunseen.waiting _ _ hw
    simpa [ExtTreeMap.getElem?_insert, hne] using hnone
  alone := h.alone
  roundQueued := h.roundQueued
  completed := by
    intro transaction' presentation' hp
    rw [ExtTreeMap.getElem?_insert] at hp
    split at hp
    · rename_i ht
      cases hp
      rw [← LawfulEqOrd.eq_of_compare ht]
      exact iff_of_false (by simp [hfresh]) (not_mem_keys hunseen.rounds false)
    · exact h.completed _ _ hp
  idle := by
    intro transaction' hidle
    have hne : transaction ≠ transaction' := by
      rintro rfl
      exact not_mem_keys hunseen.rounds true hidle
    simpa [ExtTreeMap.getElem?_insert, hne] using h.idle transaction' hidle
  distinct := h.distinct
  ordered := h.ordered
  connected := by
    intro transaction' presentation' hp
    rw [ExtTreeMap.getElem?_insert] at hp
    split at hp
    · cases hp
      exact hconnected
    · exact h.connected _ _ hp
  bounded := by
    intro client
    rw [pendingOf, Users.count_insert_new hunseen.pending]
    split
    · rename_i hclient
      have hclient : presentation.client = client := of_decide_eq_true hclient
      subst hclient
      exact hroom
    · exact h.bounded client

/-- Entries may be taken out of the table at any time. -/
theorem Lifecycle.shrink (h : Lifecycle capacity actions pending workers origins)
    {pending' : PendingTable}
    (hsub : ∀ (transaction : TransactionId) presentation,
      pending'[transaction]? = some presentation → pending[transaction]? = some presentation)
    (hcount : ∀ client, pendingOf pending' client ≤ pendingOf pending client) :
    Lifecycle capacity actions pending' workers origins := by
  have hnone : ∀ transaction : TransactionId, pending[transaction]? = none →
      pending'[transaction]? = none := by
    intro transaction hp
    by_contra hne
    obtain ⟨presentation, hp'⟩ := Option.ne_none_iff_exists'.mp hne
    rw [hsub _ _ hp'] at hp
    cases hp
  constructor
  · exact fun _ _ hp => h.pendingQueued _ _ (hsub _ _ hp)
  · intro client transaction presentation hw
    obtain ⟨hq, hclient, hf, hp, hrounds⟩ := h.waiting _ _ _ hw
    exact ⟨hq, hclient, hf, hnone _ hp, hrounds⟩
  · exact h.alone
  · exact h.roundQueued
  · exact fun _ _ hp => h.completed _ _ (hsub _ _ hp)
  · exact fun _ hidle => hnone _ (h.idle _ hidle)
  · exact h.distinct
  · exact h.ordered
  · exact fun _ _ hp => h.connected _ _ (hsub _ _ hp)
  · exact fun client => Nat.le_trans (hcount client) (h.bounded client)

theorem Lifecycle.cancelled (h : Lifecycle capacity actions pending workers origins)
    (transaction : TransactionId) :
    Lifecycle capacity actions (pending.erase transaction) workers origins := by
  refine h.shrink ?_ fun client => Users.count_erase_le transaction
  intro transaction' presentation hp
  rw [ExtTreeMap.getElem?_erase] at hp
  split at hp
  · cases hp
  · exact hp

theorem Lifecycle.disconnected (h : Lifecycle capacity actions pending workers origins)
    (client : XServerFrontendClientId) :
    Lifecycle capacity actions
      (pending.filter fun _ presentation => presentation.client ≠ client) (workers.erase client)
      origins := by
  have hshrunk : Lifecycle capacity actions
      (pending.filter fun _ presentation => presentation.client ≠ client) workers origins := by
    refine h.shrink ?_ fun other => Users.count_filter_le _
    intro transaction presentation hp
    rw [ExtTreeMap.getElem?_filter', Option.filter_eq_some_iff] at hp
    exact hp.1
  have hwaiting : ∀ (other : XServerFrontendClientId) transaction presentation,
      (workers.erase client)[other]? = some (.waiting transaction presentation) →
        workers[other]? = some (.waiting transaction presentation) := by
    intro other transaction presentation hw
    rw [ExtTreeMap.getElem?_erase] at hw
    split at hw
    · cases hw
    · exact hw
  constructor
  · exact hshrunk.pendingQueued
  · exact fun _ _ _ hw => hshrunk.waiting _ _ _ (hwaiting _ _ _ hw)
  · exact fun _ _ _ _ _ hw hw' => h.alone _ _ _ _ _ (hwaiting _ _ _ hw) (hwaiting _ _ _ hw')
  · exact h.roundQueued
  · exact hshrunk.completed
  · exact hshrunk.idle
  · exact h.distinct
  · exact h.ordered
  · intro transaction presentation hp
    rw [ExtTreeMap.getElem?_filter', Option.filter_eq_some_iff, decide_eq_true_eq] at hp
    have hmem := h.connected _ _ hp.1
    rw [ExtTreeMap.mem_erase]
    refine ⟨fun he => hp.2 ?_, hmem⟩
    exact (LawfulEqOrd.eq_of_compare (by simpa using he)).symm
  · exact hshrunk.bounded

/-- A presentation that is pending has not turned idle. -/
theorem Lifecycle.not_idle (h : Lifecycle capacity actions pending workers origins)
    (hfound : pending[transaction]? = some presentation) :
    (transaction, true) ∉ origins.map PresentRound.key := by
  intro hm
  have hnone := h.idle transaction hm
  rw [hfound] at hnone
  cases hnone

/-- Nobody waits with the transaction of a pending presentation, nor of its rounds. -/
theorem Lifecycle.apart (h : Lifecycle capacity actions pending workers origins)
    (hfound : pending[transaction]? = some presentation) {client : XServerFrontendClientId}
    {other : TransactionId} {waiting : XPendingPresent}
    (hw : workers[client]? = some (.waiting other waiting)) (round : PresentRound)
    (hround : round.transaction = transaction) :
    transaction ≠ other ∧ ∀ r ∈ origins ++ [round], r.transaction ≠ other := by
  obtain ⟨-, -, -, hnone, hrounds⟩ := h.waiting _ _ _ hw
  have hne : transaction ≠ other := by
    rintro rfl
    rw [hfound] at hnone
    cases hnone
  refine ⟨hne, fun r hr => ?_⟩
  rcases List.mem_append.mp hr with hr | hr
  · exact hrounds r hr
  · rw [List.mem_singleton.mp hr, hround]
    exact hne

theorem Lifecycle.roundQueued_snoc (h : Lifecycle capacity actions pending workers origins)
    {round : PresentRound} (hqueued : QueuedBy actions round.transaction round.presentation) :
    ∀ r ∈ origins ++ [round], QueuedBy actions r.transaction r.presentation := by
  intro r hr
  rcases List.mem_append.mp hr with hr | hr
  · exact h.roundQueued r hr
  · rw [List.mem_singleton.mp hr]
    exact hqueued

theorem Lifecycle.completing (h : Lifecycle capacity actions pending workers origins)
    {feedback : PresentFeedback} (hkind : feedback.isIdle = false)
    (hfound : pending[transaction]? = some presentation)
    (hincomplete : presentation.completed = false) :
    Lifecycle capacity actions
      (pending.insert transaction { presentation with completed := true }) workers
      (origins ++ [.start transaction { presentation with completed := true } feedback]) := by
  have hqueued := (h.pendingQueued _ _ hfound).complete
  have hkeys : (origins ++
      [PresentRound.start transaction { presentation with completed := true } feedback]).map
      PresentRound.key = origins.map PresentRound.key ++ [(transaction, false)] := by
    simp [PresentRound.key, PresentRound.start, hkind]
  have hnew : (transaction, false) ∉ origins.map PresentRound.key := by
    intro hm
    have hcompleted := (h.completed _ _ hfound).mpr hm
    rw [hincomplete] at hcompleted
    cases hcompleted
  constructor
  · intro transaction' presentation' hp
    rw [ExtTreeMap.getElem?_insert] at hp
    split at hp
    · rename_i ht
      cases hp
      rw [← LawfulEqOrd.eq_of_compare ht]
      exact hqueued
    · exact h.pendingQueued _ _ hp
  · intro client transaction' presentation' hw
    obtain ⟨hq, hclient, hf, hnone, -⟩ := h.waiting _ _ _ hw
    obtain ⟨hne, hrounds⟩ := h.apart hfound hw
      (.start transaction { presentation with completed := true } feedback) rfl
    exact ⟨hq, hclient, hf, by simpa [ExtTreeMap.getElem?_insert, hne] using hnone, hrounds⟩
  · exact h.alone
  · exact h.roundQueued_snoc hqueued
  · intro transaction' presentation' hp
    rw [hkeys]
    rw [ExtTreeMap.getElem?_insert] at hp
    split at hp
    · rename_i ht
      cases hp
      rw [← LawfulEqOrd.eq_of_compare ht]
      simp
    · rename_i ht
      have hne : transaction' ≠ transaction := by
        rintro rfl
        exact ht (by simp)
      simpa [hne] using h.completed _ _ hp
  · intro transaction' hidle
    rw [hkeys] at hidle
    have hidle : (transaction', true) ∈ origins.map PresentRound.key := by simpa using hidle
    have hne : transaction ≠ transaction' := by
      rintro rfl
      exact h.not_idle hfound hidle
    simpa [ExtTreeMap.getElem?_insert, hne] using h.idle transaction' hidle
  · rw [hkeys]
    exact List.Nodup.append h.distinct (by simp) (by simpa using hnew)
  · intro before after transaction' he
    rw [hkeys] at he
    rcases List.eq_nil_or_concat after with rfl | ⟨after, last, rfl⟩
    · obtain ⟨-, hlast⟩ := List.append_inj' he rfl
      simp at hlast
    · have he : origins.map PresentRound.key ++ [(transaction, false)] =
          (before ++ (transaction', true) :: after) ++ [last] := by simpa using he
      exact h.ordered before after transaction' (List.append_inj' he rfl).1
  · intro transaction' presentation' hp
    rw [ExtTreeMap.getElem?_insert] at hp
    split at hp
    · cases hp
      exact h.connected transaction presentation hfound
    · exact h.connected _ _ hp
  · intro client
    have hcount : pendingOf (pending.insert transaction { presentation with completed := true })
        client = pendingOf pending client := Users.count_insert_same hfound rfl
    rw [hcount]
    exact h.bounded client

theorem Lifecycle.idling (h : Lifecycle capacity actions pending workers origins)
    (hfound : pending[transaction]? = some presentation)
    (hcomplete : presentation.completed = true) :
    Lifecycle capacity actions (pending.erase transaction) workers
      (origins ++ [.start transaction presentation .idle]) := by
  have hshrunk := h.cancelled transaction
  have hkeys : (origins ++ [PresentRound.start transaction presentation .idle]).map
      PresentRound.key =
      origins.map PresentRound.key ++ [(transaction, true)] := by
    simp [PresentRound.key, PresentRound.start, PresentFeedback.isIdle]
  constructor
  · exact hshrunk.pendingQueued
  · intro client transaction' presentation' hw
    obtain ⟨hq, hclient, hf, -, -⟩ := h.waiting _ _ _ hw
    exact ⟨hq, hclient, hf, (hshrunk.waiting _ _ _ hw).2.2.2.1, (h.apart hfound hw _ rfl).2⟩
  · exact h.alone
  · exact h.roundQueued_snoc (h.pendingQueued _ _ hfound)
  · intro transaction' presentation' hp
    rw [hkeys]
    simpa using hshrunk.completed _ _ hp
  · intro transaction' hidle
    rw [hkeys] at hidle
    rcases List.mem_append.mp hidle with hidle | hidle
    · exact hshrunk.idle transaction' hidle
    · cases List.mem_singleton.mp hidle
      simp
  · rw [hkeys]
    exact List.Nodup.append h.distinct (by simp) (by simpa using h.not_idle hfound)
  · intro before after transaction' he
    rw [hkeys] at he
    rcases List.eq_nil_or_concat after with rfl | ⟨after, last, rfl⟩
    · obtain ⟨hbefore, hlast⟩ := List.append_inj' he rfl
      cases hlast
      rw [← hbefore]
      exact (h.completed _ _ hfound).mp hcomplete
    · have he : origins.map PresentRound.key ++ [(transaction, true)] =
          (before ++ (transaction', true) :: after) ++ [last] := by simpa using he
      exact h.ordered before after transaction' (List.append_inj' he rfl).1
  · exact hshrunk.connected
  · exact hshrunk.bounded

/-- A waiting call that goes on has its transaction to itself. -/
theorem Lifecycle.unseen_of_waiting (h : Lifecycle capacity actions pending workers origins)
    (hw : workers[client]? = some (.waiting transaction presentation)) :
    Unseen pending (workers.insert client .running) origins transaction where
  pending := (h.waiting _ _ _ hw).2.2.2.1
  waiting := by
    intro other presentation' hw'
    rw [ExtTreeMap.getElem?_insert] at hw'
    split at hw'
    · cases hw'
    · rename_i hne
      exact hne (by rw [h.alone _ _ _ _ _ hw hw']; simp)
  rounds := (h.waiting _ _ _ hw).2.2.2.2

theorem Lifecycle.step (h : Lifecycle capacity actions pending workers origins)
    {action : PresentAction} {pending' : PendingTable} {workers' : WorkerTable}
    {origins' : List PresentRound}
    (hdistinct : ((actions ++ [action]).filterMap PresentAction.queuedTransaction).Nodup)
    (heffect : Effect capacity pending workers origins action pending' workers' origins') :
    Lifecycle capacity (actions ++ [action]) pending' workers' origins' := by
  have hnext := h.snoc action
  have hnew : ∀ transaction presentation, action.queues transaction presentation →
      QueuedBy (actions ++ [action]) transaction presentation ∧
        Unseen pending workers origins transaction := by
    rintro transaction presentation rfl
    refine ⟨⟨_, List.mem_append_right _ (List.mem_singleton.mpr rfl), rfl⟩, h.unseen ?_⟩
    intro hm
    rw [List.filterMap_append] at hdistinct
    exact (List.nodup_append.mp hdistinct).2.2 transaction hm transaction (by
      simp [PresentAction.queuedTransaction]) rfl
  cases heffect with
  | quiet => exact hnext
  | registered new => exact hnext.setRunning _
  | queued queues fresh running room =>
    obtain ⟨hqueued, hunseen⟩ := hnew _ _ queues
    exact hnext.inserted hqueued fresh hunseen
      (ExtTreeMap.isSome_getElem?_iff_mem.mp (by rw [running]; rfl)) room
  | suspended queues fresh running =>
    obtain ⟨hqueued, hunseen⟩ := hnew _ _ queues
    exact hnext.suspended hqueued fresh hunseen
  | resumed waiting room =>
    obtain ⟨hqueued, rfl, hfresh, -, -⟩ := hnext.waiting _ _ _ waiting
    exact (hnext.setRunning _).inserted hqueued hfresh (hnext.unseen_of_waiting waiting)
      ExtTreeMap.mem_insert_self room
  | abandoned waiting => exact hnext.setRunning _
  | cancelled => exact hnext.cancelled _
  | completed other kind found incomplete => exact hnext.completing kind found incomplete
  | idled other found complete => exact hnext.idling found complete
  | disconnected => exact hnext.disconnected _

theorem lifecycle_start (capacity : ℕ) : Lifecycle capacity [] ∅ ∅ [] := by
  constructor <;> simp [pendingOf]

theorem capacity_run (capacity : ℕ) (actions : List PresentAction) :
    (Run.exec PresentSession.step (start capacity) actions).routes.perClientQueueCapacity =
      capacity := by
  refine Run.invariant
    (P := fun session : PresentSession => session.routes.perClientQueueCapacity = capacity) rfl ?_
    Run.guarded_true
  intro session action _ h
  rw [step_capacity, h]

theorem lifecycle_run (capacity : ℕ) (actions : List PresentAction)
    (hdistinct : (actions.filterMap PresentAction.queuedTransaction).Nodup) :
    let session := Run.exec PresentSession.step (start capacity) actions
    Lifecycle capacity actions session.pending session.workers session.origins := by
  induction actions using List.reverseRecOn with
  | nil => exact lifecycle_start capacity
  | append_singleton actions action ih =>
    have hbefore : (actions.filterMap PresentAction.queuedTransaction).Nodup := by
      rw [List.filterMap_append] at hdistinct
      exact (List.nodup_append.mp hdistinct).1
    have heffect := step_effect (Run.exec PresentSession.step (start capacity) actions) action
    rw [capacity_run] at heffect
    rw [Run.exec_snoc]
    exact (ih hbefore).step hdistinct heffect

end PresentSession
end Lifecycle
end Sophia.Frontend
