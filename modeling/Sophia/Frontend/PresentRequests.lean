import Sophia.Authority.PresentDispatch
import Sophia.Authority.RuntimeCalls
import Sophia.Frontend.PresentFeedback

/-! The workers' Present requests: a feedback entry is queued, then the request is answered. -/
namespace Sophia.Frontend

open Std Sophia.Protocol Sophia.Authority

namespace PresentAction

/-- Everything around the registry that is neither a Present request nor the end of a client. -/
def routine : PresentAction → Bool
  | .queuePresent .. | .wake .. | .cancelPresent .. | .disconnect .. => false
  | _ => true

end PresentAction

/-- A Present request a worker is in the middle of: its feedback entry is queued, or waits. -/
structure PresentJob where
  context : XDispatchContext
  request : XPresentPixmap
  deriving DecidableEq, Repr

/-- A Present request that was answered. -/
structure PresentAnswer where
  transaction : TransactionId
  errors : List XClientError
  submission : Option XAuthorityPresentSubmission
  deriving DecidableEq, Repr

abbrev JobTable := ExtTreeMap XServerFrontendClientId PresentJob

structure PresentServer where
  session : PresentSession
  runtime : FullRuntime
  nextTransactionId : UInt64
  jobs : JobTable
  answers : List PresentAnswer

/-- What the clients' workers, the router and the engine can do next. -/
inductive ServerAction where
  | registry (action : PresentAction) (h : action.routine)
  | call (call : FullRuntime.RuntimeCall)
  | allocate
  | present (client : XServerFrontendClientId) (context : XDispatchContext)
      (request : XPresentPixmap)
  | wake (client : XServerFrontendClientId) (timedOut : Bool)
  | dispatch (client : XServerFrontendClientId)
  | disconnect (client : XServerFrontendClientId)

namespace PresentServer

def start (capacity : ℕ) : PresentServer where
  session := .start capacity
  runtime := .new
  nextTransactionId := 1
  jobs := ∅
  answers := []

variable (server : PresentServer)

def allocateTransaction : Option (TransactionId × PresentServer) :=
  if server.nextTransactionId.toNat + 1 < UInt64.size then
    some (.fromRaw server.nextTransactionId,
      { server with nextTransactionId := server.nextTransactionId + 1 })
  else none

/-- A worker reads a Present request; a feedback entry that is refused ends the client. -/
def present (client : XServerFrontendClientId) (context : XDispatchContext)
    (request : XPresentPixmap) : PresentServer :=
  if server.session.running client ∧ client ∉ server.jobs then
    match server.allocateTransaction with
    | none => server
    | some (transaction, server) =>
      match server.session.routes.presentAdmissible transaction client request.window with
      | .error _ => server
      | .ok _ => { server with
          session := server.session.step (.queuePresent transaction client request.window
            request.pixmap request.serial request.idleFence)
          jobs := server.jobs.insert client ⟨context, { request with transaction }⟩ }
  else server

/-- The wait for capacity ends, goes on, or runs out of time, which ends the client. -/
def wake (client : XServerFrontendClientId) (timedOut : Bool) : PresentServer :=
  let gaveUp := timedOut && server.session.routes.atCapacity client
  match server.session.workers[client]? with
  | some (.waiting _ _) => { server with
      session := server.session.step (.wake client timedOut)
      jobs := if gaveUp then server.jobs.erase client else server.jobs }
  | _ => server

/-- The answer to a job, and the runtime after it. -/
def answer (job : PresentJob) : PresentAnswer × FullRuntime :=
  let (result, runtime) := server.runtime.dispatchPresentPixmap job.context job.request
  let submission := if result.errors = [] then
    runtime.presentSubmission job.context.namespaceId job.request result else none
  (⟨job.request.transaction, result.errors, submission⟩,
    { runtime with lastCpuBufferUpdate := none })

/-- The job whose feedback entry is queued. -/
def queuedJob (client : XServerFrontendClientId) : Option PresentJob :=
  if server.session.running client then server.jobs[client]? else none

/-- The request is answered; the entry of a refused one is cancelled. -/
def dispatch (client : XServerFrontendClientId) : PresentServer :=
  match server.queuedJob client with
  | none => server
  | some job =>
    let (answer, runtime) := server.answer job
    { server with
      session := if answer.errors = [] then server.session
        else server.session.step (.cancelPresent job.request.transaction)
      runtime
      jobs := server.jobs.erase client
      answers := server.answers ++ [answer] }

def step : ServerAction → PresentServer
  | .registry action _ => { server with session := server.session.step action }
  | .call call => { server with runtime := server.runtime.step call }
  | .allocate => (server.allocateTransaction.map Prod.snd).getD server
  | .present client context request => server.present client context request
  | .wake client timedOut => server.wake client timedOut
  | .dispatch client => server.dispatch client
  | .disconnect client =>
    if server.session.running client then { server with
      session := server.session.step (.disconnect client)
      jobs := server.jobs.erase client }
    else server

/-- What the backend was handed. -/
def submissions : List XAuthorityPresentSubmission := server.answers.filterMap (·.submission)

/-- A worker is in the middle of the request. -/
def InProgress (transaction : TransactionId) : Prop :=
  ∃ (client : XServerFrontendClientId) (job : PresentJob),
    server.jobs[client]? = some job ∧ job.request.transaction = transaction

/-- The request got an error and its entry is gone, or it was submitted, once. -/
def Handled (answer : PresentAnswer) : Prop :=
  (answer.errors ≠ [] ∧ answer.transaction ∉ server.session.pending) ∨
    (server.submissions.map (·.transaction)).count answer.transaction = 1

/-- Every entry of the feedback map is a request's that is being answered, or was submitted. -/
def NoOrphan : Prop :=
  ∀ transaction ∈ server.session.pending, server.InProgress transaction ∨
    ∃ submission ∈ server.submissions, submission.transaction = transaction

/-- A request that is answered now either is one the authority refuses, or shows an imported
buffer. -/
def AnswersImported : ServerAction → Prop
  | .dispatch client => ∀ job ∈ server.queuedJob client,
    server.runtime.ShowsImported job.context.namespaceId job.request
  | _ => True

end PresentServer

namespace PresentSession

/-- The client's worker waits to queue the presentation. -/
def Waits (session : PresentSession) (client : XServerFrontendClientId)
    (transaction : TransactionId) : Prop :=
  ∃ presentation, session.workers[client]? = some (.waiting transaction presentation)

/-- The presentation of the client has an entry. -/
def Entry (session : PresentSession) (transaction : TransactionId)
    (client : XServerFrontendClientId) : Prop :=
  ∃ presentation, session.pending[transaction]? = some presentation ∧ presentation.client = client

variable {session : PresentSession} {client client' : XServerFrontendClientId}
  {transaction transaction' : TransactionId}

theorem mem_pending_iff :
    transaction ∈ session.pending ↔ ∃ client, session.Entry transaction client := by
  rw [ExtTreeMap.mem_iff_isSome_getElem?, Option.isSome_iff_exists]
  constructor
  · rintro ⟨presentation, h⟩
    exact ⟨_, presentation, h, rfl⟩
  · rintro ⟨-, presentation, h, rfl⟩
    exact ⟨presentation, h⟩

theorem not_waits_of_running (h : session.running client = true) :
    ¬ session.Waits client transaction := by
  rintro ⟨presentation, hw⟩
  rw [running_iff.mp h] at hw
  cases hw

theorem Effect.routine {capacity : ℕ} {pending pending' : PendingTable}
    {workers workers' : WorkerTable} {origins origins' : List PresentRound} {action : PresentAction}
    (h : Effect capacity pending workers origins action pending' workers' origins')
    (hr : action.routine = true) :
    (∀ (client : XServerFrontendClientId) transaction presentation,
      workers'[client]? = some (.waiting transaction presentation) →
        workers[client]? = some (.waiting transaction presentation)) ∧
      ∀ (transaction : TransactionId) presentation', pending'[transaction]? = some presentation' →
        ∃ presentation, pending[transaction]? = some presentation ∧
          presentation.client = presentation'.client := by
  cases h with
  | quiet => exact ⟨fun _ _ _ h => h, fun _ _ h => ⟨_, h, rfl⟩⟩
  | registered new =>
    refine ⟨?_, fun _ _ h => ⟨_, h, rfl⟩⟩
    intro client transaction presentation hw
    rw [ExtTreeMap.getElem?_insert] at hw
    split at hw
    · cases hw
    · exact hw
  | queued queues fresh running room =>
    cases queues
    cases hr
  | suspended queues fresh running =>
    cases queues
    cases hr
  | resumed waiting room => cases hr
  | abandoned waiting => cases hr
  | cancelled => cases hr
  | completed other kind found incomplete =>
    refine ⟨fun _ _ _ h => h, ?_⟩
    intro transaction presentation' hp
    rw [ExtTreeMap.getElem?_insert] at hp
    split at hp
    · rename_i hk
      cases hp
      rw [← LawfulEqOrd.eq_of_compare hk]
      exact ⟨_, found, rfl⟩
    · exact ⟨_, hp, rfl⟩
  | idled other found complete =>
    refine ⟨fun _ _ _ h => h, ?_⟩
    intro transaction presentation' hp
    rw [ExtTreeMap.getElem?_erase] at hp
    split at hp
    · cases hp
    · exact ⟨_, hp, rfl⟩
  | disconnected => cases hr

theorem waits_routine {action : PresentAction} (hr : action.routine = true)
    (h : (session.step action).Waits client transaction) : session.Waits client transaction := by
  obtain ⟨presentation, hw⟩ := h
  exact ⟨presentation, ((step_effect session action).routine hr).1 _ _ _ hw⟩

theorem entry_routine {action : PresentAction} (hr : action.routine = true)
    (h : (session.step action).Entry transaction client) : session.Entry transaction client := by
  obtain ⟨presentation, hp, rfl⟩ := h
  exact ((step_effect session action).routine hr).2 _ _ hp

/-- What a worker waits to queue is its own client's. -/
def Named (workers : WorkerTable) : Prop :=
  ∀ (client : XServerFrontendClientId) transaction presentation,
    workers[client]? = some (.waiting transaction presentation) → presentation.client = client

theorem Named.insert_running {workers : WorkerTable} (h : Named workers)
    (client : XServerFrontendClientId) : Named (workers.insert client .running) := by
  intro client' transaction presentation hw
  rw [ExtTreeMap.getElem?_insert] at hw
  split at hw
  · cases hw
  · exact h _ _ _ hw

theorem Effect.named {capacity : ℕ} {pending pending' : PendingTable}
    {workers workers' : WorkerTable} {origins origins' : List PresentRound} {action : PresentAction}
    (h : Effect capacity pending workers origins action pending' workers' origins')
    (hn : Named workers) : Named workers' := by
  cases h with
  | quiet | queued | cancelled | completed | idled => exact hn
  | registered | resumed | abandoned => exact hn.insert_running _
  | suspended queues fresh running =>
    intro client transaction presentation hw
    rw [ExtTreeMap.getElem?_insert] at hw
    split at hw
    · rename_i hk
      cases hw
      exact LawfulEqOrd.eq_of_compare hk
    · exact hn _ _ _ hw
  | disconnected =>
    intro client transaction presentation hw
    rw [ExtTreeMap.getElem?_erase] at hw
    split at hw
    · cases hw
    · exact hn _ _ _ hw

/-- A worker that is inserted waits only if it was inserted so. -/
theorem waits_insert {workers : WorkerTable} {worker : PresentWorker}
    (hworkers : session.workers = workers.insert client worker)
    (h : session.Waits client' transaction) :
    (client' = client ∧ ∃ presentation, worker = .waiting transaction presentation) ∨
      (client' ≠ client ∧ ∃ presentation,
        workers[client']? = some (.waiting transaction presentation)) := by
  obtain ⟨presentation, hw⟩ := h
  rw [hworkers, ExtTreeMap.getElem?_insert] at hw
  split at hw
  · rename_i hk
    exact Or.inl ⟨(LawfulEqOrd.eq_of_compare hk).symm, presentation, Option.some.inj hw⟩
  · rename_i hk
    refine Or.inr ⟨?_, presentation, hw⟩
    rintro rfl
    exact hk (Std.compare_eq_iff_eq.mpr rfl)

theorem entry_insert {pending : PendingTable} {presentation : XPendingPresent}
    (hpending : session.pending = pending.insert transaction presentation)
    (h : session.Entry transaction' client) :
    (transaction' = transaction ∧ client = presentation.client) ∨
      ∃ presentation, pending[transaction']? = some presentation ∧
        presentation.client = client := by
  obtain ⟨found, hp, rfl⟩ := h
  rw [hpending, ExtTreeMap.getElem?_insert] at hp
  split at hp
  · rename_i hk
    cases hp
    exact Or.inl ⟨(LawfulEqOrd.eq_of_compare hk).symm, rfl⟩
  · exact Or.inr ⟨found, hp, rfl⟩

theorem queuePresent_step {window pixmap : XResourceId} {serial : UInt32}
    {idleFence : Option XResourceId} (hrunning : session.running client = true) :
    let next := session.step (.queuePresent transaction client window pixmap serial idleFence)
    (∀ c t, next.Waits c t → session.Waits c t ∨ (c = client ∧ t = transaction)) ∧
      (∀ t c, next.Entry t c → session.Entry t c ∨ (t = transaction ∧ c = client)) ∧
      ((∀ c t, next.Waits c t → session.Waits c t) ∨ ∀ t c, next.Entry t c → session.Entry t c) := by
  intro next
  have hnext : next = session.queuePresent transaction
      ⟨client, window, pixmap, serial, idleFence, false⟩ := by
    show session.byWorker client _ = _
    rw [byWorker, if_pos hrunning]
  rw [hnext, queuePresent]
  split
  · exact ⟨fun _ _ h => Or.inl h, fun _ _ h => Or.inl h, Or.inl fun _ _ h => h⟩
  · split
    · refine ⟨fun c t hw => ?_, fun _ _ h => Or.inl h, Or.inr fun _ _ h => h⟩
      rcases waits_insert rfl hw with ⟨rfl, presentation, hsame⟩ | ⟨-, hw⟩
      · cases hsame
        exact Or.inr ⟨rfl, rfl⟩
      · exact Or.inl hw
    · refine ⟨fun _ _ h => Or.inl h, fun t c hentry => ?_, Or.inl fun _ _ h => h⟩
      rcases entry_insert rfl hentry with ⟨rfl, rfl⟩ | hentry
      · exact Or.inr ⟨rfl, rfl⟩
      · exact Or.inl hentry

/-- The waiting worker waits on, has given up, or has made its entry. -/
theorem wake_step {presentation : XPendingPresent} (timedOut : Bool)
    (hwaiting : session.workers[client]? = some (.waiting transaction presentation))
    (hclient : presentation.client = client) :
    let next := session.step (.wake client timedOut)
    let gaveUp := timedOut && session.routes.atCapacity client
    (gaveUp = false ∧ next = session) ∨
      ((∀ c t, next.Waits c t → session.Waits c t ∧ c ≠ client) ∧
        ((gaveUp = true ∧ ∀ t c, next.Entry t c → session.Entry t c) ∨
          (gaveUp = false ∧
            ∀ t c, next.Entry t c → session.Entry t c ∨ (t = transaction ∧ c = client)))) := by
  intro next gaveUp
  have hnext : next = session.wake client timedOut := rfl
  rw [wake, hwaiting] at hnext
  have hothers : ∀ {next : PresentSession}, next.workers = session.workers.insert client .running →
      ∀ c t, next.Waits c t → session.Waits c t ∧ c ≠ client := by
    intro next hworkers c t hw
    rcases waits_insert hworkers hw with ⟨-, _, hsame⟩ | ⟨hne, hw⟩
    · cases hsame
    · exact ⟨hw, hne⟩
  cases hcapacity : session.routes.atCapacity client with
  | true =>
    cases timedOut with
    | false =>
      simp only [hcapacity, if_true, Bool.false_eq_true, if_false] at hnext
      exact Or.inl ⟨rfl, hnext⟩
    | true =>
      simp only [hcapacity, if_true] at hnext
      rw [hnext]
      exact Or.inr ⟨hothers rfl, Or.inl ⟨hcapacity, fun _ _ h => h⟩⟩
  | false =>
    simp only [hcapacity, Bool.false_eq_true, if_false] at hnext
    rw [hnext]
    refine Or.inr ⟨hothers rfl, Or.inr ⟨?_, fun t c hentry => ?_⟩⟩
    · show (timedOut && session.routes.atCapacity client) = false
      rw [hcapacity, Bool.and_false]
    · rcases entry_insert rfl hentry with ⟨rfl, rfl⟩ | hentry
      · exact Or.inr ⟨rfl, hclient⟩
      · exact Or.inl hentry

theorem cancel_step (session : PresentSession) (transaction : TransactionId) :
    (∀ c t, (session.step (.cancelPresent transaction)).Waits c t → session.Waits c t) ∧
    ∀ t c, (session.step (.cancelPresent transaction)).Entry t c →
      session.Entry t c ∧ t ≠ transaction := by
  refine ⟨fun _ _ h => h, ?_⟩
  rintro t - ⟨presentation, hp, rfl⟩
  have hp : (session.pending.erase transaction)[t]? = some presentation := hp
  rw [ExtTreeMap.getElem?_erase] at hp
  split at hp
  · cases hp
  · rename_i hk
    refine ⟨⟨presentation, hp, rfl⟩, ?_⟩
    rintro rfl
    exact hk (Std.compare_eq_iff_eq.mpr rfl)

theorem disconnect_step (hrunning : session.running client = true) :
    (∀ c t, (session.step (.disconnect client)).Waits c t → session.Waits c t ∧ c ≠ client) ∧
      ∀ t c, (session.step (.disconnect client)).Entry t c →
        session.Entry t c ∧ c ≠ client := by
  have hnext : session.step (.disconnect client) = { session with
      routes := session.routes.dropRegistration client
      workers := session.workers.erase client } := by
    rw [step, byWorker, if_pos hrunning]
  rw [hnext]
  constructor
  · rintro c t ⟨presentation, hw⟩
    rw [ExtTreeMap.getElem?_erase] at hw
    split at hw
    · cases hw
    · rename_i hk
      refine ⟨⟨presentation, hw⟩, ?_⟩
      rintro rfl
      exact hk (Std.compare_eq_iff_eq.mpr rfl)
  · rintro t - ⟨presentation, hp, rfl⟩
    have hp : (session.pending.filter fun _ presentation =>
        presentation.client ≠ client)[t]? = some presentation := hp
    rw [ExtTreeMap.getElem?_filter', Option.filter_eq_some_iff] at hp
    obtain ⟨hp, hne⟩ := hp
    exact ⟨⟨presentation, hp, rfl⟩, by simpa using hne⟩

end PresentSession

namespace PresentServer

variable {server next : PresentServer}

/-- What a step does to the waiting workers, the entries, the jobs and the answers. -/
inductive Change (server next : PresentServer) : Prop where
  | quiet (waits : ∀ c t, next.session.Waits c t → server.session.Waits c t)
      (entry : ∀ t c, next.session.Entry t c → server.session.Entry t c)
      (jobs : next.jobs = server.jobs) (answers : next.answers = server.answers)
      (later : server.nextTransactionId.toNat ≤ next.nextTransactionId.toNat)
  | begun (client : XServerFrontendClientId) (job : PresentJob) (idle : client ∉ server.jobs)
      (fresh : job.request.transaction.raw = server.nextTransactionId)
      (later : server.nextTransactionId.toNat < next.nextTransactionId.toNat)
      (waits : ∀ c t, next.session.Waits c t →
        server.session.Waits c t ∨ (c = client ∧ t = job.request.transaction))
      (entry : ∀ t c, next.session.Entry t c →
        server.session.Entry t c ∨ (t = job.request.transaction ∧ c = client))
      (either : (∀ c t, next.session.Waits c t → server.session.Waits c t) ∨
        ∀ t c, next.session.Entry t c → server.session.Entry t c)
      (jobs : next.jobs = server.jobs.insert client job) (answers : next.answers = server.answers)
  | resumed (client : XServerFrontendClientId) (transaction : TransactionId)
      (waiting : server.session.Waits client transaction)
      (waits : ∀ c t, next.session.Waits c t → server.session.Waits c t ∧ c ≠ client)
      (entry : ∀ t c, next.session.Entry t c →
        server.session.Entry t c ∨ (t = transaction ∧ c = client))
      (jobs : next.jobs = server.jobs) (answers : next.answers = server.answers)
      (same : next.nextTransactionId = server.nextTransactionId)
  | left (client : XServerFrontendClientId)
      (waits : ∀ c t, next.session.Waits c t → server.session.Waits c t ∧ c ≠ client)
      (entry : ∀ t c, next.session.Entry t c → server.session.Entry t c)
      (gone : (∃ t, server.session.Waits client t) ∨ ∀ t, ¬ next.session.Entry t client)
      (jobs : next.jobs = server.jobs.erase client) (answers : next.answers = server.answers)
      (same : next.nextTransactionId = server.nextTransactionId)
  | answered (client : XServerFrontendClientId) (job : PresentJob)
      (queued : server.queuedJob client = some job)
      (waits : ∀ c t, next.session.Waits c t → server.session.Waits c t)
      (entry : ∀ t c, next.session.Entry t c → server.session.Entry t c)
      (cancelled : (server.answer job).1.errors ≠ [] →
        ∀ c, ¬ next.session.Entry job.request.transaction c)
      (jobs : next.jobs = server.jobs.erase client)
      (answers : next.answers = server.answers ++ [(server.answer job).1])
      (same : next.nextTransactionId = server.nextTransactionId)

theorem allocateTransaction_eq_some {transaction : TransactionId}
    (h : server.allocateTransaction = some (transaction, next)) :
    transaction = .fromRaw server.nextTransactionId ∧
      next = { server with nextTransactionId := server.nextTransactionId + 1 } ∧
      server.nextTransactionId.toNat < (server.nextTransactionId + 1).toNat := by
  rw [allocateTransaction] at h
  split at h
  · rename_i hlt
    cases h
    refine ⟨rfl, rfl, ?_⟩
    rw [UInt64.toNat_add]
    simp only [UInt64.size] at hlt
    rw [show (1 : UInt64).toNat = 1 from rfl, Nat.mod_eq_of_lt hlt]
    omega
  · cases h

theorem Change.refl (server : PresentServer) : Change server server :=
  .quiet (fun _ _ h => h) (fun _ _ h => h) rfl rfl (Nat.le_refl _)

theorem change_allocate {transaction : TransactionId}
    (h : server.allocateTransaction = some (transaction, next)) : Change server next := by
  obtain ⟨-, rfl, hlt⟩ := allocateTransaction_eq_some h
  exact .quiet (fun _ _ h => h) (fun _ _ h => h) rfl rfl (Nat.le_of_lt hlt)

theorem change_present (client : XServerFrontendClientId) (context : XDispatchContext)
    (request : XPresentPixmap) : Change server (server.present client context request) := by
  rw [present]
  split
  · rename_i hready
    obtain ⟨hrunning, hidle⟩ := hready
    split
    · exact .refl server
    · rename_i transaction allocated hallocated
      obtain ⟨rfl, rfl, hlt⟩ := allocateTransaction_eq_some hallocated
      split
      · exact .quiet (fun _ _ h => h) (fun _ _ h => h) rfl rfl (Nat.le_of_lt hlt)
      · obtain ⟨hwaits, hentry, heither⟩ := PresentSession.queuePresent_step hrunning
        exact .begun client _ hidle rfl hlt hwaits hentry heither rfl rfl
  · exact .refl server

theorem change_wake (hnamed : PresentSession.Named server.session.workers)
    (client : XServerFrontendClientId) (timedOut : Bool) :
    Change server (server.wake client timedOut) := by
  rw [wake]
  split
  · rename_i transaction presentation hwaiting
    have hwaits : server.session.Waits client transaction := ⟨presentation, hwaiting⟩
    rcases PresentSession.wake_step timedOut hwaiting (hnamed _ _ _ hwaiting) with
      ⟨hgave, hsame⟩ | ⟨hothers, ⟨hgave, hentry⟩ | ⟨hgave, hentry⟩⟩
    · rw [hsame, hgave]
      exact .refl server
    · simp only [hgave, if_true]
      exact .left client hothers hentry (Or.inl ⟨transaction, hwaits⟩) rfl rfl rfl
    · simp only [hgave, Bool.false_eq_true, if_false]
      exact .resumed client transaction hwaits hothers hentry rfl rfl rfl
  · exact .refl server

theorem change_dispatch (client : XServerFrontendClientId) :
    Change server (server.dispatch client) := by
  rw [dispatch]
  split
  · exact .refl server
  · rename_i job hjob
    obtain ⟨hwaits, hentry⟩ := PresentSession.cancel_step server.session job.request.transaction
    dsimp only
    split
    · rename_i herrors
      exact .answered client job hjob (fun _ _ h => h) (fun _ _ h => h) (absurd herrors) rfl rfl rfl
    · refine .answered client job hjob hwaits (fun t c h => (hentry t c h).1) ?_ rfl rfl rfl
      intro _ c hc
      exact (hentry _ c hc).2 rfl

theorem change_step (hnamed : PresentSession.Named server.session.workers)
    (action : ServerAction) : Change server (server.step action) := by
  cases action with
  | registry action hr =>
    exact .quiet (fun _ _ => PresentSession.waits_routine hr)
      (fun _ _ => PresentSession.entry_routine hr) rfl rfl (Nat.le_refl _)
  | call call => exact .quiet (fun _ _ h => h) (fun _ _ h => h) rfl rfl (Nat.le_refl _)
  | allocate =>
    rw [step]
    cases hallocated : server.allocateTransaction with
    | none => exact .refl server
    | some allocated => exact change_allocate hallocated
  | present client context request => exact change_present client context request
  | wake client timedOut => exact change_wake hnamed client timedOut
  | dispatch client => exact change_dispatch client
  | disconnect client =>
    rw [step]
    split
    · rename_i hrunning
      obtain ⟨hwaits, hentry⟩ := PresentSession.disconnect_step hrunning
      refine .left client hwaits (fun t c h => (hentry t c h).1) (Or.inr fun t h => ?_) rfl rfl rfl
      exact (hentry t client h).2 rfl
    · exact .refl server

end PresentServer
end Sophia.Frontend
