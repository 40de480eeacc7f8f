import Sophia.Frontend.PresentRequests

/-! Every Present request that is accepted reaches the backend when its buffer was imported. -/
namespace Sophia.Frontend

open Std Sophia.Protocol Sophia.Authority

namespace PresentServer

variable {server next : PresentServer}

/-- The client's worker is in the middle of the request. -/
def Doing (server : PresentServer) (client : XServerFrontendClientId)
    (transaction : TransactionId) : Prop :=
  ∃ job, server.jobs[client]? = some job ∧ job.request.transaction = transaction

/-- Every entry belongs to the request a worker is in the middle of, or to an answered one. -/
structure Tracked (server : PresentServer) : Prop where
  waiting : ∀ c t, server.session.Waits c t → server.Doing c t
  absent : ∀ c t c', server.session.Waits c t → ¬ server.session.Entry t c'
  below : ∀ c t, server.Doing c t → t.raw.toNat < server.nextTransactionId.toNat
  alone : ∀ c c' t, server.Doing c t → server.Doing c' t → c = c'
  entered : ∀ t c, server.session.Entry t c → server.Doing c t ∨
    ∃ answer ∈ server.answers, answer.transaction = t ∧ answer.errors = []
  earlier : ∀ answer ∈ server.answers,
    answer.transaction.raw.toNat < server.nextTransactionId.toNat
  finished : ∀ answer ∈ server.answers, ∀ c, ¬ server.Doing c answer.transaction
  distinct : (server.answers.map PresentAnswer.transaction).Nodup
  cancelled : ∀ answer ∈ server.answers, answer.errors ≠ [] →
    ∀ c, ¬ server.session.Entry answer.transaction c

theorem tracked_start (capacity : ℕ) : Tracked (start capacity) := by
  have hdoing : ∀ c t, ¬ (start capacity).Doing c t := by
    rintro c t ⟨job, hjob, -⟩
    simp [start] at hjob
  constructor
  · rintro c t ⟨presentation, hw⟩
    simp [start, PresentSession.start] at hw
  · rintro c t c' ⟨presentation, hw⟩
    simp [start, PresentSession.start] at hw
  · exact fun c t h => absurd h (hdoing c t)
  · exact fun c _ t h => absurd h (hdoing c t)
  · rintro t c ⟨presentation, hp, -⟩
    simp [start, PresentSession.start, PresentSession.pending] at hp
  · exact fun answer h => absurd h List.not_mem_nil
  · exact fun answer h => absurd h List.not_mem_nil
  · exact List.nodup_nil
  · exact fun answer h => absurd h List.not_mem_nil

section Tables

variable {client : XServerFrontendClientId} {job : PresentJob}

theorem doing_of_jobs (hjobs : next.jobs = server.jobs) (c : XServerFrontendClientId)
    (t : TransactionId) : next.Doing c t ↔ server.Doing c t := by
  rw [Doing, Doing, hjobs]

theorem doing_insert (hjobs : next.jobs = server.jobs.insert client job)
    (hidle : client ∉ server.jobs) (c : XServerFrontendClientId) (t : TransactionId) :
    next.Doing c t ↔ server.Doing c t ∨ (c = client ∧ t = job.request.transaction) := by
  rw [Doing, Doing, hjobs, ExtTreeMap.getElem?_insert]
  constructor
  · rintro ⟨found, hfound, rfl⟩
    split at hfound
    · rename_i hk
      cases hfound
      exact Or.inr ⟨(LawfulEqOrd.eq_of_compare hk).symm, rfl⟩
    · exact Or.inl ⟨found, hfound, rfl⟩
  · rintro (⟨found, hfound, rfl⟩ | ⟨rfl, rfl⟩)
    · have hne : client ≠ c := by
        rintro rfl
        exact hidle (ExtTreeMap.mem_iff_isSome_getElem?.mpr (by rw [hfound]; rfl))
      refine ⟨found, ?_, rfl⟩
      rw [if_neg (fun h => hne (LawfulEqOrd.eq_of_compare h)), hfound]
    · exact ⟨job, by rw [if_pos (Std.compare_eq_iff_eq.mpr rfl)], rfl⟩

theorem doing_erase (hjobs : next.jobs = server.jobs.erase client) (c : XServerFrontendClientId)
    (t : TransactionId) : next.Doing c t ↔ server.Doing c t ∧ c ≠ client := by
  rw [Doing, Doing, hjobs, ExtTreeMap.getElem?_erase]
  constructor
  · rintro ⟨found, hfound, rfl⟩
    split at hfound
    · cases hfound
    · rename_i hk
      refine ⟨⟨found, hfound, rfl⟩, ?_⟩
      rintro rfl
      exact hk (Std.compare_eq_iff_eq.mpr rfl)
  · rintro ⟨⟨found, hfound, rfl⟩, hne⟩
    refine ⟨found, ?_, rfl⟩
    rw [if_neg (fun h => hne (LawfulEqOrd.eq_of_compare h).symm), hfound]

end Tables

theorem Tracked.quiet (h : Tracked server)
    (waits : ∀ c t, next.session.Waits c t → server.session.Waits c t)
    (entry : ∀ t c, next.session.Entry t c → server.session.Entry t c)
    (hjobs : next.jobs = server.jobs) (hanswers : next.answers = server.answers)
    (later : server.nextTransactionId.toNat ≤ next.nextTransactionId.toNat) : Tracked next := by
  have hdoing := doing_of_jobs hjobs
  constructor
  · exact fun c t hw => (hdoing c t).mpr (h.waiting c t (waits c t hw))
  · exact fun c t c' hw he => h.absent c t c' (waits c t hw) (entry t c' he)
  · exact fun c t hd => Nat.lt_of_lt_of_le (h.below c t ((hdoing c t).mp hd)) later
  · exact fun c c' t hd hd' => h.alone c c' t ((hdoing c t).mp hd) ((hdoing c' t).mp hd')
  · intro t c he
    rw [hanswers]
    exact (h.entered t c (entry t c he)).imp_left (hdoing c t).mpr
  · intro answer hm
    rw [hanswers] at hm
    exact Nat.lt_of_lt_of_le (h.earlier answer hm) later
  · intro answer hm c hd
    rw [hanswers] at hm
    exact h.finished answer hm c ((hdoing c _).mp hd)
  · rw [hanswers]
    exact h.distinct
  · intro answer hm herrors c he
    rw [hanswers] at hm
    exact h.cancelled answer hm herrors c (entry _ c he)

/-- No job and no answer has the next identity, and so no entry has it. -/
theorem Tracked.unused (h : Tracked server) {transaction : TransactionId}
    (hnext : transaction.raw = server.nextTransactionId) :
    (∀ c, ¬ server.Doing c transaction) ∧
      (∀ answer ∈ server.answers, answer.transaction ≠ transaction) ∧
      ∀ c, ¬ server.session.Entry transaction c := by
  have hdoing : ∀ c, ¬ server.Doing c transaction := by
    intro c hd
    have hlt := h.below c transaction hd
    rw [hnext] at hlt
    omega
  have hanswers : ∀ answer ∈ server.answers, answer.transaction ≠ transaction := by
    rintro answer hm rfl
    have hlt := h.earlier answer hm
    rw [hnext] at hlt
    omega
  refine ⟨hdoing, hanswers, fun c he => ?_⟩
  rcases h.entered transaction c he with hd | ⟨answer, hm, hsame, -⟩
  · exact hdoing c hd
  · exact hanswers answer hm hsame

theorem Tracked.begun (h : Tracked server) {client : XServerFrontendClientId} {job : PresentJob}
    (idle : client ∉ server.jobs)
    (fresh : job.request.transaction.raw = server.nextTransactionId)
    (later : server.nextTransactionId.toNat < next.nextTransactionId.toNat)
    (waits : ∀ c t, next.session.Waits c t →
      server.session.Waits c t ∨ (c = client ∧ t = job.request.transaction))
    (entry : ∀ t c, next.session.Entry t c →
      server.session.Entry t c ∨ (t = job.request.transaction ∧ c = client))
    (either : (∀ c t, next.session.Waits c t → server.session.Waits c t) ∨
      ∀ t c, next.session.Entry t c → server.session.Entry t c)
    (hjobs : next.jobs = server.jobs.insert client job)
    (hanswers : next.answers = server.answers) : Tracked next := by
  have hdoing := doing_insert hjobs idle
  obtain ⟨hnew, hunanswered, hunentered⟩ := h.unused fresh
  constructor
  · intro c t hw
    exact (hdoing c t).mpr ((waits c t hw).imp_left (h.waiting c t))
  · intro c t c' hw he
    rcases either with hwaits | hentry
    · rcases entry t c' he with he | ⟨rfl, rfl⟩
      · exact h.absent c t c' (hwaits c t hw) he
      · exact hnew c (h.waiting c _ (hwaits c _ hw))
    · rcases waits c t hw with hw | ⟨rfl, rfl⟩
      · exact h.absent c t c' hw (hentry t c' he)
      · exact hunentered c' (hentry _ c' he)
  · intro c t hd
    rcases (hdoing c t).mp hd with hd | ⟨rfl, rfl⟩
    · exact Nat.lt_trans (h.below c t hd) later
    · rw [fresh]
      exact later
  · intro c c' t hd hd'
    rcases (hdoing c t).mp hd with hd | ⟨rfl, rfl⟩
    · rcases (hdoing c' t).mp hd' with hd' | ⟨rfl, rfl⟩
      · exact h.alone c c' t hd hd'
      · exact absurd hd (hnew c)
    · rcases (hdoing c' _).mp hd' with hd' | ⟨rfl, -⟩
      · exact absurd hd' (hnew c')
      · rfl
  · intro t c he
    rw [hanswers]
    rcases entry t c he with he | ⟨rfl, rfl⟩
    · exact (h.entered t c he).imp_left fun hd => (hdoing c t).mpr (Or.inl hd)
    · exact Or.inl ((hdoing c _).mpr (Or.inr ⟨rfl, rfl⟩))
  · intro answer hm
    rw [hanswers] at hm
    exact Nat.lt_trans (h.earlier answer hm) later
  · intro answer hm c hd
    rw [hanswers] at hm
    rcases (hdoing c _).mp hd with hd | ⟨-, hsame⟩
    · exact h.finished answer hm c hd
    · exact hunanswered answer hm hsame
  · rw [hanswers]
    exact h.distinct
  · intro answer hm herrors c he
    rw [hanswers] at hm
    rcases entry _ c he with he | ⟨hsame, -⟩
    · exact h.cancelled answer hm herrors c he
    · exact hunanswered answer hm hsame

theorem Tracked.resumed (h : Tracked server) {client : XServerFrontendClientId}
    {transaction : TransactionId} (waiting : server.session.Waits client transaction)
    (waits : ∀ c t, next.session.Waits c t → server.session.Waits c t ∧ c ≠ client)
    (entry : ∀ t c, next.session.Entry t c →
      server.session.Entry t c ∨ (t = transaction ∧ c = client))
    (hjobs : next.jobs = server.jobs) (hanswers : next.answers = server.answers)
    (same : next.nextTransactionId = server.nextTransactionId) : Tracked next := by
  have hdoing := doing_of_jobs hjobs
  have hclient : server.Doing client transaction := h.waiting client transaction waiting
  constructor
  · exact fun c t hw => (hdoing c t).mpr (h.waiting c t (waits c t hw).1)
  · intro c t c' hw he
    obtain ⟨hw, hne⟩ := waits c t hw
    rcases entry t c' he with he | ⟨rfl, rfl⟩
    · exact h.absent c t c' hw he
    · exact hne (h.alone c c' t (h.waiting c t hw) hclient)
  · intro c t hd
    rw [same]
    exact h.below c t ((hdoing c t).mp hd)
  · exact fun c c' t hd hd' => h.alone c c' t ((hdoing c t).mp hd) ((hdoing c' t).mp hd')
  · intro t c he
    rw [hanswers]
    rcases entry t c he with he | ⟨rfl, rfl⟩
    · exact (h.entered t c he).imp_left (hdoing c t).mpr
    · exact Or.inl ((hdoing c t).mpr hclient)
  · intro answer hm
    rw [hanswers] at hm
    rw [same]
    exact h.earlier answer hm
  · intro answer hm c hd
    rw [hanswers] at hm
    exact h.finished answer hm c ((hdoing c _).mp hd)
  · rw [hanswers]
    exact h.distinct
  · intro answer hm herrors c he
    rw [hanswers] at hm
    rcases entry _ c he with he | ⟨rfl, rfl⟩
    · exact h.cancelled answer hm herrors c he
    · exact h.finished answer hm c hclient

theorem Tracked.left (h : Tracked server) {client : XServerFrontendClientId}
    (waits : ∀ c t, next.session.Waits c t → server.session.Waits c t ∧ c ≠ client)
    (entry : ∀ t c, next.session.Entry t c → server.session.Entry t c)
    (gone : (∃ t, server.session.Waits client t) ∨ ∀ t, ¬ next.session.Entry t client)
    (hjobs : next.jobs = server.jobs.erase client) (hanswers : next.answers = server.answers)
    (same : next.nextTransactionId = server.nextTransactionId) : Tracked next := by
  have hdoing := doing_erase hjobs
  constructor
  · intro c t hw
    obtain ⟨hw, hne⟩ := waits c t hw
    exact (hdoing c t).mpr ⟨h.waiting c t hw, hne⟩
  · exact fun c t c' hw he => h.absent c t c' (waits c t hw).1 (entry t c' he)
  · intro c t hd
    rw [same]
    exact h.below c t ((hdoing c t).mp hd).1
  · exact fun c c' t hd hd' => h.alone c c' t ((hdoing c t).mp hd).1 ((hdoing c' t).mp hd').1
  · intro t c he
    rw [hanswers]
    refine (h.entered t c (entry t c he)).imp_left fun hd => (hdoing c t).mpr ⟨hd, ?_⟩
    rintro rfl
    rcases gone with ⟨t', hw⟩ | hnone
    · obtain ⟨job, hjob, rfl⟩ := hd
      obtain ⟨job', hjob', rfl⟩ := h.waiting c t' hw
      obtain rfl : job = job' := Option.some.inj (hjob.symm.trans hjob')
      exact h.absent c _ c hw (entry _ c he)
    · exact hnone t he
  · intro answer hm
    rw [hanswers] at hm
    rw [same]
    exact h.earlier answer hm
  · intro answer hm c hd
    rw [hanswers] at hm
    exact h.finished answer hm c ((hdoing c _).mp hd).1
  · rw [hanswers]
    exact h.distinct
  · intro answer hm herrors c he
    rw [hanswers] at hm
    exact h.cancelled answer hm herrors c (entry _ c he)

theorem queuedJob_eq_some {client : XServerFrontendClientId} {job : PresentJob} :
    server.queuedJob client = some job ↔
      server.session.running client = true ∧ server.jobs[client]? = some job := by
  rw [queuedJob]
  split
  · rename_i hrunning
    exact ⟨fun h => ⟨hrunning, h⟩, fun h => h.2⟩
  · rename_i hrunning
    exact ⟨fun h => (by cases h), fun h => absurd h.1 hrunning⟩

theorem answer_transaction (job : PresentJob) :
    (server.answer job).1.transaction = job.request.transaction := rfl

theorem Tracked.answered (h : Tracked server) {client : XServerFrontendClientId} {job : PresentJob}
    (queued : server.queuedJob client = some job)
    (waits : ∀ c t, next.session.Waits c t → server.session.Waits c t)
    (entry : ∀ t c, next.session.Entry t c → server.session.Entry t c)
    (cancelled : (server.answer job).1.errors ≠ [] →
      ∀ c, ¬ next.session.Entry job.request.transaction c)
    (hjobs : next.jobs = server.jobs.erase client)
    (hanswers : next.answers = server.answers ++ [(server.answer job).1])
    (same : next.nextTransactionId = server.nextTransactionId) : Tracked next := by
  have hdoing := doing_erase hjobs
  obtain ⟨hrunning, hjob⟩ := queuedJob_eq_some.mp queued
  have hclient : server.Doing client job.request.transaction := ⟨job, hjob, rfl⟩
  constructor
  · intro c t hw
    refine (hdoing c t).mpr ⟨h.waiting c t (waits c t hw), ?_⟩
    rintro rfl
    exact PresentSession.not_waits_of_running hrunning (waits c t hw)
  · exact fun c t c' hw he => h.absent c t c' (waits c t hw) (entry t c' he)
  · intro c t hd
    rw [same]
    exact h.below c t ((hdoing c t).mp hd).1
  · exact fun c c' t hd hd' => h.alone c c' t ((hdoing c t).mp hd).1 ((hdoing c' t).mp hd').1
  · intro t c he
    rw [hanswers]
    rcases h.entered t c (entry t c he) with hd | ⟨answer, hm, hsame, herrors⟩
    · by_cases hc : c = client
      · subst hc
        obtain ⟨job', hjob', rfl⟩ := hd
        obtain rfl : job = job' := Option.some.inj (hjob.symm.trans hjob')
        refine Or.inr ⟨_, List.mem_append_right _ List.mem_cons_self, rfl, ?_⟩
        by_contra herrors
        exact cancelled herrors c he
      · exact Or.inl ((hdoing c t).mpr ⟨hd, hc⟩)
    · exact Or.inr ⟨answer, List.mem_append_left _ hm, hsame, herrors⟩
  · intro answer hm
    rw [hanswers] at hm
    rw [same]
    rcases List.mem_append.mp hm with hm | hm
    · exact h.earlier answer hm
    · rw [List.mem_singleton.mp hm]
      exact h.below client _ hclient
  · intro answer hm c hd
    obtain ⟨hd, hne⟩ := (hdoing c _).mp hd
    rw [hanswers] at hm
    rcases List.mem_append.mp hm with hm | hm
    · exact h.finished answer hm c hd
    · rw [List.mem_singleton.mp hm] at hd
      exact hne (h.alone c client _ hd hclient)
  · rw [hanswers, List.map_append, List.map_singleton, answer_transaction]
    refine List.nodup_append.mpr ⟨h.distinct, List.nodup_singleton _, ?_⟩
    rintro t ht _ hlast rfl
    obtain ⟨answer, hm, hsame⟩ := List.mem_map.mp ht
    rw [List.mem_singleton.mp hlast] at hsame
    exact h.finished answer hm client (hsame ▸ hclient)
  · intro answer hm herrors c he
    rw [hanswers] at hm
    rcases List.mem_append.mp hm with hm | hm
    · exact h.cancelled answer hm herrors c (entry _ c he)
    · rw [List.mem_singleton.mp hm] at herrors he
      exact cancelled herrors c he

theorem Tracked.change (h : Tracked server) (hchange : Change server next) : Tracked next := by
  cases hchange with
  | quiet waits entry jobs answers later => exact h.quiet waits entry jobs answers later
  | begun client job idle fresh later waits entry either jobs answers =>
    exact h.begun idle fresh later waits entry either jobs answers
  | resumed client transaction waiting waits entry jobs answers same =>
    exact h.resumed waiting waits entry jobs answers same
  | left client waits entry gone jobs answers same =>
    exact h.left waits entry gone jobs answers same
  | answered client job queued waits entry cancelled jobs answers same =>
    exact h.answered queued waits entry cancelled jobs answers same

section Runs

variable {job : PresentJob} {capacity : ℕ} {actions : List ServerAction}

/-- Of a refused request nothing is submitted, and a submission is under its request's identity. -/
def Faithful (answer : PresentAnswer) : Prop :=
  (answer.errors ≠ [] → answer.submission = none) ∧
    ∀ submission ∈ answer.submission, submission.transaction = answer.transaction

/-- The answer is an error, or the request was submitted. -/
def Settled (answer : PresentAnswer) : Prop := answer.errors ≠ [] ∨ answer.submission.isSome

theorem faithful_answer (server : PresentServer) (job : PresentJob) :
    Faithful (server.answer job).1 := by
  obtain ⟨context, request⟩ := job
  rw [answer, Faithful]
  dsimp only
  constructor
  · intro herrors
    exact if_neg herrors
  · intro submission hm
    rcases FullRuntime.dispatchPresentPixmap_cases server.runtime context request with
      ⟨-, herrors⟩ | ⟨-, herrors, built, hresponse, -⟩
    · rw [if_neg herrors] at hm
      cases hm
    · rw [if_pos herrors] at hm
      refine FullRuntime.presentSubmission_transaction ?_ hm
      intro response hr
      rw [hresponse] at hr
      cases hr
      rfl

/-- The answer settles the request exactly when it shows an imported buffer or is refused. -/
theorem settled_answer (server : PresentServer) (job : PresentJob) :
    Settled (server.answer job).1 ↔
      server.runtime.ShowsImported job.context.namespaceId job.request := by
  obtain ⟨context, request⟩ := job
  rw [answer, Settled, FullRuntime.ShowsImported]
  dsimp only
  rcases FullRuntime.dispatchPresentPixmap_cases server.runtime context request with
    ⟨hrefused, herrors⟩ | ⟨hpresentable, herrors, built, hresponse, hbuffer⟩
  · exact iff_of_true (Or.inl herrors) fun h => absurd h hrefused
  · rw [if_pos herrors, FullRuntime.presentSubmission_isSome _ hresponse, hbuffer]
    constructor
    · rintro (h | h) -
      · exact absurd herrors h
      · exact h
    · intro h
      exact Or.inr (h hpresentable)

theorem named_step (h : PresentSession.Named server.session.workers) (action : ServerAction) :
    PresentSession.Named (server.step action).session.workers := by
  have hsession : ∀ action, PresentSession.Named (server.session.step action).workers :=
    fun action => (PresentSession.step_effect server.session action).named h
  cases action with
  | registry action hr => exact hsession action
  | call call => exact h
  | allocate =>
    rw [step]
    cases hallocated : server.allocateTransaction with
    | none => exact h
    | some allocated =>
      obtain ⟨-, hnext, -⟩ := allocateTransaction_eq_some hallocated
      rw [Option.map_some, Option.getD_some, hnext]
      exact h
  | present client context request =>
    rw [step, present]
    split
    · split
      · exact h
      · rename_i transaction allocated hallocated
        obtain ⟨-, rfl, -⟩ := allocateTransaction_eq_some hallocated
        split
        · exact h
        · exact hsession _
    · exact h
  | wake client timedOut =>
    rw [step, wake]
    split
    · exact hsession _
    · exact h
  | dispatch client =>
    rw [step, dispatch]
    split
    · exact h
    · dsimp only
      split
      · exact h
      · exact hsession _
  | disconnect client =>
    rw [step]
    split
    · exact hsession _
    · exact h

/-- Only the answer to a request is added to the answers. -/
theorem answers_step (server : PresentServer) (action : ServerAction) :
    (server.step action).answers = server.answers ∨
      ∃ client job, action = .dispatch client ∧ server.queuedJob client = some job ∧
        (server.step action).answers = server.answers ++ [(server.answer job).1] := by
  cases action with
  | registry action hr => exact Or.inl rfl
  | call call => exact Or.inl rfl
  | allocate =>
    left
    rw [step]
    cases hallocated : server.allocateTransaction with
    | none => rfl
    | some allocated =>
      obtain ⟨-, hnext, -⟩ := allocateTransaction_eq_some hallocated
      rw [Option.map_some, Option.getD_some, hnext]
  | present client context request =>
    left
    rw [step, present]
    split
    · split
      · rfl
      · rename_i transaction allocated hallocated
        obtain ⟨-, rfl, -⟩ := allocateTransaction_eq_some hallocated
        split <;> rfl
    · rfl
  | wake client timedOut =>
    left
    rw [step, wake]
    split <;> rfl
  | dispatch client =>
    rw [step, dispatch]
    split
    · exact Or.inl rfl
    · rename_i job hjob
      exact Or.inr ⟨client, job, rfl, hjob, rfl⟩
  | disconnect client =>
    left
    rw [step]
    split <;> rfl

/-- What is known of every state a run reaches. -/
structure Reached (server : PresentServer) : Prop where
  named : PresentSession.Named server.session.workers
  tracked : Tracked server
  faithful : ∀ answer ∈ server.answers, Faithful answer

theorem reached_run (capacity : ℕ) (actions : List ServerAction) :
    Reached (Run.exec step (start capacity) actions) := by
  have hstart : Reached (start capacity) := by
    refine ⟨?_, tracked_start capacity, fun answer h => absurd h List.not_mem_nil⟩
    intro client transaction presentation hw
    simp [start, PresentSession.start] at hw
  refine Run.invariant hstart (fun server action _ h => ?_) Run.guarded_true
  · refine ⟨named_step h.named action, h.tracked.change (change_step h.named action), ?_⟩
    intro answer hm
    rcases answers_step server action with hsame | ⟨client, job, -, -, hnext⟩
    · rw [hsame] at hm
      exact h.faithful answer hm
    · rw [hnext] at hm
      rcases List.mem_append.mp hm with hm | hm
      · exact h.faithful answer hm
      · rw [List.mem_singleton.mp hm]
        exact faithful_answer server job

theorem settled_run (hok : Run.Guarded step AnswersImported (start capacity) actions) :
    ∀ answer ∈ (Run.exec step (start capacity) actions).answers, Settled answer := by
  refine Run.invariant (P := fun server => ∀ answer ∈ server.answers, Settled answer)
    (fun answer h => absurd h List.not_mem_nil) ?_ hok
  intro server action himported h answer hm
  rcases answers_step server action with hsame | ⟨client, job, rfl, hjob, hnext⟩
  · rw [hsame] at hm
    exact h answer hm
  · rw [hnext] at hm
    rcases List.mem_append.mp hm with hm | hm
    · exact h answer hm
    · rw [List.mem_singleton.mp hm]
      exact (settled_answer server job).mpr (himported job hjob)

/-- The identities of the submissions are among the answers', in their order. -/
theorem submitted_sublist (answers : List PresentAnswer) (h : ∀ answer ∈ answers, Faithful answer) :
    ((answers.filterMap PresentAnswer.submission).map
      XAuthorityPresentSubmission.transaction).Sublist (answers.map PresentAnswer.transaction) := by
  induction answers with
  | nil => exact List.Sublist.refl _
  | cons answer answers ih =>
    have ih := ih fun answer hm => h answer (List.mem_cons_of_mem _ hm)
    cases hsubmission : answer.submission with
    | none =>
      rw [List.filterMap_cons_none hsubmission]
      exact ih.cons _
    | some submission =>
      rw [List.filterMap_cons_some hsubmission, List.map_cons, List.map_cons,
        (h answer List.mem_cons_self).2 submission hsubmission]
      exact ih.cons_cons _

theorem count_submissions (h : Reached server) {answer : PresentAnswer}
    (hm : answer ∈ server.answers) :
    (server.submissions.map (·.transaction)).count answer.transaction = 1 ↔
      answer.submission.isSome := by
  have hnodup := (submitted_sublist server.answers h.faithful).nodup h.tracked.distinct
  constructor
  · intro hcount
    have hmem : answer.transaction ∈ server.submissions.map (·.transaction) := by
      apply List.count_pos_iff.mp
      omega
    obtain ⟨submission, hsubmission, hsame⟩ := List.mem_map.mp hmem
    obtain ⟨found, hfound, hof⟩ := List.mem_filterMap.mp hsubmission
    have hkey := (h.faithful found hfound).2 submission hof
    have he : found = answer :=
      List.inj_on_of_nodup_map h.tracked.distinct hfound hm (hkey.symm.trans hsame)
    rw [← he, hof]
    rfl
  · intro hsome
    obtain ⟨submission, hof⟩ := Option.isSome_iff_exists.mp hsome
    apply List.count_eq_one_of_mem hnodup
    rw [← (h.faithful answer hm).2 submission hof]
    exact List.mem_map_of_mem (List.mem_filterMap.mpr ⟨answer, hm, hof⟩)

/-- An answer is handled exactly when it is settled. -/
theorem handled_iff (h : Reached server) {answer : PresentAnswer} (hm : answer ∈ server.answers) :
    server.Handled answer ↔ Settled answer := by
  rw [Handled, Settled, count_submissions h hm]
  constructor
  · rintro (⟨herrors, -⟩ | hsome)
    · exact Or.inl herrors
    · exact Or.inr hsome
  · rintro (herrors | hsome)
    · refine Or.inl ⟨herrors, fun hpending => ?_⟩
      obtain ⟨client, hentry⟩ := PresentSession.mem_pending_iff.mp hpending
      exact h.tracked.cancelled answer hm herrors client hentry
    · exact Or.inr hsome

theorem noOrphan (h : Reached server) (hsettled : ∀ answer ∈ server.answers, Settled answer) :
    server.NoOrphan := by
  intro transaction hpending
  obtain ⟨client, hentry⟩ := PresentSession.mem_pending_iff.mp hpending
  rcases h.tracked.entered transaction client hentry with hdoing | ⟨answer, hm, rfl, herrors⟩
  · exact Or.inl ⟨client, hdoing⟩
  · have hsome := (hsettled answer hm).resolve_left (not_not.mpr herrors)
    obtain ⟨submission, hof⟩ := Option.isSome_iff_exists.mp hsome
    exact Or.inr ⟨submission, List.mem_filterMap.mpr ⟨answer, hm, hof⟩,
      (h.faithful answer hm).2 submission hof⟩

end Runs

/-- When every Present request that is accepted shows an imported buffer, each answered one is
handled and no feedback entry is an orphan; the answer to one request is handled exactly so. -/
theorem present_reaches_backend (capacity : ℕ) (actions : List ServerAction) :
    let server := Run.exec step (start capacity) actions
    (Run.Guarded step AnswersImported (start capacity) actions →
      (∀ answer ∈ server.answers, server.Handled answer) ∧ server.NoOrphan) ∧
    ∀ client job, server.queuedJob client = some job →
      ((server.step (.dispatch client)).Handled (server.answer job).1 ↔
        server.runtime.ShowsImported job.context.namespaceId job.request) := by
  intro server
  have hreached : Reached server := reached_run capacity actions
  refine ⟨fun hok => ?_, fun client job hjob => ?_⟩
  · have hsettled := settled_run hok
    exact ⟨fun answer hm => (handled_iff hreached hm).mpr (hsettled answer hm),
      noOrphan hreached hsettled⟩
  · have hnext : Reached (server.step (.dispatch client)) := by
      have h := reached_run capacity (actions ++ [.dispatch client])
      rwa [Run.exec_snoc] at h
    have hm : (server.answer job).1 ∈ (server.step (.dispatch client)).answers := by
      rw [step, dispatch, hjob]
      exact List.mem_append_right _ List.mem_cons_self
    rw [handled_iff hnext hm]
    exact settled_answer server job

section Pixmaps

instance (runtime : FullRuntime) (ns : NamespaceId) (request : XPresentPixmap) :
    Decidable (runtime.ShowsImported ns request) :=
  inferInstanceAs (Decidable (_ ∧ _ → _))

instance (server : PresentServer) (action : ServerAction) :
    Decidable (server.AnswersImported action) :=
  match action with
  | .dispatch client => inferInstanceAs (Decidable (∀ job ∈ server.queuedJob client,
      server.runtime.ShowsImported job.context.namespaceId job.request))
  | .registry .. | .call .. | .allocate | .present .. | .wake .. | .disconnect .. => isTrue trivial

/-- A client opens a window of one pixel, makes a pixmap by the given call and presents it. -/
def presents (pixmap : FullRuntime.RuntimeCall) : List ServerAction :=
  [.registry (.registerClient ⟨1⟩) rfl,
    .call (.plain (.apply ⟨⟨1⟩, ⟨1⟩, .createWindow (.new 0x300010 1) ⟨1, 1⟩ ⟨0, 0, 1, 1⟩
      ⟨none, none⟩ 1⟩) rfl),
    .registry (.registerSurface ⟨1⟩ ⟨1⟩ ⟨1, 1⟩ (.new 0x300010 1)) rfl,
    .call pixmap,
    .present ⟨1⟩ ⟨⟨1⟩, 1, 150⟩ ⟨⟨0⟩, .new 0x300010 1, .new 0x300016 1, 1, 0, 0, 0, none, none, 0, 0, 0⟩,
    .dispatch ⟨1⟩]

def importPixmap : FullRuntime.RuntimeCall :=
  .createDri3Pixmap ⟨1⟩ (.new 0x300016 1) 1 4 1 1 4 24 32

def plainPixmap : FullRuntime.RuntimeCall :=
  .plain (.createResource .pixmap ⟨1⟩ (.new 0x300016 1) 1) rfl

/-- The imported pixmap is submitted. -/
theorem present_reaches_backend_imported :
    let server := Run.exec step (start 1) (presents importPixmap)
    server.submissions.map (·.transaction) = [⟨1⟩] ∧
      (∀ answer ∈ server.answers, server.Handled answer) ∧ server.NoOrphan := by
  intro server
  have hok : Run.Guarded step AnswersImported (start 1) (presents importPixmap) := by
    decide +kernel
  exact ⟨by decide +kernel, (present_reaches_backend 1 (presents importPixmap)).1 hok⟩

/-- The plain pixmap is accepted and never submitted, and its entry stays. -/
theorem plain_pixmap_orphaned :
    let server := Run.exec step (start 1) (presents plainPixmap)
    (∃ answer ∈ server.answers, ¬ server.Handled answer) ∧ ¬ server.NoOrphan := by
  intro server
  have hanswers : server.answers = [⟨⟨1⟩, [], none⟩] := by decide +kernel
  have hpending : (⟨1⟩ : TransactionId) ∈ server.session.pending := by decide +kernel
  have hjobs : server.jobs = ∅ := by decide +kernel
  constructor
  · refine ⟨⟨⟨1⟩, [], none⟩, by simp [hanswers], ?_⟩
    rintro (⟨herrors, -⟩ | hcount)
    · exact herrors rfl
    · simp [submissions, hanswers] at hcount
  · intro hnone
    rcases hnone ⟨1⟩ hpending with ⟨client, job, hjob, -⟩ | ⟨submission, hm, -⟩
    · simp [hjobs] at hjob
    · simp [submissions, hanswers] at hm

end Pixmaps

end PresentServer
end Sophia.Frontend
