import Sophia.Frontend.PresentFeedback

/-! Feedback goes to the subscriptions of the presenting client, and to nobody else. -/
namespace Sophia.Frontend

open Std Sophia.Protocol Sophia.Authority

section Deliveries

namespace PresentSession

variable {session next : PresentSession} {client : XServerFrontendClientId} {event : PresentEvent}
  {round : PresentRound} {n : ℕ}

/-- The event is in the client's queue. -/
def Held (session : PresentSession) (client : XServerFrontendClientId) (event : PresentEvent) :
    Prop :=
  ∃ queue, session.routes.clients[client]? = some queue ∧ event ∈ queue.items

/-- No queue has got a new event. -/
def Inherits (next session : PresentSession) : Prop :=
  ∀ client event, next.Held client event → session.Held client event

/-- How far the feedback calls get with one action. -/
inductive Progress (session : PresentSession) : PresentAction → PresentSession → Prop where
  | quiet {action : PresentAction} {next : PresentSession} (rounds : next.rounds = session.rounds)
      (queues : next.Inherits session) : Progress session action next
  | begun {action : PresentAction} {next : PresentSession} {transaction : TransactionId}
      {presentation : XPendingPresent} {feedback : PresentFeedback}
      (rounds : next.rounds = session.rounds ++ [.start transaction presentation feedback])
      (queues : next.Inherits session) : Progress session action next
  | collected {n : ℕ} {next : PresentSession} {round : PresentRound}
      (found : session.rounds[n]? = some round)
      (rounds : next.rounds = session.rounds.set n { round with
        collected := some (session.routes.subscriptionsFor round.presentation.client
          round.presentation.window round.feedback.maskBit) })
      (uncollected : round.collected = none) (queues : next.Inherits session) :
      Progress session (.collect n) next
  | sent {n : ℕ} {next : PresentSession} {round : PresentRound}
      {subscription : XPresentSubscription} (found : session.rounds[n]? = some round)
      (upcoming : round.upcoming = some subscription)
      (rounds : next.rounds = session.rounds.set n { round with
        delivered := round.delivered ++ [subscription] })
      (queues : ∀ client event, next.Held client event → session.Held client event ∨
        client = round.presentation.client ∧ event = round.event subscription) :
      Progress session (.deliver n) next
  | stopped {n : ℕ} {next : PresentSession} {round : PresentRound}
      (found : session.rounds[n]? = some round)
      (rounds : next.rounds = session.rounds.set n { round with failed := true })
      (queues : next.Inherits session) : Progress session (.deliver n) next

theorem inherits_of_clients (h : next.routes.clients = session.routes.clients) :
    next.Inherits session := by
  rintro client event ⟨queue, hqueue, hevent⟩
  rw [h] at hqueue
  exact ⟨queue, hqueue, hevent⟩

/-- A queue may be replaced by one with fewer events. -/
theorem inherits_of_insert {queue : RouteQueue PresentEvent}
    (h : next.routes.clients = session.routes.clients.insert client queue)
    (hqueue : ∀ event ∈ queue.items, session.Held client event) : next.Inherits session := by
  rintro other event ⟨found, hfound, hevent⟩
  rw [h, ExtTreeMap.getElem?_insert] at hfound
  split at hfound
  · rename_i hclient
    cases hfound
    rw [← LawfulEqOrd.eq_of_compare hclient]
    exact hqueue event hevent
  · exact ⟨found, hfound, hevent⟩

theorem inherits_of_erase (h : next.routes.clients = session.routes.clients.erase client) :
    next.Inherits session := by
  rintro other event ⟨found, hfound, hevent⟩
  rw [h, ExtTreeMap.getElem?_erase] at hfound
  split at hfound
  · cases hfound
  · exact ⟨found, hfound, hevent⟩

theorem modifyQueue_progress {f : RouteQueue PresentEvent → RouteQueue PresentEvent}
    (action : PresentAction) (hf : ∀ queue, ∀ event ∈ (f queue).items, event ∈ queue.items) :
    Progress session action (session.modifyQueue client f) := by
  rw [modifyQueue]
  split
  · exact .quiet rfl (inherits_of_clients rfl)
  · rename_i queue hqueue
    exact .quiet rfl (inherits_of_insert rfl fun event he => ⟨queue, hqueue, hf queue event he⟩)

theorem routeProtocol_held {routes : PresentRoutes} {result : Except XServerFrontendRouteError Unit}
    (h : session.routes.routeProtocol client event = (result, routes))
    (hnext : next.routes.clients = routes.clients) (other : XServerFrontendClientId)
    (event' : PresentEvent) (hheld : next.Held other event') :
    session.Held other event' ∨ other = client ∧ event' = event ∧ result = .ok () := by
  obtain ⟨queue, hqueue, hevent⟩ := hheld
  rw [hnext] at hqueue
  rw [PresentRoutes.routeProtocol] at h
  split at h
  · cases h
    exact Or.inl ⟨queue, hqueue, hevent⟩
  rename_i old hold
  split at h
  · rename_i sent hsent
    cases h
    rw [RouteQueue.trySend] at hsent
    split at hsent
    · cases hsent
    split at hsent
    · cases hsent
      rw [ExtTreeMap.getElem?_insert] at hqueue
      split at hqueue
      · rename_i hclient
        cases hqueue
        have hclient := LawfulEqOrd.eq_of_compare hclient
        subst hclient
        rcases List.mem_append.mp hevent with hevent | hevent
        · exact Or.inl ⟨old, hold, hevent⟩
        · exact Or.inr ⟨rfl, List.mem_singleton.mp hevent, rfl⟩
      · exact Or.inl ⟨queue, hqueue, hevent⟩
    · cases hsent
  · cases h
    exact Or.inl ⟨queue, hqueue, hevent⟩
  · cases h
    rw [ExtTreeMap.getElem?_erase] at hqueue
    split at hqueue
    · cases hqueue
    · exact Or.inl ⟨queue, hqueue, hevent⟩

theorem collect_progress (n : ℕ) : Progress session (.collect n) (session.collect n) := by
  rw [collect]
  split
  · exact .quiet rfl (inherits_of_clients rfl)
  · rename_i round hround
    split
    · exact .quiet rfl (inherits_of_clients rfl)
    · rename_i hcollected
      exact .collected hround rfl (by simpa using hcollected) (inherits_of_clients rfl)

theorem deliver_progress (n : ℕ) : Progress session (.deliver n) (session.deliver n) := by
  rw [deliver]
  split
  · exact .quiet rfl (inherits_of_clients rfl)
  rename_i round hround
  split
  · exact .quiet rfl (inherits_of_clients rfl)
  rename_i subscription hupcoming
  split
  · rename_i routes hroute
    refine .sent hround hupcoming rfl ?_
    intro other event hheld
    refine (routeProtocol_held hroute rfl other event hheld).imp_right ?_
    exact fun h => ⟨h.1, h.2.1⟩
  · rename_i error routes hroute
    refine .stopped hround rfl ?_
    intro other event hheld
    refine (routeProtocol_held hroute rfl other event hheld).resolve_right ?_
    rintro ⟨-, -, he⟩
    cases he

theorem beginRound_progress {action : PresentAction} {transaction : TransactionId}
    {feedback : PresentFeedback} {found : Option (XPendingPresent × PresentRoutes)}
    (hfound : ∀ presentation routes, found = some (presentation, routes) →
      routes.clients = session.routes.clients) :
    Progress session action (session.beginRound transaction feedback found) := by
  cases found with
  | none => exact .quiet rfl (inherits_of_clients rfl)
  | some entry =>
    obtain ⟨presentation, routes⟩ := entry
    exact .begun rfl (inherits_of_clients (hfound presentation routes rfl))

theorem markComplete_clients {routes routes' : PresentRoutes} {transaction : TransactionId}
    {presentation : XPendingPresent}
    (h : routes.markComplete transaction = some (presentation, routes')) :
    routes'.clients = routes.clients := by
  rw [PresentRoutes.markComplete] at h
  split at h
  · cases h
  · split at h
    · cases h
    · cases h
      rfl

theorem takeIdle_clients {routes routes' : PresentRoutes} {transaction : TransactionId}
    {presentation : XPendingPresent}
    (h : routes.takeIdle transaction = some (presentation, routes')) :
    routes'.clients = routes.clients := by
  rw [PresentRoutes.takeIdle] at h
  split at h
  · cases h
  · split at h
    · cases h
    · cases h
      rfl

theorem step_progress (session : PresentSession) (action : PresentAction) :
    Progress session action (session.step action) := by
  cases action with
  | registerClient client =>
    rw [step, registerClient]
    split
    · exact .quiet rfl (inherits_of_clients rfl)
    rw [PresentRoutes.registerClient]
    split
    · exact .quiet rfl (inherits_of_clients rfl)
    · rename_i routes hroutes
      split at hroutes
      · cases hroutes
      · cases hroutes
        exact .quiet rfl (inherits_of_insert rfl (by simp [RouteQueue.empty]))
  | registerSurface client namespaceId surface window =>
    rw [step, byWorker]
    split <;> exact .quiet rfl (inherits_of_clients rfl)
  | receive client n =>
    exact modifyQueue_progress _ fun queue event he => List.mem_of_mem_drop he
  | hangUp client => exact modifyQueue_progress _ fun queue event he => he
  | selectPresentInput client eventId window mask =>
    rw [step, byWorker]
    split <;> exact .quiet rfl (inherits_of_clients rfl)
  | queuePresent transaction client window pixmap serial idleFence =>
    rw [step, byWorker]
    split
    · rw [queuePresent]
      split
      · exact .quiet rfl (inherits_of_clients rfl)
      · split <;> exact .quiet rfl (inherits_of_clients rfl)
    · exact .quiet rfl (inherits_of_clients rfl)
  | wake client timedOut =>
    rw [step, wake]
    split
    · split
      · split <;> exact .quiet rfl (inherits_of_clients rfl)
      · exact .quiet rfl (inherits_of_clients rfl)
    · exact .quiet rfl (inherits_of_clients rfl)
  | cancelPresent transaction => exact .quiet rfl (inherits_of_clients rfl)
  | routePresentComplete transaction ust msc mode =>
    exact beginRound_progress fun _ _ hfound => markComplete_clients hfound
  | routePresentIdle transaction =>
    exact beginRound_progress fun _ _ hfound => takeIdle_clients hfound
  | collect n => exact collect_progress n
  | deliver n => exact deliver_progress n
  | disconnect client =>
    rw [step, byWorker]
    split
    · exact .quiet rfl (inherits_of_erase rfl)
    · exact .quiet rfl (inherits_of_clients rfl)

theorem getElem?_set_some {rounds : List PresentRound} (h : rounds[n]? = some round)
    (round' : PresentRound) (m : ℕ) :
    (rounds.set n round')[m]? = if n = m then some round' else rounds[m]? := by
  obtain ⟨hlt, -⟩ := List.getElem?_eq_some_iff.mp h
  rw [List.getElem?_set, if_pos hlt]

theorem getElem?_snoc {rounds : List PresentRound} {last : PresentRound} {m : ℕ}
    (h : (rounds ++ [last])[m]? = some round) : rounds[m]? = some round ∨ round = last := by
  rw [List.getElem?_append] at h
  split at h
  · exact Or.inl h
  · have hm := List.mem_of_getElem? h
    exact Or.inr (List.mem_singleton.mp hm)

/-- A prefix goes on with the element after it. -/
theorem snoc_prefix {l l' : List XPresentSubscription} {subscription : XPresentSubscription}
    (h : l <+: l') (hnext : l'[l.length]? = some subscription) : l ++ [subscription] <+: l' := by
  obtain ⟨rest, rfl⟩ := h
  cases rest with
  | nil => simp at hnext
  | cons first rest =>
    have hfirst : first = subscription := by simpa using hnext
    subst hfirst
    exact ⟨rest, by simp⟩

/-- What a call has sent is the start of what it collected. -/
def InOrder (session : PresentSession) : Prop :=
  ∀ (n : ℕ) round, session.rounds[n]? = some round → round.delivered <+: round.matched

/-- Whatever is in a queue was sent there by a call about a presentation of that client. -/
def Addressed (session : PresentSession) : Prop :=
  ∀ client event, session.Held client event → ∃ round ∈ session.rounds,
    round.presentation.client = client ∧
      ∃ subscription ∈ round.delivered, event = round.event subscription

/-- A call collected the subscriptions that matched when it looked. -/
def Collected (capacity : ℕ) (actions : List PresentAction) (session : PresentSession) : Prop :=
  ∀ (n : ℕ) round subscriptions, session.rounds[n]? = some round →
    round.collected = some subscriptions → ∃ before after,
      actions = before ++ .collect n :: after ∧
      subscriptions = (Run.exec step (start capacity) before).routes.subscriptionsFor
        round.presentation.client round.presentation.window round.feedback.maskBit

theorem InOrder.step (h : session.InOrder) {action : PresentAction}
    (hprogress : Progress session action next) : next.InOrder := by
  intro m round hround
  cases hprogress with
  | quiet rounds queues =>
    rw [rounds] at hround
    exact h m round hround
  | begun rounds queues =>
    rw [rounds] at hround
    rcases getElem?_snoc hround with hround | rfl
    · exact h m round hround
    · exact List.nil_prefix
  | collected found rounds uncollected queues =>
    rw [rounds, getElem?_set_some found] at hround
    split at hround
    · cases hround
      have hempty := h _ _ found
      simp only [PresentRound.matched, uncollected, Option.getD_none, List.prefix_nil] at hempty
      simp [hempty]
    · exact h m round hround
  | sent found upcoming rounds queues =>
    rw [rounds, getElem?_set_some found] at hround
    split at hround
    · cases hround
      simp only [PresentRound.upcoming] at upcoming
      split at upcoming
      · cases upcoming
      · exact snoc_prefix (h _ _ found) upcoming
    · exact h m round hround
  | stopped found rounds queues =>
    rw [rounds, getElem?_set_some found] at hround
    split at hround
    · cases hround
      have hprefix := h _ _ found
      exact hprefix
    · exact h m round hround

/-- A round keeps its place, its presentation and what it has sent. -/
theorem Progress.keeps {action : PresentAction} (h : Progress session action next)
    (hround : round ∈ session.rounds) : ∃ round' ∈ next.rounds,
      round'.origin = round.origin ∧ ∀ subscription ∈ round.delivered,
        subscription ∈ round'.delivered := by
  obtain ⟨m, hm⟩ := List.mem_iff_getElem?.mp hround
  have hset : ∀ {k : ℕ} {old changed : PresentRound}, session.rounds[k]? = some old →
      next.rounds = session.rounds.set k changed → changed.origin = old.origin →
      (∀ subscription ∈ old.delivered, subscription ∈ changed.delivered) →
      ∃ round' ∈ next.rounds, round'.origin = round.origin ∧ ∀ subscription ∈ round.delivered,
        subscription ∈ round'.delivered := by
    intro k old changed hold hrounds horigin hsent
    have hget := getElem?_set_some hold changed m
    rw [← hrounds] at hget
    split at hget
    · rename_i hk
      subst hk
      rw [hm] at hold
      cases hold
      exact ⟨changed, List.mem_of_getElem? hget, horigin, hsent⟩
    · rw [hm] at hget
      exact ⟨round, List.mem_of_getElem? hget, rfl, fun _ hs => hs⟩
  cases h with
  | quiet rounds queues => exact ⟨round, rounds ▸ hround, rfl, fun _ hs => hs⟩
  | begun rounds queues =>
    exact ⟨round, rounds ▸ List.mem_append_left _ hround, rfl, fun _ hs => hs⟩
  | collected found rounds uncollected queues => exact hset found rounds rfl fun _ hs => hs
  | sent found upcoming rounds queues =>
    exact hset found rounds rfl fun _ hs => List.mem_append_left _ hs
  | stopped found rounds queues => exact hset found rounds rfl fun _ hs => hs

theorem event_of_origin {round' : PresentRound} (h : round'.origin = round.origin) :
    round'.presentation = round.presentation ∧ round'.event = round.event := by
  simp only [PresentRound.origin, PresentRound.start, PresentRound.mk.injEq, and_true] at h
  obtain ⟨-, hpresentation, hfeedback⟩ := h
  refine ⟨hpresentation, funext fun subscription => ?_⟩
  rw [PresentRound.event, PresentRound.event, hpresentation, hfeedback]

theorem Addressed.step (h : session.Addressed) {action : PresentAction}
    (hprogress : Progress session action next) : next.Addressed := by
  have hold : ∀ client event, session.Held client event → ∃ round ∈ next.rounds,
      round.presentation.client = client ∧
        ∃ subscription ∈ round.delivered, event = round.event subscription := by
    intro client event hheld
    obtain ⟨round, hround, hclient, subscription, hsent, hevent⟩ := h client event hheld
    obtain ⟨round', hround', horigin, hkeeps⟩ := hprogress.keeps hround
    obtain ⟨hpresentation, hevents⟩ := event_of_origin horigin
    exact ⟨round', hround', hpresentation ▸ hclient, subscription, hkeeps _ hsent, hevents ▸ hevent⟩
  intro client event hheld
  cases hprogress with
  | quiet rounds queues => exact hold client event (queues client event hheld)
  | begun rounds queues => exact hold client event (queues client event hheld)
  | collected found rounds uncollected queues => exact hold client event (queues client event hheld)
  | stopped found rounds queues => exact hold client event (queues client event hheld)
  | @sent n _ old subscription found upcoming rounds queues =>
    rcases queues client event hheld with hheld | ⟨rfl, rfl⟩
    · exact hold client event hheld
    · obtain ⟨hlt, -⟩ := List.getElem?_eq_some_iff.mp found
      have hsent := List.mem_set hlt { old with delivered := old.delivered ++ [subscription] }
      rw [← rounds] at hsent
      exact ⟨_, hsent, rfl, _, List.mem_append_right _ List.mem_cons_self, rfl⟩

theorem Collected.step {capacity : ℕ} {actions : List PresentAction}
    (h : Collected capacity actions (Run.exec PresentSession.step (start capacity) actions))
    {action : PresentAction}
    (hprogress : Progress (Run.exec PresentSession.step (start capacity) actions) action next) :
    Collected capacity (actions ++ [action]) next := by
  have hold : ∀ (n : ℕ) round subscriptions,
      (Run.exec PresentSession.step (start capacity) actions).rounds[n]? = some round →
      round.collected = some subscriptions → ∃ before after,
        actions ++ [action] = before ++ .collect n :: after ∧
        subscriptions = (Run.exec PresentSession.step (start capacity) before).routes.subscriptionsFor
          round.presentation.client round.presentation.window round.feedback.maskBit := by
    intro n round subscriptions hround hcollected
    obtain ⟨before, after, rfl, hsubscriptions⟩ := h n round subscriptions hround hcollected
    exact ⟨before, after ++ [action], by simp, hsubscriptions⟩
  intro m round subscriptions hround hcollected
  cases hprogress with
  | quiet rounds queues => exact hold m round subscriptions (rounds ▸ hround) hcollected
  | begun rounds queues =>
    rw [rounds] at hround
    rcases getElem?_snoc hround with hround | rfl
    · exact hold m round subscriptions hround hcollected
    · cases hcollected
  | collected found rounds uncollected queues =>
    rw [rounds, getElem?_set_some found] at hround
    split at hround
    · rename_i hm
      subst hm
      cases hround
      cases hcollected
      exact ⟨actions, [], rfl, rfl⟩
    · exact hold m round subscriptions hround hcollected
  | sent found upcoming rounds queues =>
    rw [rounds, getElem?_set_some found] at hround
    split at hround
    · rename_i hm
      subst hm
      cases hround
      obtain ⟨before, after, he, hsubscriptions⟩ := hold _ _ subscriptions found hcollected
      exact ⟨before, after, he, hsubscriptions⟩
    · exact hold m round subscriptions hround hcollected
  | stopped found rounds queues =>
    rw [rounds, getElem?_set_some found] at hround
    split at hround
    · rename_i hm
      subst hm
      cases hround
      obtain ⟨before, after, he, hsubscriptions⟩ := hold _ _ subscriptions found hcollected
      exact ⟨before, after, he, hsubscriptions⟩
    · exact hold m round subscriptions hround hcollected

/-- A subscription is stored under its own event id. -/
def SubscriptionsKeyed (routes : PresentRoutes) : Prop :=
  ∀ (key : PresentSubscriptionKey) subscription,
    routes.presentSubscriptions[key]? = some subscription → subscription.eventId = key.eventId

theorem mem_subscriptionsFor {routes : PresentRoutes} (h : SubscriptionsKeyed routes)
    {window : XResourceId} {bit : ℕ} {subscription : XPresentSubscription} :
    subscription ∈ routes.subscriptionsFor client window bit ↔
      routes.presentSubscriptions[(⟨client, subscription.eventId⟩ : PresentSubscriptionKey)]? =
        some subscription ∧ subscription.window = window ∧
        subscription.mask.toNat.testBit bit = true := by
  simp only [PresentRoutes.subscriptionsFor, List.mem_filterMap, Prod.exists,
    ExtTreeMap.mem_toList_iff_getElem?_eq_some, Option.ite_none_right_eq_some, Option.some.injEq]
  constructor
  · rintro ⟨key, found, hfound, ⟨rfl, hwindow, hmask⟩, rfl⟩
    have hkey := h key found hfound
    rw [hkey]
    exact ⟨hfound, hwindow, hmask⟩
  · rintro ⟨hfound, hwindow, hmask⟩
    exact ⟨_, subscription, hfound, ⟨rfl, hwindow, hmask⟩, rfl⟩

/-- Every event id is collected once. -/
theorem nodup_subscriptionsFor {routes : PresentRoutes} (h : SubscriptionsKeyed routes)
    (client : XServerFrontendClientId) (window : XResourceId) (bit : ℕ) :
    ((routes.subscriptionsFor client window bit).map XPresentSubscription.eventId).Nodup := by
  have hsorted : routes.presentSubscriptions.toList.Pairwise fun a b => compare a.1 b.1 = .lt :=
    ExtTreeMap.ordered_keys_toList
  rw [List.Nodup, List.pairwise_map, PresentRoutes.subscriptionsFor, List.pairwise_filterMap]
  refine hsorted.imp_of_mem ?_
  intro a b ha hb hlt subscription hsubscription subscription' hsubscription' he
  simp only [Option.ite_none_right_eq_some, Option.some.injEq] at hsubscription hsubscription'
  obtain ⟨⟨hclient, -⟩, rfl⟩ := hsubscription
  obtain ⟨⟨hclient', -⟩, rfl⟩ := hsubscription'
  have hkey := h _ _ (ExtTreeMap.mem_toList_iff_getElem?_eq_some.mp ha)
  have hkey' := h _ _ (ExtTreeMap.mem_toList_iff_getElem?_eq_some.mp hb)
  have hsame : a.1 = b.1 := by
    cases hka : a.1
    cases hkb : b.1
    simp_all
  rw [hsame, ReflOrd.compare_self] at hlt
  cases hlt

theorem routeProtocol_subscriptions (routes : PresentRoutes) (client : XServerFrontendClientId)
    (event : PresentEvent) :
    (routes.routeProtocol client event).2.presentSubscriptions = routes.presentSubscriptions := by
  rw [PresentRoutes.routeProtocol]
  split
  · rfl
  split <;> rfl

theorem SubscriptionsKeyed.select {routes : PresentRoutes} (h : SubscriptionsKeyed routes)
    (eventId window : XResourceId) (mask : UInt32) :
    SubscriptionsKeyed (routes.selectPresentInput client eventId window mask) := by
  intro key subscription hfound
  simp only [PresentRoutes.selectPresentInput] at hfound
  split at hfound
  · rw [ExtTreeMap.getElem?_erase] at hfound
    split at hfound
    · cases hfound
    · exact h key subscription hfound
  · rw [ExtTreeMap.getElem?_insert] at hfound
    split at hfound
    · rename_i hkey
      cases hfound
      rw [← LawfulEqOrd.eq_of_compare hkey]
    · exact h key subscription hfound

theorem SubscriptionsKeyed.step (h : SubscriptionsKeyed session.routes) (action : PresentAction) :
    SubscriptionsKeyed (session.step action).routes := by
  cases action with
  | registerClient client =>
    rw [PresentSession.step, registerClient, PresentRoutes.registerClient]
    split
    · exact h
    · split
      · exact h
      · rename_i hroutes
        split at hroutes
        · cases hroutes
        · cases hroutes
          exact h
  | registerSurface client namespaceId surface window =>
    rw [PresentSession.step, byWorker]
    split <;> exact h
  | receive client n =>
    rw [PresentSession.step, modifyQueue]
    split <;> exact h
  | hangUp client =>
    rw [PresentSession.step, modifyQueue]
    split <;> exact h
  | selectPresentInput client eventId window mask =>
    rw [PresentSession.step, byWorker]
    split
    · exact h.select eventId window mask
    · exact h
  | queuePresent transaction client window pixmap serial idleFence =>
    rw [PresentSession.step, byWorker, queuePresent]
    split
    · split
      · exact h
      · split <;> exact h
    · exact h
  | wake client timedOut =>
    rw [PresentSession.step, wake]
    split
    · split
      · split <;> exact h
      · exact h
    · exact h
  | cancelPresent transaction => exact h
  | routePresentComplete transaction ust msc mode =>
    rw [PresentSession.step, PresentRoutes.markComplete]
    split
    · exact h
    · split <;> exact h
  | routePresentIdle transaction =>
    rw [PresentSession.step, PresentRoutes.takeIdle]
    split
    · exact h
    · split <;> exact h
  | collect n =>
    rw [PresentSession.step, collect]
    split
    · exact h
    · split <;> exact h
  | deliver n =>
    rw [PresentSession.step, deliver]
    split
    · exact h
    split
    · exact h
    rename_i round _ _ subscription _
    have hsame := routeProtocol_subscriptions session.routes round.presentation.client
      (round.event subscription)
    split
    · rename_i hroute
      rw [hroute] at hsame
      intro key found hfound
      exact h key found (hsame ▸ hfound)
    · rename_i hroute
      rw [hroute] at hsame
      intro key found hfound
      exact h key found (hsame ▸ hfound)
  | disconnect client =>
    rw [PresentSession.step, byWorker]
    split
    · intro key subscription hfound
      simp only [PresentRoutes.dropRegistration] at hfound
      rw [ExtTreeMap.getElem?_filter', Option.filter_eq_some_iff] at hfound
      exact h key subscription hfound.1
    · exact h

theorem deliveries_run (capacity : ℕ) (actions : List PresentAction) :
    let session := Run.exec PresentSession.step (start capacity) actions
    session.InOrder ∧ session.Addressed ∧ Collected capacity actions session ∧
      SubscriptionsKeyed session.routes := by
  induction actions using List.reverseRecOn with
  | nil =>
    refine ⟨?_, ?_, ?_, ?_⟩
    · intro n round hround
      simp [start] at hround
    · rintro client event ⟨queue, hqueue, -⟩
      simp [start] at hqueue
    · intro n round subscriptions hround
      simp [start] at hround
    · intro key subscription hfound
      simp [start] at hfound
  | append_singleton actions action ih =>
    obtain ⟨horder, haddressed, hcollected, hkeyed⟩ := ih
    have hprogress := step_progress (Run.exec PresentSession.step (start capacity) actions) action
    dsimp only
    rw [Run.exec_snoc]
    exact ⟨horder.step hprogress, haddressed.step hprogress, hcollected.step hprogress,
      hkeyed.step action⟩

theorem keys_origins (session : PresentSession) :
    session.origins.map PresentRound.key = session.rounds.map PresentRound.key := by
  rw [origins, List.map_map]
  rfl

theorem disconnect_pending (hrunning : session.running client = true) (transaction : TransactionId)
    (presentation : XPendingPresent) :
    (session.step (.disconnect client)).routes.pendingPresentations[transaction]? =
        some presentation ↔
      session.routes.pendingPresentations[transaction]? = some presentation ∧
        presentation.client ≠ client := by
  rw [PresentSession.step, byWorker, if_pos hrunning]
  show (session.routes.pendingPresentations.filter _)[transaction]? = some presentation ↔ _
  rw [ExtTreeMap.getElem?_filter', Option.filter_eq_some_iff, decide_eq_true_eq]

end PresentSession
end Deliveries
end Sophia.Frontend
