import Sophia.Frontend.Routes
import Sophia.Lib.Fallible
import Sophia.Lib.Ordered
import Sophia.Lib.Users

/-! Pending presentations and the feedback their clients subscribed to. -/
namespace Sophia.Frontend

open Std Sophia.Protocol Sophia.Authority

inductive XPresentCompletionMode where
  | copy
  | flip
  | skip
  | suboptimalCopy
  deriving DecidableEq, Repr

/-- The Present events a router can send; the sequence number is filled in by the writer. -/
inductive PresentEvent where
  | presentCompleteNotify (sequence : UInt16) (eventId window : XResourceId) (serial : UInt32)
      (ust msc : UInt64) (mode : XPresentCompletionMode)
  | presentIdleNotify (sequence : UInt16) (eventId window : XResourceId) (serial : UInt32)
      (pixmap : XResourceId) (idleFence : Option XResourceId)
  deriving DecidableEq, Repr

structure PresentSubscriptionKey where
  client : XServerFrontendClientId
  eventId : XResourceId
  deriving DecidableEq, Repr

namespace PresentSubscriptionKey

instance : Ord PresentSubscriptionKey := ⟨compareLex (compareOn client) (compareOn eventId)⟩

instance : TransOrd PresentSubscriptionKey :=
  inferInstanceAs (TransCmp (compareLex (compareOn client) (compareOn eventId)))

instance : LawfulEqOrd PresentSubscriptionKey where
  eq_of_compare {a b} h := by
    obtain ⟨hclient, hevent⟩ := compareLex_eq_eq.mp h
    cases a
    cases b
    congr 1
    · exact LawfulEqOrd.eq_of_compare hclient
    · exact LawfulEqOrd.eq_of_compare hevent

end PresentSubscriptionKey

structure XPresentSubscription where
  eventId : XResourceId
  window : XResourceId
  mask : UInt32
  deriving DecidableEq, Repr

structure XPendingPresent where
  client : XServerFrontendClientId
  window : XResourceId
  pixmap : XResourceId
  serial : UInt32
  idleFence : Option XResourceId
  completed : Bool
  deriving DecidableEq, Repr

/-- The tables of the route registry that Present feedback goes through. -/
structure PresentRoutes where
  clients : ExtTreeMap XServerFrontendClientId (RouteQueue PresentEvent)
  surfaces : ExtTreeMap SurfaceId XServerFrontendSurfaceRoute
  presentSubscriptions : ExtTreeMap PresentSubscriptionKey XPresentSubscription
  pendingPresentations : ExtTreeMap TransactionId XPendingPresent
  perClientQueueCapacity : ℕ

namespace PresentRoutes

def registerClient (routes : PresentRoutes) (client : XServerFrontendClientId) :
    Except XServerFrontendRouteError PresentRoutes :=
  if client ∈ routes.clients then .error (.duplicateClient client)
  else .ok { routes with clients := routes.clients.insert client .empty }

def registerSurface (routes : PresentRoutes) (client : XServerFrontendClientId)
    (namespaceId : NamespaceId) (surface : SurfaceId) (window : XResourceId) : PresentRoutes :=
  { routes with surfaces := routes.surfaces.insert surface ⟨client, namespaceId, window⟩ }

def selectPresentInput (routes : PresentRoutes) (client : XServerFrontendClientId)
    (eventId window : XResourceId) (mask : UInt32) : PresentRoutes :=
  { routes with
    presentSubscriptions :=
      if mask = 0 then routes.presentSubscriptions.erase ⟨client, eventId⟩
      else routes.presentSubscriptions.insert ⟨client, eventId⟩ ⟨eventId, window, mask⟩ }

/-- The pending presentations of one client. -/
def pendingCount (routes : PresentRoutes) (client : XServerFrontendClientId) : ℕ :=
  Users.count routes.pendingPresentations fun presentation => presentation.client = client

def atCapacity (routes : PresentRoutes) (client : XServerFrontendClientId) : Bool :=
  routes.perClientQueueCapacity ≤ routes.pendingCount client

/-- The checks `queue_present` makes before it looks at the capacity. -/
def presentAdmissible (routes : PresentRoutes) (transaction : TransactionId)
    (client : XServerFrontendClientId) (window : XResourceId) :
    Except XServerFrontendRouteError Unit := do
  Fallible.require ((Ordered.values routes.surfaces).any fun route =>
    route.client = client ∧ route.window = window) (.unknownClient client)
  Fallible.require (transaction ∉ routes.pendingPresentations) (.duplicatePresentation transaction)

def insertPresent (routes : PresentRoutes) (transaction : TransactionId)
    (presentation : XPendingPresent) : PresentRoutes :=
  { routes with
    pendingPresentations := routes.pendingPresentations.insert transaction presentation }

def cancelPresent (routes : PresentRoutes) (transaction : TransactionId) : PresentRoutes :=
  { routes with pendingPresentations := routes.pendingPresentations.erase transaction }

/-- The first half of `route_present_complete`: the presentation, marked complete. -/
def markComplete (routes : PresentRoutes) (transaction : TransactionId) :
    Option (XPendingPresent × PresentRoutes) :=
  match routes.pendingPresentations[transaction]? with
  | none => none
  | some presentation =>
    if presentation.completed then none
    else
      let presentation := { presentation with completed := true }
      some (presentation, routes.insertPresent transaction presentation)

/-- The first half of `route_present_idle`: the completed presentation, taken out. -/
def takeIdle (routes : PresentRoutes) (transaction : TransactionId) :
    Option (XPendingPresent × PresentRoutes) :=
  match routes.pendingPresentations[transaction]? with
  | none => none
  | some front =>
    if !front.completed then none else some (front, routes.cancelPresent transaction)

/-- The subscriptions of a client for a window with a bit of the mask set. -/
def subscriptionsFor (routes : PresentRoutes) (client : XServerFrontendClientId)
    (window : XResourceId) (bit : ℕ) : List XPresentSubscription :=
  routes.presentSubscriptions.toList.filterMap fun (key, subscription) =>
    if key.client = client ∧ subscription.window = window ∧ subscription.mask.toNat.testBit bit then
      some subscription
    else none

def routeProtocol (routes : PresentRoutes) (client : XServerFrontendClientId)
    (event : PresentEvent) : Except XServerFrontendRouteError Unit × PresentRoutes :=
  match routes.clients[client]? with
  | none => (.error (.unknownClient client), routes)
  | some queue => match queue.trySend routes.perClientQueueCapacity event with
    | (.sent, queue) => (.ok (), { routes with clients := routes.clients.insert client queue })
    | (.full, _) => (.error (.clientQueueFull client), routes)
    | (.disconnected, _) => (.ok (), { routes with clients := routes.clients.erase client })

/-- What dropping the registration of a client does to these tables. -/
def dropRegistration (routes : PresentRoutes) (client : XServerFrontendClientId) :
    PresentRoutes :=
  { routes with
    clients := routes.clients.erase client
    surfaces := routes.surfaces.filter fun _ route => route.client ≠ client
    presentSubscriptions := routes.presentSubscriptions.filter fun key _ => key.client ≠ client
    pendingPresentations := routes.pendingPresentations.filter
      fun _ presentation => presentation.client ≠ client }

end PresentRoutes

/-- The two calls that send feedback. -/
inductive PresentFeedback where
  | complete (ust msc : UInt64) (mode : XPresentCompletionMode)
  | idle
  deriving DecidableEq, Repr

namespace PresentFeedback

def isIdle : PresentFeedback → Bool
  | .complete _ _ _ => false
  | .idle => true

/-- The mask bit a subscription needs for this feedback. -/
def maskBit : PresentFeedback → ℕ
  | .complete _ _ _ => 1
  | .idle => 2

/-- The event a subscription gets. -/
def event (feedback : PresentFeedback) (presentation : XPendingPresent)
    (subscription : XPresentSubscription) : PresentEvent :=
  match feedback with
  | .complete ust msc mode => .presentCompleteNotify 0 subscription.eventId presentation.window
      presentation.serial ust msc mode
  | .idle => .presentIdleNotify 0 subscription.eventId presentation.window presentation.serial
      presentation.pixmap presentation.idleFence

end PresentFeedback

/-- A feedback call that found its presentation: what it collected and what it has sent. -/
structure PresentRound where
  transaction : TransactionId
  presentation : XPendingPresent
  feedback : PresentFeedback
  collected : Option (List XPresentSubscription)
  delivered : List XPresentSubscription
  failed : Bool
  deriving DecidableEq, Repr

namespace PresentRound

def start (transaction : TransactionId) (presentation : XPendingPresent)
    (feedback : PresentFeedback) : PresentRound :=
  ⟨transaction, presentation, feedback, none, [], false⟩

def matched (round : PresentRound) : List XPresentSubscription := round.collected.getD []

/-- The subscription the call sends to next. -/
def upcoming (round : PresentRound) : Option XPresentSubscription :=
  if round.failed then none else round.matched[round.delivered.length]?

def event (round : PresentRound) (subscription : XPresentSubscription) : PresentEvent :=
  round.feedback.event round.presentation subscription

/-- The presentation and the half of its protocol this round belongs to. -/
def key (round : PresentRound) : TransactionId × Bool :=
  (round.transaction, round.feedback.isIdle)

end PresentRound

/-- What the threads around the registry can do next. Each action holds the registry's locks for
one critical section; `queue_present` gives its lock up while it waits for capacity, and a feedback
call does so before it reads the subscriptions and between any two sends. -/
inductive PresentAction where
  | registerClient (client : XServerFrontendClientId)
  | registerSurface (client : XServerFrontendClientId) (namespaceId : NamespaceId)
      (surface : SurfaceId) (window : XResourceId)
  | receive (client : XServerFrontendClientId) (n : ℕ)
  | hangUp (client : XServerFrontendClientId)
  | selectPresentInput (client : XServerFrontendClientId) (eventId window : XResourceId)
      (mask : UInt32)
  | queuePresent (transaction : TransactionId) (client : XServerFrontendClientId)
      (window pixmap : XResourceId) (serial : UInt32) (idleFence : Option XResourceId)
  | wake (client : XServerFrontendClientId) (timedOut : Bool)
  | cancelPresent (transaction : TransactionId)
  | routePresentComplete (transaction : TransactionId) (ust msc : UInt64)
      (mode : XPresentCompletionMode)
  | routePresentIdle (transaction : TransactionId)
  | collect (round : ℕ)
  | deliver (round : ℕ)
  | disconnect (client : XServerFrontendClientId)
  deriving DecidableEq, Repr

/-- A connected client's worker: running, or waiting for capacity inside `queue_present`. -/
inductive PresentWorker where
  | running
  | waiting (transaction : TransactionId) (presentation : XPendingPresent)
  deriving DecidableEq, Repr

structure PresentSession where
  routes : PresentRoutes
  workers : ExtTreeMap XServerFrontendClientId PresentWorker
  rounds : List PresentRound

namespace PresentSession

def start (capacity : ℕ) : PresentSession := ⟨⟨∅, ∅, ∅, ∅, capacity⟩, ∅, []⟩

def running (session : PresentSession) (client : XServerFrontendClientId) : Bool :=
  session.workers[client]? == some .running

/-- Runs a call of a client's own worker, which makes one call at a time. -/
def byWorker (session : PresentSession) (client : XServerFrontendClientId)
    (next : PresentSession) : PresentSession :=
  if session.running client then next else session

/-- `queue_present` up to its wait, if it has to wait. -/
def queuePresent (session : PresentSession) (transaction : TransactionId)
    (presentation : XPendingPresent) : PresentSession :=
  match session.routes.presentAdmissible transaction presentation.client presentation.window with
  | .error _ => session
  | .ok _ =>
    if session.routes.atCapacity presentation.client then
      { session with
        workers := session.workers.insert presentation.client (.waiting transaction presentation) }
    else { session with routes := session.routes.insertPresent transaction presentation }

/-- The waiting call looks at the capacity again: it goes on, waits on, or gives up. -/
def wake (session : PresentSession) (client : XServerFrontendClientId) (timedOut : Bool) :
    PresentSession :=
  match session.workers[client]? with
  | some (.waiting transaction presentation) =>
    if session.routes.atCapacity client then
      if timedOut then { session with workers := session.workers.insert client .running }
      else session
    else { session with
      routes := session.routes.insertPresent transaction presentation
      workers := session.workers.insert client .running }
  | _ => session

def beginRound (session : PresentSession) (transaction : TransactionId)
    (feedback : PresentFeedback) (found : Option (XPendingPresent × PresentRoutes)) :
    PresentSession :=
  match found with
  | none => session
  | some (presentation, routes) => { session with
      routes
      rounds := session.rounds ++ [.start transaction presentation feedback] }

/-- The call reads the subscriptions, once. -/
def collect (session : PresentSession) (n : ℕ) : PresentSession :=
  match session.rounds[n]? with
  | none => session
  | some round =>
    if round.collected.isSome then session
    else { session with
      rounds := session.rounds.set n { round with
        collected := some (session.routes.subscriptionsFor round.presentation.client
          round.presentation.window round.feedback.maskBit) } }

/-- The call sends to its next subscription; an error ends it. -/
def deliver (session : PresentSession) (n : ℕ) : PresentSession :=
  match session.rounds[n]? with
  | none => session
  | some round => match round.upcoming with
    | none => session
    | some subscription =>
      match session.routes.routeProtocol round.presentation.client (round.event subscription) with
      | (.ok _, routes) => { session with
          routes
          rounds := session.rounds.set n { round with
            delivered := round.delivered ++ [subscription] } }
      | (.error _, routes) => { session with
          routes
          rounds := session.rounds.set n { round with failed := true } }

/-- A registration is made for a client that has no worker yet. -/
def registerClient (session : PresentSession) (client : XServerFrontendClientId) :
    PresentSession :=
  if client ∈ session.workers then session
  else match session.routes.registerClient client with
    | .error _ => session
    | .ok routes => { session with
        routes
        workers := session.workers.insert client .running }

def modifyQueue (session : PresentSession) (client : XServerFrontendClientId)
    (f : RouteQueue PresentEvent → RouteQueue PresentEvent) : PresentSession :=
  match session.routes.clients[client]? with
  | none => session
  | some queue => { session with
      routes := { session.routes with clients := session.routes.clients.insert client (f queue) } }

def step (session : PresentSession) : PresentAction → PresentSession
  | .registerClient client => session.registerClient client
  | .registerSurface client namespaceId surface window => session.byWorker client
      { session with routes := session.routes.registerSurface client namespaceId surface window }
  | .receive client n => session.modifyQueue client (·.receive n)
  | .hangUp client => session.modifyQueue client (·.hangUp)
  | .selectPresentInput client eventId window mask => session.byWorker client
      { session with routes := session.routes.selectPresentInput client eventId window mask }
  | .queuePresent transaction client window pixmap serial idleFence => session.byWorker client
      (session.queuePresent transaction ⟨client, window, pixmap, serial, idleFence, false⟩)
  | .wake client timedOut => session.wake client timedOut
  | .cancelPresent transaction =>
    { session with routes := session.routes.cancelPresent transaction }
  | .routePresentComplete transaction ust msc mode =>
    session.beginRound transaction (.complete ust msc mode) (session.routes.markComplete transaction)
  | .routePresentIdle transaction =>
    session.beginRound transaction .idle (session.routes.takeIdle transaction)
  | .collect n => session.collect n
  | .deliver n => session.deliver n
  | .disconnect client => session.byWorker client
      { session with
        routes := session.routes.dropRegistration client
        workers := session.workers.erase client }

end PresentSession
end Sophia.Frontend
