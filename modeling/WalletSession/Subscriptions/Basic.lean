import WalletSession.Emitter
import WalletSession.Json.Printer
import WalletSession.KeyMap
import WalletSession.Rpc.Notification
import WalletSession.Subscriptions.Registry

set_option autoImplicit false

/-! # Subscriptions

Which domains are subscribed to the notifications of which scopes. A scope with subscribers has a feed, the
source of its chain's notifications, and every subscription is a listener on that feed. -/

namespace WalletSession

/-- Where notifications of a scope are sent on to. -/
structure Route where
  scope : String
  domain : String
deriving DecidableEq, Repr

/-- A notification for a domain. -/
structure DomainNotification where
  domain : String
  notification : WalletNotification

/-- The notification as it is sent along a route. -/
def Route.message (route : Route) (n : Notification) : DomainNotification :=
  ⟨route.domain, .wrap route.scope n⟩

/-- What listens on a feed. -/
inductive FeedListener where
  /-- A subscription. -/
  | forward (route : Route)
  /-- Anything else, by name. -/
  | other (name : String)
deriving DecidableEq

/-- The source of the notifications of one chain. -/
structure Feed where
  client : String
  events : Emitter FeedListener Notification := {}

/-- The subscriptions to one scope. -/
structure ScopeSubscriptions where
  /-- The number of the feed. -/
  feed : Nat
  /-- The listeners of every domain, in the order they were registered. -/
  listeners : KeyMap (List ListenerId) := .empty
  /-- The number of listeners. -/
  count : Nat := 0

/-- All subscriptions, the feeds created so far, and the emitter that messages are sent through. -/
structure Subscriptions where
  scopes : KeyMap ScopeSubscriptions := .empty
  feeds : List Feed := []
  /-- Whether a domain that is subscribed to a scope is not subscribed again. -/
  dedupe : Bool := true
  messages : Emitter String DomainNotification := {}

namespace Subscriptions

/-- Whether a domain is subscribed to a scope. -/
def isSubscribed (s : Subscriptions) (scope domain : String) : Bool :=
  (s.scopes.get? scope).any (·.listeners.contains domain)

/-- The number of subscriptions to a scope. -/
def count (s : Subscriptions) (scope : String) : Nat :=
  match s.scopes.get? scope with
  | some subs => subs.count
  | none => 0

/-- The scopes with subscribers, in order. -/
def scopeNames (s : Subscriptions) : List String := s.scopes.keys

/-- The domains that are subscribed to a scope, in order. -/
def domains (s : Subscriptions) (scope : String) : List String :=
  match s.scopes.get? scope with
  | some subs => subs.listeners.keys
  | none => []

/-- A short description. -/
def text (s : Subscriptions) : String :=
  "MultichainSubscriptionManager \x7b scopes: [" ++ Json.joined ", " (s.scopeNames.map Text.quoted) ++
    "], dedupe: " ++ (if s.dedupe then "true" else "false") ++ ", .. \x7d"

end Subscriptions
end WalletSession
