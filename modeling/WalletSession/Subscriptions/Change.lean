import WalletSession.Subscriptions.Basic

set_option autoImplicit false

/-! # Subscribing and unsubscribing

The first subscription to a scope creates its feed; the last one to end destroys it, and the scope is forgotten
even if that fails. -/

namespace WalletSession

/-- The outcome of a change: the subscriptions after it, its result, and what was asked of the registry. -/
structure Change (α : Type) where
  state : Subscriptions
  result : α
  calls : List RegistryCall

namespace Subscriptions

/-- Change the emitter of a feed. -/
def updateFeed (s : Subscriptions) (feed : Nat)
    (f : Emitter FeedListener Notification → Emitter FeedListener Notification) : Subscriptions :=
  { s with feeds := s.feeds.modify feed fun x => { x with events := f x.events } }

/-- The emitter of a feed. -/
def feedEvents (s : Subscriptions) (feed : Nat) : Emitter FeedListener Notification :=
  match s.feeds[feed]? with
  | some x => x.events
  | none => {}

/-! ## Subscribing -/

/-- Register a listener for a domain on the feed of a scope. -/
def addListener (s : Subscriptions) (scope domain : String) (subs : ScopeSubscriptions) : Subscriptions :=
  let registered := (s.feedEvents subs.feed).on (.forward ⟨scope, domain⟩)
  let s := s.updateFeed subs.feed fun _ => registered.1
  let ids := (subs.listeners.get? domain).getD [] ++ [registered.2]
  { s with
    scopes := s.scopes.insert scope
      { subs with listeners := subs.listeners.insert domain ids, count := subs.count + 1 } }

/-- The feed that the registry gives a client: one made before, or else a new one. -/
def feedFor (registry : Registry) (client : String) (s : Subscriptions) : Nat × Subscriptions :=
  match (registry.feedOf client).filter (· < s.feeds.length) with
  | some feed => (feed, s)
  | none => (s.feeds.length, { s with feeds := s.feeds ++ [{ client := client }] })

/-- Subscribe a domain to a scope; the result is the number of the scope's feed. -/
def subscribe (registry : Registry) (scope domain : String) (s : Subscriptions) :
    Change (Except SubscriptionError Nat) :=
  match s.scopes.get? scope with
  | some subs =>
    if s.dedupe && subs.listeners.contains domain then ⟨s, .ok subs.feed, []⟩
    else ⟨s.addListener scope domain subs, .ok subs.feed, []⟩
  | none =>
    match registry.resolve scope with
    | (.error e, calls) => ⟨s, .error e, calls⟩
    | (.ok client, calls) =>
      let (feed, s) := s.feedFor registry client
      ⟨s.addListener scope domain { feed := feed }, .ok feed, calls ++ [.create client feed]⟩

/-! ## Unsubscribing -/

/-- Take away the last listener of a domain. -/
def removeListener (s : Subscriptions) (domain : String) (subs : ScopeSubscriptions) (ids : List ListenerId) :
    Subscriptions × ScopeSubscriptions :=
  let rest := ids.dropLast
  let listeners := if rest.isEmpty then subs.listeners.erase domain else subs.listeners.insert domain rest
  match ids.getLast? with
  | some id => (s.updateFeed subs.feed (·.off id), { subs with listeners, count := subs.count - 1 })
  | none => (s, { subs with listeners })

/-- Forget a scope and destroy its feed; `failure` tells the feeds whose destruction fails, and why. -/
def endScope (failure : Nat → Option String) (scope : String) (s : Subscriptions) (feed : Nat) :
    Change (Except SubscriptionError Unit) where
  state := { s with scopes := s.scopes.erase scope }
  result :=
    match failure feed with
    | some reason => .error (.destroy scope reason)
    | none => .ok ()
  calls :=
    match s.feeds[feed]? with
    | some x => [.destroy x.client feed]
    | none => []

/-- End the latest subscription of a domain to a scope. -/
def unsubscribe (failure : Nat → Option String) (scope domain : String) (s : Subscriptions) :
    Change (Except SubscriptionError Unit) :=
  match s.scopes.get? scope with
  | none => ⟨s, .ok (), []⟩
  | some subs =>
    match subs.listeners.get? domain with
    | none => ⟨s, .ok (), []⟩
    | some ids =>
      let (s, subs) := s.removeListener domain subs ids
      if 0 < subs.count then ⟨{ s with scopes := s.scopes.insert scope subs }, .ok (), []⟩
      else endScope failure scope s subs.feed

/-! ## In bulk -/

/-- Every subscription whose scope and domain satisfy `p`, as often as it was made. -/
def matching (s : Subscriptions) (p : String → String → Bool) : List (String × String) :=
  s.scopes.toList.flatMap fun e =>
    (e.2.listeners.toList.flatMap fun d => List.replicate d.2.length (e.1, d.1)).filter fun t => p t.1 t.2

/-- End subscriptions one by one and collect the errors. -/
def unsubscribeEach (failure : Nat → Option String) :
    List (String × String) → Subscriptions → Change (List SubscriptionError)
  | [], s => ⟨s, [], []⟩
  | (scope, domain) :: rest, s =>
    let first := s.unsubscribe failure scope domain
    let others := unsubscribeEach failure rest first.state
    let errors := match first.result with
      | .error e => e :: others.result
      | .ok () => others.result
    ⟨others.state, errors, first.calls ++ others.calls⟩

/-- End every subscription whose scope and domain satisfy `p`. -/
def unsubscribeMatching (failure : Nat → Option String) (p : String → String → Bool) (s : Subscriptions) :
    Change (List SubscriptionError) :=
  unsubscribeEach failure (s.matching p) s

/-- End every subscription. -/
def unsubscribeAll (failure : Nat → Option String) (s : Subscriptions) : Change (List SubscriptionError) :=
  s.unsubscribeMatching failure fun _ _ => true

/-- End every subscription to a scope. -/
def unsubscribeScope (failure : Nat → Option String) (scope : String) (s : Subscriptions) :
    Change (List SubscriptionError) :=
  s.unsubscribeMatching failure fun name _ => name == scope

/-- End every subscription of a domain. -/
def unsubscribeDomain (failure : Nat → Option String) (domain : String) (s : Subscriptions) :
    Change (List SubscriptionError) :=
  s.unsubscribeMatching failure fun _ name => name == domain

end Subscriptions
end WalletSession
