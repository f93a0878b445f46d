import WalletSession.Proofs.KeyMap.Total
import WalletSession.Subscriptions.Change

set_option autoImplicit false

/-! # Single steps of the subscriptions

What subscribing and unsubscribing can do, as two relations with one constructor a case
(`Subscriptions.subscribing`, `Subscriptions.unsubscribing`). The second needs what every step keeps: the count
of a scope is the number of its listeners, no domain is kept without listeners, and no scope without domains
(`Subscriptions.WellCounted`). -/

namespace WalletSession

/-! ## The subscriptions to one scope -/

namespace ScopeSubscriptions

/-- One more listener of a domain. -/
def withListener (subs : ScopeSubscriptions) (domain : String) (id : ListenerId) : ScopeSubscriptions :=
  { subs with
    listeners := subs.listeners.insert domain ((subs.listeners.get? domain).getD [] ++ [id])
    count := subs.count + 1 }

/-- One listener less of a domain, which keeps the listeners `rest`. -/
def withRest (subs : ScopeSubscriptions) (domain : String) (rest : List ListenerId) : ScopeSubscriptions :=
  { subs with
    listeners := if rest.isEmpty then subs.listeners.erase domain else subs.listeners.insert domain rest
    count := subs.count - 1 }

/-- How many listeners a domain has. -/
def held (subs : ScopeSubscriptions) (domain : String) : Nat :=
  ((subs.listeners.get? domain).map List.length).getD 0

/-- The count is the number of listeners, and every domain has some. -/
structure Counted (subs : ScopeSubscriptions) : Prop where
  ids_ne_nil : ∀ domain ids, subs.listeners.get? domain = some ids → ids ≠ []
  count_eq : subs.count = subs.listeners.total List.length

variable {subs : ScopeSubscriptions} {domain : String}

@[simp] theorem feed_withListener (domain : String) (id : ListenerId) :
    (subs.withListener domain id).feed = subs.feed := rfl

theorem get?_listeners_withListener (domain other : String) (id : ListenerId) :
    (subs.withListener domain id).listeners.get? other =
      if domain = other then some ((subs.listeners.get? domain).getD [] ++ [id])
      else subs.listeners.get? other :=
  KeyMap.get?_insert _ _ _ _

theorem get?_listeners_withRest (domain other : String) (rest : List ListenerId) :
    (subs.withRest domain rest).listeners.get? other =
      if domain = other then (if rest = [] then none else some rest) else subs.listeners.get? other := by
  unfold withRest
  cases rest with
  | nil => simp [KeyMap.get?_erase]
  | cons id rest => simp [KeyMap.get?_insert]

theorem held_empty (feed : Nat) : ({ feed := feed } : ScopeSubscriptions).held = 0 := rfl

theorem held_withListener (domain : String) (id : ListenerId) :
    (subs.withListener domain id).held = Function.update subs.held domain (subs.held domain + 1) := by
  funext other
  rw [Function.update_apply, held, get?_listeners_withListener]
  by_cases hd : other = domain
  · subst hd
    cases hids : subs.listeners.get? other <;> simp [held, hids]
  · simp [hd, Ne.symm hd, held]

theorem held_withRest {rest : List ListenerId} {id : ListenerId}
    (hids : subs.listeners.get? domain = some (rest ++ [id])) :
    (subs.withRest domain rest).held = Function.update subs.held domain (subs.held domain - 1) := by
  funext other
  rw [Function.update_apply, held, get?_listeners_withRest]
  by_cases hd : other = domain
  · subst hd
    cases rest <;> simp [held, hids]
  · simp [hd, Ne.symm hd, held]

namespace Counted

theorem held_eq_zero_iff (h : subs.Counted) : subs.held domain = 0 ↔ subs.listeners.get? domain = none := by
  unfold held
  cases hids : subs.listeners.get? domain with
  | none => simp
  | some ids => simp [h.ids_ne_nil domain ids hids]

theorem count_eq_finsum (h : subs.Counted) : subs.count = ∑ᶠ domain, subs.held domain :=
  h.count_eq.trans (KeyMap.total_eq_finsum _ _)

theorem held_le_count (h : subs.Counted) (domain : String) : subs.held domain ≤ subs.count := by
  unfold held
  rw [h.count_eq]
  cases hids : subs.listeners.get? domain with
  | none => simp
  | some ids =>
    have := KeyMap.total_erase List.length hids
    simp only [Option.map_some, Option.getD_some]
    omega

theorem empty (feed : Nat) : ({ feed := feed } : ScopeSubscriptions).Counted where
  ids_ne_nil _ _ h := by cases h
  count_eq := rfl

theorem withListener (h : subs.Counted) (id : ListenerId) : (subs.withListener domain id).Counted where
  ids_ne_nil other ids hids := by
    rw [get?_listeners_withListener] at hids
    split at hids
    · cases hids
      simp
    · exact h.ids_ne_nil other ids hids
  count_eq := by
    have htotal := KeyMap.total_insert List.length subs.listeners domain
      ((subs.listeners.get? domain).getD [] ++ [id])
    have hcount := h.count_eq
    show subs.count + 1 = _
    simp only [ScopeSubscriptions.withListener]
    cases hids : subs.listeners.get? domain <;> simp [hids] at htotal ⊢ <;> omega

theorem withRest (h : subs.Counted) {rest : List ListenerId} {id : ListenerId}
    (hids : subs.listeners.get? domain = some (rest ++ [id])) : (subs.withRest domain rest).Counted where
  ids_ne_nil other ids hother := by
    rw [get?_listeners_withRest] at hother
    split at hother
    · split at hother
      · cases hother
      · next hne =>
        cases hother
        exact hne
    · exact h.ids_ne_nil other ids hother
  count_eq := by
    have hcount := h.count_eq
    show subs.count - 1 = _
    simp only [ScopeSubscriptions.withRest]
    cases rest with
    | nil =>
      have htotal := KeyMap.total_erase List.length hids
      simp at htotal ⊢
      omega
    | cons id rest =>
      have htotal := KeyMap.total_insert List.length subs.listeners domain (id :: rest)
      simp [hids] at htotal ⊢
      omega

/-- Without its only listener a scope has none, for any domain. -/
theorem held_withRest_nil (h : subs.Counted) {id : ListenerId} (hids : subs.listeners.get? domain = some [id])
    (hcount : subs.count = 1) : (subs.withRest domain []).held = 0 := by
  have hids : subs.listeners.get? domain = some ([] ++ [id]) := hids
  funext other
  have hle := (h.withRest hids).held_le_count other
  have hnone : (subs.withRest domain []).count = 0 := Nat.sub_eq_zero_of_le hcount.le
  exact Nat.eq_zero_of_le_zero (hnone ▸ hle)

end Counted
end ScopeSubscriptions

namespace Subscriptions

/-- Every scope is kept with its listeners counted, and only while it has some. -/
def WellCounted (s : Subscriptions) : Prop :=
  ∀ scope subs, s.scopes.get? scope = some subs → subs.Counted ∧ 0 < subs.count

/-! ## Subscribing -/

variable {registry : Registry} {failure : Nat → Option String} {scope domain : String} {s : Subscriptions}

/-- What subscribing does. -/
inductive Subscribing (registry : Registry) (scope domain : String) (s : Subscriptions) :
    Change (Except SubscriptionError Nat) → Prop where
  /-- The domain is subscribed already and not subscribed again. -/
  | repeated {subs : ScopeSubscriptions} (hsubs : s.scopes.get? scope = some subs) (hdedupe : s.dedupe = true)
      (hheld : subs.listeners.contains domain = true) :
      Subscribing registry scope domain s ⟨s, .ok subs.feed, []⟩
  | added {subs : ScopeSubscriptions} (hsubs : s.scopes.get? scope = some subs)
      (hnew : s.dedupe = true → subs.listeners.contains domain = false) :
      Subscribing registry scope domain s ⟨s.addListener scope domain subs, .ok subs.feed, []⟩
  /-- There is no client for a new scope. -/
  | refused {e : SubscriptionError} {calls : List RegistryCall} (hnone : s.scopes.get? scope = none)
      (hresolve : registry.resolve scope = (.error e, calls)) :
      Subscribing registry scope domain s ⟨s, .error e, calls⟩
  | created {client : String} {calls : List RegistryCall} (hnone : s.scopes.get? scope = none)
      (hresolve : registry.resolve scope = (.ok client, calls)) :
      Subscribing registry scope domain s
        ⟨(s.feedFor registry client).2.addListener scope domain { feed := (s.feedFor registry client).1 },
          .ok (s.feedFor registry client).1, calls ++ [.create client (s.feedFor registry client).1]⟩

theorem subscribing (registry : Registry) (scope domain : String) (s : Subscriptions) :
    Subscribing registry scope domain s (s.subscribe registry scope domain) := by
  unfold subscribe
  cases hsubs : s.scopes.get? scope with
  | some subs =>
    simp only
    split
    · next h =>
      rw [Bool.and_eq_true] at h
      exact .repeated hsubs h.1 h.2
    · next h => exact .added hsubs fun hdedupe => by simpa [hdedupe] using h
  | none =>
    cases hresolve : registry.resolve scope with
    | mk result calls =>
      cases result with
      | error e => exact .refused hsubs hresolve
      | ok client => exact .created hsubs hresolve

@[simp] theorem scopes_updateFeed (s : Subscriptions) (feed : Nat)
    (f : Emitter FeedListener Notification → Emitter FeedListener Notification) :
    (s.updateFeed feed f).scopes = s.scopes := rfl

/-- A listener more changes nothing but its scope and its feed's emitter. -/
theorem scopes_addListener (s : Subscriptions) (scope domain : String) (subs : ScopeSubscriptions) :
    ∃ id, (s.addListener scope domain subs).scopes = s.scopes.insert scope (subs.withListener domain id) :=
  ⟨((s.feedEvents subs.feed).on (.forward ⟨scope, domain⟩)).2, rfl⟩

theorem scopes_feedFor (registry : Registry) (client : String) (s : Subscriptions) :
    (s.feedFor registry client).2.scopes = s.scopes := by
  unfold feedFor
  split <;> rfl

/-- A new scope has the listener that it was created for. -/
theorem scopes_addListener_feedFor (registry : Registry) (client scope domain : String) (s : Subscriptions) :
    ∃ id, ((s.feedFor registry client).2.addListener scope domain
        { feed := (s.feedFor registry client).1 }).scopes =
      s.scopes.insert scope (ScopeSubscriptions.withListener { feed := (s.feedFor registry client).1 } domain id) := by
  rw [← scopes_feedFor registry client s]
  exact scopes_addListener _ scope domain _

/-! ## Unsubscribing -/

/-- What unsubscribing does when scopes are well counted. -/
inductive Unsubscribing (failure : Nat → Option String) (scope domain : String) (s : Subscriptions) :
    Change (Except SubscriptionError Unit) → Prop where
  /-- The domain is not subscribed. -/
  | nothing (hnone : ∀ subs, s.scopes.get? scope = some subs → subs.listeners.get? domain = none) :
      Unsubscribing failure scope domain s ⟨s, .ok (), []⟩
  /-- Others are still subscribed, or this domain is once more. -/
  | removed {subs : ScopeSubscriptions} {rest : List ListenerId} {id : ListenerId}
      (hsubs : s.scopes.get? scope = some subs) (hids : subs.listeners.get? domain = some (rest ++ [id]))
      (hcount : 1 < subs.count) :
      Unsubscribing failure scope domain s
        ⟨{ s.updateFeed subs.feed (·.off id) with scopes := s.scopes.insert scope (subs.withRest domain rest) },
          .ok (), []⟩
  /-- This was the last subscription to the scope. -/
  | ended {subs : ScopeSubscriptions} {id : ListenerId} (hsubs : s.scopes.get? scope = some subs)
      (hids : subs.listeners.get? domain = some [id]) (hcount : subs.count = 1) :
      Unsubscribing failure scope domain s
        (endScope failure scope (s.updateFeed subs.feed (·.off id)) subs.feed)

theorem removeListener_concat (s : Subscriptions) (domain : String) (subs : ScopeSubscriptions)
    (rest : List ListenerId) (id : ListenerId) :
    s.removeListener domain subs (rest ++ [id]) =
      (s.updateFeed subs.feed (·.off id), subs.withRest domain rest) := by
  simp [removeListener, ScopeSubscriptions.withRest]

theorem unsubscribing (hs : s.WellCounted) (failure : Nat → Option String) (scope domain : String) :
    Unsubscribing failure scope domain s (s.unsubscribe failure scope domain) := by
  unfold unsubscribe
  cases hsubs : s.scopes.get? scope with
  | none =>
    refine .nothing fun subs h => ?_
    rw [hsubs] at h
    cases h
  | some subs =>
    obtain ⟨hcounted, hpos⟩ := hs scope subs hsubs
    simp only
    cases hids : subs.listeners.get? domain with
    | none =>
      refine .nothing fun subs' h => ?_
      rw [hsubs] at h
      cases h
      exact hids
    | some ids =>
      obtain ⟨rest, id, rfl⟩ := List.eq_nil_or_concat' ids |>.resolve_left (hcounted.ids_ne_nil domain ids hids)
      simp only [removeListener_concat, scopes_updateFeed]
      have hcount : (subs.withRest domain rest).count = subs.count - 1 := rfl
      by_cases hmore : 1 < subs.count
      · rw [if_pos (by omega)]
        exact .removed hsubs hids hmore
      · rw [if_neg (by omega)]
        -- The scope had this listener only, and the domain has none any more.
        have hrest : rest = [] := by
          have hheld := hcounted.held_le_count domain
          simp only [ScopeSubscriptions.held, hids, Option.map_some, Option.getD_some, List.length_append,
            List.length_cons, List.length_nil] at hheld
          exact List.eq_nil_of_length_eq_zero (by omega)
        subst hrest
        exact .ended hsubs hids (by omega)

/-! ## What steps keep -/

namespace WellCounted

variable {s' : Subscriptions}

theorem insert (hs : s.WellCounted) {subs : ScopeSubscriptions} (hsubs : subs.Counted ∧ 0 < subs.count)
    (h : s'.scopes = s.scopes.insert scope subs) : s'.WellCounted := by
  intro other subs' hother
  rw [h, KeyMap.get?_insert] at hother
  split at hother
  · cases hother
    exact hsubs
  · exact hs other subs' hother

theorem erase (hs : s.WellCounted) (h : s'.scopes = s.scopes.erase scope) : s'.WellCounted := by
  intro other subs' hother
  rw [h, KeyMap.get?_erase] at hother
  split at hother
  · cases hother
  · exact hs other subs' hother

theorem subscribe (hs : s.WellCounted) (registry : Registry) (scope domain : String) :
    (s.subscribe registry scope domain).state.WellCounted := by
  have hstep := subscribing registry scope domain s
  generalize s.subscribe registry scope domain = change at hstep ⊢
  cases hstep with
  | repeated => exact hs
  | @added subs hsubs hnew =>
    obtain ⟨id, h⟩ := scopes_addListener s scope domain subs
    exact hs.insert ⟨(hs scope subs hsubs).1.withListener id, Nat.succ_pos _⟩ h
  | refused => exact hs
  | @created client calls hnone hresolve =>
    obtain ⟨id, h⟩ := scopes_addListener_feedFor registry client scope domain s
    exact hs.insert ⟨(ScopeSubscriptions.Counted.empty _).withListener id, Nat.succ_pos _⟩ h

theorem unsubscribe (hs : s.WellCounted) (failure : Nat → Option String) (scope domain : String) :
    (s.unsubscribe failure scope domain).state.WellCounted := by
  have hstep := unsubscribing hs failure scope domain
  generalize s.unsubscribe failure scope domain = change at hstep ⊢
  cases hstep with
  | nothing => exact hs
  | @removed subs rest id hsubs hids hcount =>
    exact hs.insert ⟨(hs scope subs hsubs).1.withRest hids, Nat.sub_pos_of_lt hcount⟩ rfl
  | ended => exact hs.erase rfl

end WellCounted
end Subscriptions
end WalletSession
