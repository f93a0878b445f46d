import WalletSession.Proofs.Subscriptions.Routing

set_option autoImplicit false

/-! # Failures leave no trace

No one is subscribed if there is no client for a scope, and nothing has changed then
(`Subscriptions.subscribe_eq_error_iff`). A feed may fail to be destroyed, but its scope is forgotten all the same: runs
in which other feeds fail reach the same states (`Subscriptions.run_unfailing`), and report an error for each feed that
failed (`Turn.ReportsFailures`). -/

namespace WalletSession

/-! ## Looking for a client -/

namespace Registry

variable {registry : Registry} {scope : String} {e : SubscriptionError} {calls : List RegistryCall}

/-- Why no client is found for a scope, by the first look-up that fails, and what was asked until then. -/
inductive Fails (registry : Registry) (scope : String) : SubscriptionError → List RegistryCall → Prop where
  | unsupported (hnone : (ScopeName.parse scope).eip155? = none) : Fails registry scope (.unsupportedScope scope) []
  | notFound {n : ChainNumber} (hn : (ScopeName.parse scope).eip155? = some n)
      (hnone : registry.clientOf (Eip155.hex n) = none) :
      Fails registry scope (.networkClientNotFound scope (Eip155.hex n)) [.find (Eip155.hex n)]
  | unavailable {n : ChainNumber} {client : String} (hn : (ScopeName.parse scope).eip155? = some n)
      (hclient : registry.clientOf (Eip155.hex n) = some client) (hgone : registry.isAvailable client = false) :
      Fails registry scope (.networkClientUnavailable client) [.find (Eip155.hex n), .get client]

theorem resolve_eq_error_iff : registry.resolve scope = (.error e, calls) ↔ registry.Fails scope e calls := by
  constructor
  · intro h
    unfold resolve at h
    split at h
    · next hnone =>
      cases h
      exact .unsupported hnone
    · next n hn =>
      simp only at h
      split at h
      · next hnone =>
        cases h
        exact .notFound hn hnone
      · next client hclient =>
        split at h
        · cases h
        · next hgone =>
          cases h
          exact .unavailable hn hclient (by simpa using hgone)
  · intro h
    cases h with
    | unsupported hnone => simp only [resolve, hnone]
    | notFound hn hnone => simp only [resolve, hn, hnone]
    | unavailable hn hclient hgone => simp only [resolve, hn, hclient, hgone, Bool.false_eq_true, if_false]

end Registry

/-- Whether an error is that of a feed that could not be destroyed. -/
def SubscriptionError.isDestroy : SubscriptionError → Bool
  | .destroy .. => true
  | _ => false

theorem Registry.Fails.isDestroy_eq {registry : Registry} {scope : String} {e : SubscriptionError}
    {calls : List RegistryCall} (h : registry.Fails scope e calls) : e.isDestroy = false := by
  cases h <;> rfl

namespace Subscriptions

variable {registry : Registry} {failure : Nat → Option String} {scope domain : String} {s s' : Subscriptions}
  {e : SubscriptionError}

/-! ## Subscribing in vain -/

theorem not_mem_scopeNames_iff : scope ∉ s.scopeNames ↔ s.scopes.get? scope = none := by
  rw [scopeNames, KeyMap.mem_keys, Bool.not_eq_true, KeyMap.contains_eq_false_iff]

/-- Subscribing fails if there is no client for a new scope, and changes nothing then. -/
theorem subscribe_eq_error_iff : (s.subscribe registry scope domain).result = .error e ↔
    (s.subscribe registry scope domain).state = s ∧ scope ∉ s.scopeNames ∧
      registry.Fails scope e (s.subscribe registry scope domain).calls := by
  rw [not_mem_scopeNames_iff, ← Registry.resolve_eq_error_iff]
  have hstep := subscribing registry scope domain s
  generalize s.subscribe registry scope domain = change at hstep ⊢
  cases hstep with
  | repeated hsubs => simp [hsubs]
  | added hsubs => simp [hsubs]
  | refused hnone hresolve => simp [hnone, hresolve]
  | created hnone hresolve => simp [hresolve]

/-! ## If every feed can be destroyed -/

/-- The same call if every feed can be destroyed. -/
def Call.unfailing : Call → Call
  | .subscribe registry scope domain => .subscribe registry scope domain
  | .unsubscribe _ scope domain => .unsubscribe (fun _ => none) scope domain
  | .unsubscribeAll _ => .unsubscribeAll fun _ => none
  | .unsubscribeScope _ scope => .unsubscribeScope (fun _ => none) scope
  | .unsubscribeDomain _ domain => .unsubscribeDomain (fun _ => none) domain

/-- The same call under the same setting if every feed can be destroyed. -/
def Turn.unfailing (t : Turn) : Turn := { t with call := t.call.unfailing }

/-- What is left of an outcome without the errors of feeds that could not be destroyed. -/
def Outcome.withoutDestroyErrors : Outcome → Outcome
  | .subscribed result => .subscribed result
  | .unsubscribed (.error (.destroy _ _)) => .unsubscribed (.ok ())
  | .unsubscribed result => .unsubscribed result
  | .ended errors => .ended (errors.filter (!·.isDestroy))

theorem unsubscribe_unfailing (failure : Nat → Option String) (scope domain : String) (s : Subscriptions) :
    s.unsubscribe (fun _ => none) scope domain =
      ⟨(s.unsubscribe failure scope domain).state, .ok (), (s.unsubscribe failure scope domain).calls⟩ := by
  unfold unsubscribe
  split
  · rfl
  split
  · rfl
  simp only
  split <;> rfl

/-- Nothing can go wrong but the destruction of the feed. -/
theorem result_unsubscribe (failure : Nat → Option String) (scope domain : String) (s : Subscriptions) :
    (s.unsubscribe failure scope domain).result = .ok () ∨
      ∃ reason, (s.unsubscribe failure scope domain).result = .error (.destroy scope reason) := by
  unfold unsubscribe
  split
  · exact .inl rfl
  split
  · exact .inl rfl
  simp only
  split
  · exact .inl rfl
  unfold endScope
  simp only
  split
  · next reason _ => exact .inr ⟨reason, rfl⟩
  · exact .inl rfl

theorem unsubscribeEach_unfailing (failure : Nat → Option String) (targets : List (String × String))
    (s : Subscriptions) : unsubscribeEach (fun _ => none) targets s =
      ⟨(unsubscribeEach failure targets s).state, (unsubscribeEach failure targets s).result.filter (!·.isDestroy),
        (unsubscribeEach failure targets s).calls⟩ := by
  induction targets generalizing s with
  | nil => rfl
  | cons target rest ih =>
    simp only [unsubscribeEach, unsubscribe_unfailing failure, ih]
    rcases result_unsubscribe failure target.1 target.2 s with hok | ⟨reason, herror⟩
    · rw [hok]
    · rw [herror]
      simp [SubscriptionError.isDestroy]

/-- Failures change nothing about a call but the errors it reports. -/
theorem Turn.perform_unfailing (t : Turn) (s : Subscriptions) :
    t.unfailing.perform s = ⟨(t.perform s).state, (t.perform s).result.withoutDestroyErrors, (t.perform s).calls⟩ := by
  obtain ⟨dedupe, call⟩ := t
  -- What a call answers after it has ended subscriptions one by one.
  let answer (c : Change (List SubscriptionError)) : Change Outcome := ⟨c.state, .ended c.result, c.calls⟩
  cases call with
  | subscribe => rfl
  | unsubscribe failure scope domain =>
    simp only [perform, unfailing, Call.unfailing, Call.perform, unsubscribe_unfailing failure]
    rcases result_unsubscribe failure scope domain (s.withDedupe dedupe) with hok | ⟨reason, herror⟩
    · rw [hok]
      rfl
    · rw [herror]
      rfl
  | unsubscribeAll failure => exact congrArg answer (unsubscribeEach_unfailing failure _ _)
  | unsubscribeScope failure => exact congrArg answer (unsubscribeEach_unfailing failure _ _)
  | unsubscribeDomain failure => exact congrArg answer (unsubscribeEach_unfailing failure _ _)

/-- A run goes as it would if every feed could be destroyed. -/
theorem run_unfailing (turns : List Turn) (s : Subscriptions) :
    run (turns.map Turn.unfailing) s =
      ⟨(run turns s).state, (run turns s).result.map Outcome.withoutDestroyErrors, (run turns s).calls⟩ := by
  induction turns generalizing s with
  | nil => rfl
  | cons t rest ih => simp only [List.map_cons, run, Turn.perform_unfailing, ih]

/-! ## Feeds that were made -/

/-- Scopes are well counted, and the feeds they hold were made. -/
structure Backed (s : Subscriptions) : Prop where
  wellCounted : s.WellCounted
  held_lt : ∀ {scope feed}, s.Holds scope feed → feed < s.feeds.length

theorem length_feeds_le_feedFor (registry : Registry) (client : String) (s : Subscriptions) :
    s.feeds.length ≤ (s.feedFor registry client).2.feeds.length := by
  unfold feedFor
  split <;> simp

theorem feedFor_lt (registry : Registry) (client : String) (s : Subscriptions) :
    (s.feedFor registry client).1 < (s.feedFor registry client).2.feeds.length := by
  unfold feedFor
  split
  · next feed hfeed =>
    rw [Option.filter_eq_some_iff] at hfeed
    simpa using hfeed.2
  · simp

namespace Backed

theorem empty : ({} : Subscriptions).Backed :=
  ⟨wellCounted_empty, fun hheld => absurd hheld (forall_not_holds_iff.2 rfl _)⟩

theorem of_holds (hs : s.Backed) (hs' : s'.WellCounted) (hlength : s.feeds.length ≤ s'.feeds.length)
    (hheld : ∀ scope feed, s'.Holds scope feed → s.Holds scope feed) : s'.Backed :=
  ⟨hs', fun h => Nat.lt_of_lt_of_le (hs.held_lt (hheld _ _ h)) hlength⟩

theorem subscribe (hs : s.Backed) (registry : Registry) (scope domain : String) :
    (s.subscribe registry scope domain).state.Backed := by
  have hs' := hs.wellCounted.subscribe registry scope domain
  have hstep := subscribing registry scope domain s
  generalize s.subscribe registry scope domain = change at hs' hstep ⊢
  cases hstep with
  | repeated => exact hs
  | @added subs hsubs hnew =>
    obtain ⟨id, hscopes⟩ := scopes_addListener s scope domain subs
    refine hs.of_holds hs' (length_feeds_addListener s scope domain subs).ge fun other feed => ?_
    exact (holds_insert_of_feed hscopes hsubs rfl other feed).1
  | refused => exact hs
  | @created client calls hnone hresolve =>
    refine ⟨hs', fun hheld => ?_⟩
    rw [length_feeds_addListener]
    rcases (holds_created hnone _ _).1 hheld with ⟨-, rfl⟩ | hold
    · exact feedFor_lt registry client s
    · exact Nat.lt_of_lt_of_le (hs.held_lt hold) (length_feeds_le_feedFor registry client s)

theorem unsubscribe (hs : s.Backed) (failure : Nat → Option String) (scope domain : String) :
    (s.unsubscribe failure scope domain).state.Backed := by
  have hs' := hs.wellCounted.unsubscribe failure scope domain
  rcases rests_or_ends_unsubscribe hs.wellCounted (fun _ => hs.held_lt) failure domain with hstep | hstep
  · exact hs.of_holds hs' hstep.length_feeds.ge fun other feed => (hstep.holds_iff other feed).1
  · exact hs.of_holds hs' hstep.length_feeds.ge fun other feed hheld => ((hstep.holds_iff other feed).1 hheld).2

end Backed

theorem Owned.backed {log : List RegistryCall} (h : Owned log s) : s.Backed := ⟨h.wellCounted, h.held_lt⟩

theorem kept_backed : Kept (fun _ => True) fun _ s => s.Backed where
  dedupe _ h := ⟨h.wellCounted, h.held_lt⟩
  subscribe registry scope domain _ h := h.subscribe registry scope domain
  unsubscribe failure scope domain h := h.unsubscribe failure scope domain

theorem Undisturbed.backed (h : Undisturbed s s') (hs : s.Backed) : s'.Backed :=
  hs.of_holds (h.wellCounted hs.wellCounted) h.length_feeds.ge fun scope feed => (h.holds_iff scope feed).1

/-- Whatever the registries answer. -/
theorem Reached.backed {past : List (Turn × Outcome)} {log : List RegistryCall} (h : Reached past log s) :
    s.Backed := by
  induction h with
  | start => exact Backed.empty
  | @call past log s h t ih => exact @Kept.perform _ _ [] s kept_backed t t.asks_any ih
  | announced h call feed n x ih => exact (Undisturbed.announced call feed n _ x).backed ih
  | listening h messages ih => exact (Undisturbed.listening _ messages).backed ih
  | watched h feed name ih => exact (Undisturbed.watched _ feed name).backed ih

/-! ## What is reported -/

/-- The feed that is destroyed. -/
def destroyed? : FeedEvent → Option Nat
  | .made _ => none
  | .destroyed feed => some feed

/-- The feeds that are destroyed, in order. -/
def destroyedFeeds (calls : List RegistryCall) : List Nat := (history calls).filterMap destroyed?

/-- The scopes that lose their feeds, in the order in which these are destroyed. -/
structure Leaves (ended : List (String × Nat)) (s : Subscriptions) (calls : List RegistryCall) (s' : Subscriptions) :
    Prop where
  nodup : (ended.map Prod.fst).Nodup
  mem_iff : ∀ scope feed, (scope, feed) ∈ ended ↔ s.Holds scope feed ∧ ¬ s'.Holds scope feed
  destroyed_eq : destroyedFeeds calls = ended.map Prod.snd

/-- One error for each feed that could not be destroyed, by the scope that held it. -/
def destroyErrors (failure : Nat → Option String) (ended : List (String × Nat)) : List SubscriptionError :=
  ended.filterMap fun e => (failure e.2).map (.destroy e.1)

/-- Subscriptions end, and it is reported which feeds could not be destroyed. -/
structure TearsDown (failure : Nat → Option String) (ended : List (String × Nat)) (s : Subscriptions)
    (calls : List RegistryCall) (errors : List SubscriptionError) (s' : Subscriptions) : Prop
    extends Leaves ended s calls s' where
  holds_of : ∀ {scope feed}, s'.Holds scope feed → s.Holds scope feed
  errors_eq : errors = destroyErrors failure ended

namespace TearsDown

theorem of_rests {calls : List RegistryCall} (h : Rests s calls s') : TearsDown failure [] s calls [] s' where
  nodup := List.nodup_nil
  mem_iff scope feed := by simp [h.holds_iff]
  destroyed_eq := by simp [destroyedFeeds, h.history_eq]
  holds_of := (h.holds_iff _ _).1
  errors_eq := rfl

variable {ended ended' : List (String × Nat)} {calls calls' : List RegistryCall}
  {errors errors' : List SubscriptionError} {s'' : Subscriptions}

theorem append (h : TearsDown failure ended s calls errors s') (h' : TearsDown failure ended' s' calls' errors' s'') :
    TearsDown failure (ended ++ ended') s (calls ++ calls') (errors ++ errors') s'' where
  nodup := by
    rw [List.map_append]
    refine h.nodup.append h'.nodup fun scope hfirst hsecond => ?_
    -- A scope that has lost its feed holds none that it could lose again.
    obtain ⟨⟨_, feed⟩, hmem, rfl⟩ := List.mem_map.1 hfirst
    obtain ⟨⟨_, other⟩, hmem', rfl⟩ := List.mem_map.1 hsecond
    obtain ⟨hheld, hlost⟩ := (h.mem_iff _ _).1 hmem
    have hother := ((h'.mem_iff _ _).1 hmem').1
    obtain rfl := hheld.unique (h.holds_of hother)
    exact hlost hother
  mem_iff scope feed := by
    rw [List.mem_append, h.mem_iff, h'.mem_iff]
    constructor
    · rintro (⟨hheld, hlost⟩ | ⟨hheld, hlost⟩)
      · exact ⟨hheld, fun hlater => hlost (h'.holds_of hlater)⟩
      · exact ⟨h.holds_of hheld, hlost⟩
    · rintro ⟨hheld, hlost⟩
      by_cases hbetween : s'.Holds scope feed
      · exact .inr ⟨hbetween, hlost⟩
      · exact .inl ⟨hheld, hbetween⟩
  destroyed_eq := by
    rw [destroyedFeeds, history_append, List.filterMap_append, List.map_append, ← h.destroyed_eq, ← h'.destroyed_eq]
    rfl
  holds_of hheld := h.holds_of (h'.holds_of hheld)
  errors_eq := by rw [h.errors_eq, h'.errors_eq, destroyErrors, destroyErrors, destroyErrors, List.filterMap_append]

end TearsDown

/-- The errors that an outcome reports. -/
def Outcome.errors : Outcome → List SubscriptionError
  | .subscribed (.error e) => [e]
  | .subscribed (.ok _) => []
  | .unsubscribed (.error e) => [e]
  | .unsubscribed (.ok _) => []
  | .ended errors => errors

/-- No other scope than this one loses its feed. -/
theorem Backed.tearsDown_unsubscribe (hs : s.Backed) (failure : Nat → Option String) (scope domain : String) :
    ∃ ended, TearsDown failure ended s (s.unsubscribe failure scope domain).calls
      (Outcome.unsubscribed (s.unsubscribe failure scope domain).result).errors
      (s.unsubscribe failure scope domain).state ∧ (ended.map Prod.fst).Sublist [scope] := by
  have hstep := unsubscribing hs.wellCounted failure scope domain
  generalize s.unsubscribe failure scope domain = change at hstep ⊢
  cases hstep with
  | nothing => exact ⟨[], .of_rests ⟨rfl, fun _ _ => Iff.rfl, rfl⟩, List.nil_sublist _⟩
  | @removed subs rest id hsubs hids hcount =>
    refine ⟨[], .of_rests ⟨?_, holds_insert_of_feed rfl hsubs rfl, rfl⟩, List.nil_sublist _⟩
    exact length_feeds_updateFeed s _ _
  | @ended subs id hsubs hids hcount =>
    have hheld : s.Holds scope subs.feed := ⟨subs, hsubs, rfl⟩
    have hfeed : subs.feed < (s.updateFeed subs.feed (·.off id)).feeds.length := by
      rw [length_feeds_updateFeed]
      exact hs.held_lt hheld
    have hholds : ∀ other feed, (endScope failure scope (s.updateFeed subs.feed (·.off id)) subs.feed).state.Holds
        other feed ↔ scope ≠ other ∧ s.Holds other feed := holds_erase rfl
    refine ⟨[(scope, subs.feed)], ⟨⟨by simp, fun other feed => ?_, ?_⟩, fun h => ((hholds _ _).1 h).2, ?_⟩,
      List.Sublist.refl _⟩
    · rw [hholds, List.mem_singleton, Prod.mk.injEq]
      constructor
      · rintro ⟨rfl, rfl⟩
        exact ⟨hheld, fun hlater => hlater.1 rfl⟩
      · rintro ⟨hother, hlost⟩
        obtain rfl : scope = other := by
          by_contra hne
          exact hlost ⟨hne, hother⟩
        exact ⟨rfl, hother.unique hheld⟩
    · simp only [endScope, List.getElem?_eq_getElem hfeed]
      rfl
    · simp only [endScope, destroyErrors, List.filterMap_cons, List.filterMap_nil]
      cases failure subs.feed <;> rfl

/-- Scopes lose their feeds in the order in which their subscriptions are ended. -/
theorem Backed.tearsDown_unsubscribeEach (hs : s.Backed) (failure : Nat → Option String)
    (targets : List (String × String)) : ∃ ended, TearsDown failure ended s (unsubscribeEach failure targets s).calls
      (unsubscribeEach failure targets s).result (unsubscribeEach failure targets s).state ∧
      (ended.map Prod.fst).Sublist (targets.map Prod.fst) := by
  induction targets generalizing s with
  | nil => exact ⟨[], .of_rests ⟨rfl, fun _ _ => Iff.rfl, rfl⟩, List.Sublist.refl _⟩
  | cons target rest ih =>
    obtain ⟨ended, hfirst, horder⟩ := hs.tearsDown_unsubscribe failure target.1 target.2
    obtain ⟨ended', hrest, horder'⟩ := ih (hs.unsubscribe failure target.1 target.2)
    refine ⟨ended ++ ended', ?_, List.map_append ▸ horder.append horder'⟩
    have hboth := hfirst.append hrest
    simp only [unsubscribeEach]
    cases hresult : (s.unsubscribe failure target.1 target.2).result with
    | error e => rwa [hresult] at hboth
    | ok => rwa [hresult] at hboth

/-- Subscribing takes no feed from any scope. -/
theorem leaves_subscribe (registry : Registry) (scope domain : String) (s : Subscriptions) :
    Leaves [] s (s.subscribe registry scope domain).calls (s.subscribe registry scope domain).state := by
  suffices hkept : (∀ other feed, s.Holds other feed → (s.subscribe registry scope domain).state.Holds other feed) ∧
      destroyedFeeds (s.subscribe registry scope domain).calls = [] by
    refine ⟨List.nodup_nil, fun other feed => ?_, hkept.2⟩
    simpa using hkept.1 other feed
  have hstep := subscribing registry scope domain s
  generalize s.subscribe registry scope domain = change at hstep ⊢
  cases hstep with
  | repeated => exact ⟨fun _ _ => id, rfl⟩
  | @added subs hsubs hnew =>
    obtain ⟨id, hscopes⟩ := scopes_addListener s scope domain subs
    exact ⟨fun other feed => (holds_insert_of_feed hscopes hsubs rfl other feed).2, rfl⟩
  | @refused e calls hnone hresolve =>
    have hcalls := registry.history_resolve scope
    rw [hresolve] at hcalls
    exact ⟨fun _ _ => id, by rw [destroyedFeeds, hcalls, List.filterMap_nil]⟩
  | @created client calls hnone hresolve =>
    obtain ⟨n, -, rfl⟩ := Registry.resolve_eq_ok hresolve
    exact ⟨fun other feed hheld => (holds_created hnone other feed).2 (.inr hheld), rfl⟩

theorem isDestroy_of_subscribe (he : e ∈ (Outcome.subscribed (s.subscribe registry scope domain).result).errors) :
    e.isDestroy = false := by
  cases hresult : (s.subscribe registry scope domain).result with
  | ok => simp [hresult, Outcome.errors] at he
  | error e' =>
    obtain rfl : e = e' := by simpa [hresult, Outcome.errors] using he
    exact (subscribe_eq_error_iff.1 hresult).2.2.isDestroy_eq

/-! ## Any call -/

/-- The feeds whose destruction fails in a call, and why. -/
def Call.failures : Call → Nat → Option String
  | .subscribe _ _ _ => fun _ => none
  | .unsubscribe failure _ _ => failure
  | .unsubscribeAll failure => failure
  | .unsubscribeScope failure _ => failure
  | .unsubscribeDomain failure _ => failure

/-- A call destroys the feeds of the scopes that it leaves without subscribers, and reports one error for each of these
feeds that could not be destroyed. -/
def Turn.ReportsFailures (t : Turn) (s : Subscriptions) : Prop :=
  ∃ ended, Leaves ended s (t.perform s).calls (t.perform s).state ∧
    (t.perform s).result.errors.filter (·.isDestroy) = destroyErrors t.call.failures ended

theorem filter_destroyErrors (failure : Nat → Option String) (ended : List (String × Nat)) :
    (destroyErrors failure ended).filter (·.isDestroy) = destroyErrors failure ended := by
  rw [List.filter_eq_self]
  intro e he
  obtain ⟨_, -, he⟩ := List.mem_filterMap.1 he
  obtain ⟨_, -, rfl⟩ := Option.map_eq_some_iff.1 he
  rfl

theorem TearsDown.reportsFailures {ended : List (String × Nat)} {t : Turn}
    (h : TearsDown t.call.failures ended (s.withDedupe t.dedupe) (t.perform s).calls (t.perform s).result.errors
      (t.perform s).state) : t.ReportsFailures s :=
  ⟨ended, ⟨h.nodup, h.mem_iff, h.destroyed_eq⟩, by rw [h.errors_eq, filter_destroyErrors]⟩

theorem Backed.reportsFailures (hs : s.Backed) (t : Turn) : t.ReportsFailures s := by
  have hs : (s.withDedupe t.dedupe).Backed := ⟨hs.wellCounted, hs.held_lt⟩
  obtain ⟨dedupe, call⟩ := t
  cases call with
  | subscribe registry scope domain =>
    have hleaves := leaves_subscribe registry scope domain (s.withDedupe dedupe)
    refine ⟨[], ⟨hleaves.nodup, hleaves.mem_iff, hleaves.destroyed_eq⟩, ?_⟩
    rw [destroyErrors, List.filterMap_nil, List.filter_eq_nil_iff]
    intro e he
    simp [isDestroy_of_subscribe he]
  | unsubscribe failure scope domain =>
    obtain ⟨ended, h, -⟩ := hs.tearsDown_unsubscribe failure scope domain
    exact TearsDown.reportsFailures h
  | unsubscribeAll failure =>
    obtain ⟨ended, h, -⟩ := hs.tearsDown_unsubscribeEach failure _
    exact TearsDown.reportsFailures h
  | unsubscribeScope failure scope =>
    obtain ⟨ended, h, -⟩ := hs.tearsDown_unsubscribeEach failure _
    exact TearsDown.reportsFailures h
  | unsubscribeDomain failure domain =>
    obtain ⟨ended, h, -⟩ := hs.tearsDown_unsubscribeEach failure _
    exact TearsDown.reportsFailures h

/-! ## Runs -/

/-- **Failures leave no trace in the state.** Subscribing fails if a look-up fails for a new scope, reports the first
one that does, and changes nothing. Two runs of the same calls in which the registries answer alike have the same state
after each call, whichever feeds could not be destroyed in the one and in the other; they ask for the same, and their
outcomes are the same but for the errors that each reports for the feeds it failed to destroy. -/
theorem failures_leave_no_trace {past : List (Turn × Outcome)} {log : List RegistryCall} (h : Reached past log s)
    {turns turns' : List Turn} (hsame : turns.map Turn.unfailing = turns'.map Turn.unfailing) :
    (∀ registry scope domain e, (s.subscribe registry scope domain).result = .error e ↔
      (s.subscribe registry scope domain).state = s ∧ scope ∉ s.scopeNames ∧
        registry.Fails scope e (s.subscribe registry scope domain).calls) ∧
    ∀ k, (run (turns.take k) s).state = (run (turns'.take k) s).state ∧
      (run (turns.take k) s).calls = (run (turns'.take k) s).calls ∧
      (run (turns.take k) s).result.map Outcome.withoutDestroyErrors =
        (run (turns'.take k) s).result.map Outcome.withoutDestroyErrors ∧
      ∀ t : Turn, t.ReportsFailures (run (turns.take k) s).state := by
  refine ⟨fun _ _ _ _ => subscribe_eq_error_iff, fun k => ?_⟩
  have hrun : run ((turns.take k).map Turn.unfailing) s = run ((turns'.take k).map Turn.unfailing) s := by
    rw [List.map_take, List.map_take, hsame]
  rw [run_unfailing, run_unfailing] at hrun
  injection hrun with hstate hresult hcalls
  exact ⟨hstate, hcalls, hresult, (h.run (turns.take k)).backed.reportsFailures⟩

/-- Two scopes are left at once. Whether or not the feed of the first one can be destroyed, the second one's is, and no
one is subscribed any more. -/
theorem failed_destruction_leaves_no_trace :
    let registry : Registry := ⟨fun chain => some ("client of " ++ chain), fun _ => true, fun _ => none⟩
    let turns (failure : Nat → Option String) : List Turn := [⟨true, .subscribe registry "eip155:1" "a.com"⟩,
      ⟨true, .subscribe registry "eip155:10" "a.com"⟩, ⟨true, .unsubscribeDomain failure "a.com"⟩]
    let failure (feed : Nat) : Option String := if feed = 0 then some "stopped already" else none
    Reached [] [] {} ∧
    (turns failure).map Turn.unfailing = (turns fun _ => none).map Turn.unfailing ∧
    (run ((turns failure).take 3) {}).state = (run ((turns fun _ => none).take 3) {}).state ∧
    (run (turns fun _ => none) {}).state.scopeNames = [] ∧
    (run (turns failure) {}).result.map Outcome.errors = [[], [], [.destroy "eip155:1" "stopped already"]] ∧
    destroyedFeeds (run (turns failure) {}).calls = [0, 1] := by
  intro registry turns failure
  have hsame : (turns failure).map Turn.unfailing = (turns fun _ => none).map Turn.unfailing := rfl
  have hstate := ((failures_leave_no_trace Reached.start hsame).2 3).1
  exact ⟨Reached.start, hsame, hstate, by decide +kernel, by decide +kernel, by decide +kernel⟩

end Subscriptions
end WalletSession
