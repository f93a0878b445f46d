import WalletSession.Proofs.Eip155
import WalletSession.Proofs.Subscriptions.Run

set_option autoImplicit false

/-! # Which feeds are held

A scope with subscribers holds a feed. As far as feeds go a step does one of three things: it makes and destroys
none (`Subscriptions.Rests`), it makes one for a scope that held none (`Subscriptions.Activates`), or it destroys
the one of a scope that holds none afterwards (`Subscriptions.Ends`). So nothing is destroyed twice, and nothing
is lost (`Subscriptions.Owned`). -/

namespace WalletSession

/-! ## What happens to feeds -/

/-- The registry makes a new feed whenever it is asked for one. -/
def Registry.Fresh (registry : Registry) : Prop := ∀ client, registry.feedOf client = none

/-- What happens to a feed. -/
inductive FeedEvent where
  | made (feed : Nat)
  | destroyed (feed : Nat)
deriving DecidableEq

/-- What a call does to a feed. -/
def RegistryCall.event? : RegistryCall → Option FeedEvent
  | .create _ feed => some (.made feed)
  | .destroy _ feed => some (.destroyed feed)
  | .find _ => none
  | .get _ => none

/-- What calls do to feeds, in order. -/
def history (calls : List RegistryCall) : List FeedEvent := calls.filterMap RegistryCall.event?

@[simp] theorem history_append (calls others : List RegistryCall) :
    history (calls ++ others) = history calls ++ history others :=
  List.filterMap_append

/-- Looking for a client does nothing to any feed. -/
theorem Registry.history_resolve (registry : Registry) (scope : String) :
    history (registry.resolve scope).2 = [] := by
  unfold resolve
  split
  · rfl
  · simp only
    split
    · rfl
    · split <;> rfl

/-- A client is found by the number of its chain. -/
theorem Registry.resolve_eq_ok {registry : Registry} {scope client : String} {calls : List RegistryCall}
    (h : registry.resolve scope = (.ok client, calls)) :
    ∃ n, (ScopeName.parse scope).eip155? = some n ∧ calls = [.find (Eip155.hex n), .get client] := by
  unfold resolve at h
  split at h
  · cases h
  · next n hn =>
    simp only at h
    split at h
    · cases h
    · split at h
      · cases h
        exact ⟨n, hn, rfl⟩
      · cases h

namespace Subscriptions

variable {registry : Registry} {scope domain : String} {s s' : Subscriptions} {log calls : List RegistryCall}

/-! ## Holding -/

/-- A feed is held for a scope. -/
def Holds (s : Subscriptions) (scope : String) (feed : Nat) : Prop :=
  ∃ subs, s.scopes.get? scope = some subs ∧ subs.feed = feed

theorem Holds.unique {feed other : Nat} (h : s.Holds scope feed) (hother : s.Holds scope other) : feed = other := by
  obtain ⟨subs, hsubs, rfl⟩ := h
  obtain ⟨subs', hsubs', rfl⟩ := hother
  rw [hsubs] at hsubs'
  cases hsubs'
  rfl

theorem exists_holds_iff : (∃ feed, s.Holds scope feed) ↔ s.scopes.contains scope = true := by
  rw [KeyMap.contains_iff_exists]
  constructor
  · rintro ⟨_, subs, hsubs, -⟩
    exact ⟨subs, hsubs⟩
  · rintro ⟨subs, hsubs⟩
    exact ⟨subs.feed, subs, hsubs, rfl⟩

theorem forall_not_holds_iff : (∀ feed, ¬ s.Holds scope feed) ↔ s.scopes.get? scope = none := by
  rw [← not_exists, exists_holds_iff, Bool.not_eq_true, KeyMap.contains_eq_false_iff]

/-- A scope's subscriptions may change while it holds its feed. -/
theorem holds_insert {subs : ScopeSubscriptions} (h : s'.scopes = s.scopes.insert scope subs)
    (other : String) (feed : Nat) :
    s'.Holds other feed ↔ if scope = other then subs.feed = feed else s.Holds other feed := by
  unfold Holds
  rw [h, KeyMap.get?_insert]
  split <;> simp

theorem holds_insert_of_feed {subs subs' : ScopeSubscriptions} (h : s'.scopes = s.scopes.insert scope subs')
    (hsubs : s.scopes.get? scope = some subs) (hfeed : subs'.feed = subs.feed) (other : String) (feed : Nat) :
    s'.Holds other feed ↔ s.Holds other feed := by
  rw [holds_insert h]
  split
  · next hscope =>
    subst hscope
    simp [Holds, hsubs, hfeed]
  · exact Iff.rfl

theorem holds_erase (h : s'.scopes = s.scopes.erase scope) (other : String) (feed : Nat) :
    s'.Holds other feed ↔ scope ≠ other ∧ s.Holds other feed := by
  unfold Holds
  rw [h, KeyMap.get?_erase]
  split
  · next hscope => simp [hscope]
  · next hscope => simp [hscope]

/-! ## What a step does to the feeds -/

/-- No feed is made or destroyed, and every scope holds the one it had. -/
structure Rests (s : Subscriptions) (calls : List RegistryCall) (s' : Subscriptions) : Prop where
  length_feeds : s'.feeds.length = s.feeds.length
  holds_iff : ∀ other feed, s'.Holds other feed ↔ s.Holds other feed
  history_eq : history calls = []

/-- A scope that held no feed gets a new one, from the client of its chain. -/
structure Activates (scope : String) (s : Subscriptions) (calls : List RegistryCall) (s' : Subscriptions) :
    Prop where
  length_feeds : s'.feeds.length = s.feeds.length + 1
  idle : ∀ feed, ¬ s.Holds scope feed
  holds_iff : ∀ other feed, s'.Holds other feed ↔
    (other = scope ∧ feed = s.feeds.length) ∨ s.Holds other feed
  calls_eq : ∃ n client, (ScopeName.parse scope).eip155? = some n ∧
    calls = [.find (Eip155.hex n), .get client, .create client s.feeds.length]

/-- The feed of a scope is destroyed, and the scope holds none any more. -/
structure Ends (scope : String) (s : Subscriptions) (calls : List RegistryCall) (s' : Subscriptions) : Prop where
  length_feeds : s'.feeds.length = s.feeds.length
  holds_iff : ∀ other feed, s'.Holds other feed ↔ scope ≠ other ∧ s.Holds other feed
  calls_eq : ∃ client feed, s.Holds scope feed ∧ calls = [.destroy client feed]

theorem length_feeds_updateFeed (s : Subscriptions) (feed : Nat)
    (f : Emitter FeedListener Notification → Emitter FeedListener Notification) :
    (s.updateFeed feed f).feeds.length = s.feeds.length :=
  List.length_modify _ _ _

theorem length_feeds_addListener (s : Subscriptions) (scope domain : String) (subs : ScopeSubscriptions) :
    (s.addListener scope domain subs).feeds.length = s.feeds.length := by
  simp only [addListener, length_feeds_updateFeed]

theorem feedFor_of_fresh (hfresh : registry.Fresh) (client : String) (s : Subscriptions) :
    s.feedFor registry client = (s.feeds.length, { s with feeds := s.feeds ++ [{ client := client }] }) := by
  unfold feedFor
  rw [hfresh client]
  rfl

/-- A new scope holds the feed it was given, and the others hold what they held. -/
theorem holds_created {client : String} (h : s.scopes.get? scope = none) (other : String) (feed : Nat) :
    ((s.feedFor registry client).2.addListener scope domain { feed := (s.feedFor registry client).1 }).Holds
      other feed ↔ (other = scope ∧ feed = (s.feedFor registry client).1) ∨ s.Holds other feed := by
  obtain ⟨id, hscopes⟩ := scopes_addListener_feedFor registry client scope domain s
  rw [holds_insert hscopes]
  by_cases hscope : scope = other
  · subst hscope
    simp [forall_not_holds_iff.2 h, eq_comm]
  · simp [hscope, Ne.symm hscope]

/-- Subscribing to a scope that has subscribers makes no feed, and neither does subscribing in vain. -/
theorem rests_subscribe (h : s.scopes.get? scope = none →
      (s.subscribe registry scope domain).result.toBool = false) :
    Rests s (s.subscribe registry scope domain).calls (s.subscribe registry scope domain).state := by
  have hstep := subscribing registry scope domain s
  generalize s.subscribe registry scope domain = change at h hstep ⊢
  cases hstep with
  | repeated => exact ⟨rfl, fun _ _ => Iff.rfl, rfl⟩
  | @added subs hsubs hnew =>
    obtain ⟨id, hscopes⟩ := scopes_addListener s scope domain subs
    exact ⟨length_feeds_addListener s scope domain subs, holds_insert_of_feed hscopes hsubs rfl, rfl⟩
  | @refused e calls hnone hresolve =>
    have hcalls := registry.history_resolve scope
    rw [hresolve] at hcalls
    exact ⟨rfl, fun _ _ => Iff.rfl, hcalls⟩
  | created hnone => cases h hnone

/-- The first to subscribe to a scope has its feed made. -/
theorem activates_subscribe (hfresh : registry.Fresh) (hnone : s.scopes.get? scope = none)
    (hok : (s.subscribe registry scope domain).result.toBool = true) :
    Activates scope s (s.subscribe registry scope domain).calls (s.subscribe registry scope domain).state := by
  have hstep := subscribing registry scope domain s
  generalize s.subscribe registry scope domain = change at hok hstep ⊢
  cases hstep with
  | repeated hsubs =>
    rw [hnone] at hsubs
    cases hsubs
  | added hsubs =>
    rw [hnone] at hsubs
    cases hsubs
  | refused => cases hok
  | @created client calls _ hresolve =>
    obtain ⟨n, hn, rfl⟩ := Registry.resolve_eq_ok hresolve
    have hholds := @holds_created registry scope domain s client hnone
    have hlength := length_feeds_addListener (s.feedFor registry client).2 scope domain
      { feed := (s.feedFor registry client).1 }
    rw [feedFor_of_fresh hfresh] at hholds hlength ⊢
    exact ⟨hlength.trans (by simp), forall_not_holds_iff.2 hnone, hholds, n, client, hn, rfl⟩

/-- Unsubscribing leaves the feeds as they are, or it ends the last subscription of the scope. -/
theorem rests_or_ends_unsubscribe (hs : s.WellCounted) (hlt : ∀ feed, s.Holds scope feed → feed < s.feeds.length)
    (failure : Nat → Option String) (domain : String) :
    Rests s (s.unsubscribe failure scope domain).calls (s.unsubscribe failure scope domain).state ∨
    Ends scope s (s.unsubscribe failure scope domain).calls (s.unsubscribe failure scope domain).state := by
  have hstep := unsubscribing hs failure scope domain
  generalize s.unsubscribe failure scope domain = change at hstep ⊢
  cases hstep with
  | nothing => exact .inl ⟨rfl, fun _ _ => Iff.rfl, rfl⟩
  | @removed subs rest id hsubs hids hcount =>
    exact .inl ⟨length_feeds_updateFeed s _ _, holds_insert_of_feed rfl hsubs rfl, rfl⟩
  | @ended subs id hsubs hids hcount =>
    have hheld : s.Holds scope subs.feed := ⟨subs, hsubs, rfl⟩
    have hfeed : subs.feed < (s.updateFeed subs.feed (·.off id)).feeds.length := by
      rw [length_feeds_updateFeed]
      exact hlt subs.feed hheld
    refine .inr ⟨length_feeds_updateFeed s _ _, holds_erase rfl, ?_⟩
    refine ⟨(s.updateFeed subs.feed (·.off id)).feeds[subs.feed].client, subs.feed, hheld, ?_⟩
    simp only [endScope, List.getElem?_eq_getElem hfeed]

/-! ## What a run owns -/

/-- The feeds made are those numbered so far, each made once. One that is held is held for one scope, by whose
chain its client was found, and is not destroyed; the others are destroyed, each once. -/
structure Owned (log : List RegistryCall) (s : Subscriptions) : Prop where
  wellCounted : s.WellCounted
  held_lt : ∀ {scope feed}, s.Holds scope feed → feed < s.feeds.length
  holder_eq : ∀ {scope other feed}, s.Holds scope feed → s.Holds other feed → scope = other
  found : ∀ {scope feed}, s.Holds scope feed → ∃ n client, (ScopeName.parse scope).eip155? = some n ∧
    [.find (Eip155.hex n), .get client, .create client feed] <:+: log
  count_made : ∀ feed, (history log).count (.made feed) = if feed < s.feeds.length then 1 else 0
  count_destroyed_held : ∀ {scope feed}, s.Holds scope feed → (history log).count (.destroyed feed) = 0
  count_destroyed_free : ∀ {feed}, feed < s.feeds.length → (∀ scope, ¬ s.Holds scope feed) →
    (history log).count (.destroyed feed) = 1
  count_destroyed_unmade : ∀ {feed}, s.feeds.length ≤ feed → (history log).count (.destroyed feed) = 0

namespace Owned

theorem empty : Owned [] {} := by
  have hnone (scope : String) (feed : Nat) : ¬ ({} : Subscriptions).Holds scope feed :=
    forall_not_holds_iff.2 rfl feed
  constructor
  case wellCounted => exact wellCounted_empty
  case held_lt => exact fun hheld => absurd hheld (hnone _ _)
  case holder_eq => exact fun hheld => absurd hheld (hnone _ _)
  case found => exact fun hheld => absurd hheld (hnone _ _)
  case count_made => exact fun _ => rfl
  case count_destroyed_held => exact fun _ => rfl
  case count_destroyed_free => exact fun hlt => absurd hlt (Nat.not_lt_zero _)
  case count_destroyed_unmade => exact fun _ => rfl

theorem rests (h : Owned log s) (hs' : s'.WellCounted) (hstep : Rests s calls s') : Owned (log ++ calls) s' := by
  have hhistory : history (log ++ calls) = history log := by simp [hstep.history_eq]
  constructor
  case wellCounted => exact hs'
  case held_lt =>
    intro scope feed hheld
    rw [hstep.length_feeds]
    exact h.held_lt ((hstep.holds_iff _ _).1 hheld)
  case holder_eq =>
    intro scope other feed hheld hother
    exact h.holder_eq ((hstep.holds_iff _ _).1 hheld) ((hstep.holds_iff _ _).1 hother)
  case found =>
    intro scope feed hheld
    obtain ⟨n, client, hn, hinfix⟩ := h.found ((hstep.holds_iff _ _).1 hheld)
    exact ⟨n, client, hn, hinfix.trans (List.prefix_append _ _).isInfix⟩
  case count_made =>
    intro feed
    rw [hhistory, h.count_made, hstep.length_feeds]
  case count_destroyed_held =>
    intro scope feed hheld
    rw [hhistory, h.count_destroyed_held ((hstep.holds_iff _ _).1 hheld)]
  case count_destroyed_free =>
    intro feed hlt hfree
    rw [hstep.length_feeds] at hlt
    rw [hhistory, h.count_destroyed_free hlt fun scope hheld => hfree scope ((hstep.holds_iff _ _).2 hheld)]
  case count_destroyed_unmade =>
    intro feed hle
    rw [hstep.length_feeds] at hle
    rw [hhistory, h.count_destroyed_unmade hle]

/-- The new feed has the next number, which no scope holds yet. -/
theorem activates (h : Owned log s) (hs' : s'.WellCounted) (hstep : Activates scope s calls s') :
    Owned (log ++ calls) s' := by
  obtain ⟨n, client, hn, rfl⟩ := hstep.calls_eq
  have hcases {other feed} (hheld : s'.Holds other feed) :
      (other = scope ∧ feed = s.feeds.length) ∨ (s.Holds other feed ∧ feed < s.feeds.length) :=
    ((hstep.holds_iff _ _).1 hheld).imp_right fun hold => ⟨hold, h.held_lt hold⟩
  have hhistory : history (log ++ [.find (Eip155.hex n), .get client, .create client s.feeds.length]) =
      history log ++ [.made s.feeds.length] :=
    history_append _ _
  have hdestroyed (feed : Nat) : (history log ++ [FeedEvent.made s.feeds.length]).count (.destroyed feed) =
      (history log).count (.destroyed feed) := by
    simp
  constructor
  case wellCounted => exact hs'
  case held_lt =>
    intro other feed hheld
    rw [hstep.length_feeds]
    rcases hcases hheld with ⟨-, rfl⟩ | ⟨-, hlt⟩ <;> omega
  case holder_eq =>
    intro other other' feed hheld hheld'
    rcases hcases hheld with ⟨rfl, rfl⟩ | ⟨hold, hlt⟩
    · rcases hcases hheld' with ⟨rfl, -⟩ | ⟨-, hlt⟩
      · rfl
      · exact absurd hlt (Nat.lt_irrefl _)
    · rcases hcases hheld' with ⟨-, rfl⟩ | ⟨hold', -⟩
      · exact absurd hlt (Nat.lt_irrefl _)
      · exact h.holder_eq hold hold'
  case found =>
    intro other feed hheld
    rcases hcases hheld with ⟨rfl, rfl⟩ | ⟨hold, -⟩
    · exact ⟨n, client, hn, (List.suffix_append _ _).isInfix⟩
    · obtain ⟨m, client', hm, hinfix⟩ := h.found hold
      exact ⟨m, client', hm, hinfix.trans (List.prefix_append _ _).isInfix⟩
  case count_made =>
    intro feed
    rw [hhistory, List.count_append, h.count_made, hstep.length_feeds]
    rcases Nat.lt_trichotomy feed s.feeds.length with hlt | rfl | hlt
    · simp [hlt, Nat.lt_succ_of_lt hlt, (Nat.ne_of_lt hlt).symm]
    · simp
    · simp [Nat.not_lt_of_lt hlt, Nat.ne_of_lt hlt, Nat.not_lt_of_le hlt]
  case count_destroyed_held =>
    intro other feed hheld
    rw [hhistory, hdestroyed]
    rcases hcases hheld with ⟨-, rfl⟩ | ⟨hold, -⟩
    · exact h.count_destroyed_unmade (Nat.le_refl _)
    · exact h.count_destroyed_held hold
  case count_destroyed_free =>
    intro feed hlt hfree
    have hne : feed ≠ s.feeds.length := by
      rintro rfl
      exact hfree scope ((hstep.holds_iff _ _).2 (.inl ⟨rfl, rfl⟩))
    rw [hstep.length_feeds] at hlt
    rw [hhistory, hdestroyed]
    exact h.count_destroyed_free (by omega) fun other hheld => hfree other ((hstep.holds_iff _ _).2 (.inr hheld))
  case count_destroyed_unmade =>
    intro feed hle
    rw [hstep.length_feeds] at hle
    rw [hhistory, hdestroyed]
    exact h.count_destroyed_unmade (by omega)

/-- The feed that is destroyed was held, so it was not destroyed before. -/
theorem ends (h : Owned log s) (hs' : s'.WellCounted) (hstep : Ends scope s calls s') : Owned (log ++ calls) s' := by
  obtain ⟨client, ended, hended, rfl⟩ := hstep.calls_eq
  have hhistory : history (log ++ [.destroy client ended]) = history log ++ [.destroyed ended] :=
    history_append _ _
  have hother {feed : Nat} (hne : feed ≠ ended) :
      (history log ++ [FeedEvent.destroyed ended]).count (.destroyed feed) =
        (history log).count (.destroyed feed) := by
    simp [hne.symm]
  constructor
  case wellCounted => exact hs'
  case held_lt =>
    intro other feed hheld
    rw [hstep.length_feeds]
    exact h.held_lt ((hstep.holds_iff _ _).1 hheld).2
  case holder_eq =>
    intro other other' feed hheld hheld'
    exact h.holder_eq ((hstep.holds_iff _ _).1 hheld).2 ((hstep.holds_iff _ _).1 hheld').2
  case found =>
    intro other feed hheld
    obtain ⟨n, client', hn, hinfix⟩ := h.found ((hstep.holds_iff _ _).1 hheld).2
    exact ⟨n, client', hn, hinfix.trans (List.prefix_append _ _).isInfix⟩
  case count_made =>
    intro feed
    rw [hhistory, List.count_append, h.count_made, hstep.length_feeds]
    simp
  case count_destroyed_held =>
    intro other feed hheld
    obtain ⟨hscope, hold⟩ := (hstep.holds_iff _ _).1 hheld
    have hne : feed ≠ ended := by
      rintro rfl
      exact hscope (h.holder_eq hended hold)
    rw [hhistory, hother hne, h.count_destroyed_held hold]
  case count_destroyed_free =>
    intro feed hlt hfree
    rw [hstep.length_feeds] at hlt
    rw [hhistory]
    by_cases hfeed : feed = ended
    · subst hfeed
      rw [List.count_append, h.count_destroyed_held hended, List.count_singleton_self]
    · have hfree' : ∀ other, ¬ s.Holds other feed := by
        intro other hold
        by_cases hscope : scope = other
        · subst hscope
          exact hfeed (hold.unique hended)
        · exact hfree other ((hstep.holds_iff _ _).2 ⟨hscope, hold⟩)
      rw [hother hfeed, h.count_destroyed_free hlt hfree']
  case count_destroyed_unmade =>
    intro feed hle
    rw [hstep.length_feeds] at hle
    have hne : feed ≠ ended := by
      rintro rfl
      exact absurd (h.held_lt hended) (Nat.not_lt.2 hle)
    rw [hhistory, hother hne, h.count_destroyed_unmade hle]

end Owned

/-- **No feed is destroyed twice and none is lost, whatever is done.** -/
theorem kept_owned : Kept Registry.Fresh Owned where
  dedupe _ h := by
    obtain ⟨hcounted, hlt, heq, hfound, hmade, hheld, hfree, hunmade⟩ := h
    exact ⟨hcounted, hlt, heq, hfound, hmade, hheld, hfree, hunmade⟩
  subscribe {log s} registry scope domain hfresh h := by
    have hs' := h.wellCounted.subscribe registry scope domain
    by_cases hfirst : s.scopes.get? scope = none ∧ (s.subscribe registry scope domain).result.toBool = true
    · exact h.activates hs' (activates_subscribe hfresh hfirst.1 hfirst.2)
    · refine h.rests hs' (rests_subscribe fun hnone => ?_)
      rw [← Bool.not_eq_true]
      exact fun hok => hfirst ⟨hnone, hok⟩
  unsubscribe {log s} failure scope domain h := by
    have hs' := h.wellCounted.unsubscribe failure scope domain
    rcases rests_or_ends_unsubscribe h.wellCounted (fun _ hheld => h.held_lt hheld) failure domain with hstep | hstep
    · exact h.rests hs' hstep
    · exact h.ends hs' hstep

end Subscriptions
end WalletSession
