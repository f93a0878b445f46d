import WalletSession.Proofs.Subscriptions.Failures

set_option autoImplicit false

/-! # Which listeners belong to a subscription

A domain that is subscribed to a scope has a feed and the ids of its listeners on it (`Subscriptions.link?`). Several
scopes may share a feed, if the registry hands out one that it made before. Still the listeners that forward along a
route are those with the ids kept for it, since no id is given out twice, and every step keeps both together
(`Subscriptions.Reached.attached`). -/

namespace WalletSession

/-! ## Listeners along a route -/

namespace Emitter

variable {L α : Type}

/-- No two listeners have the same id, and the next id is new. -/
structure Numbered (e : Emitter L α) : Prop where
  nodup : (e.listeners.map (·.1)).Nodup
  lt_next : ∀ l ∈ e.listeners, l.1.number < e.nextListener

namespace Numbered

variable {e : Emitter L α}

theorem on (h : e.Numbered) (listener : L) : (e.on listener).1.Numbered where
  nodup := by
    rw [listeners_on, List.map_append, List.nodup_append]
    refine ⟨h.nodup, by simp, ?_⟩
    rintro _ hid id hnew rfl
    obtain ⟨l, hl, rfl⟩ := List.mem_map.1 hid
    have hnext : l.1 = ⟨e.nextListener⟩ := List.mem_singleton.1 hnew
    have hlt := h.lt_next l hl
    rw [hnext] at hlt
    exact Nat.lt_irrefl _ hlt
  lt_next := by
    intro l hl
    rw [listeners_on, List.mem_append, List.mem_singleton] at hl
    rcases hl with hl | rfl
    · exact Nat.lt_succ_of_lt (h.lt_next l hl)
    · exact Nat.lt_succ_self _

theorem off (h : e.Numbered) (id : ListenerId) : (e.off id).Numbered where
  nodup := h.nodup.sublist (List.filter_sublist.map _)
  lt_next l hl := h.lt_next l (List.mem_filter.1 hl).1

theorem deliver (h : e.Numbered) (event : α) : (e.deliver event).Numbered := ⟨h.nodup, h.lt_next⟩

theorem eq_of_id_eq (h : e.Numbered) {l l' : ListenerId × L} (hl : l ∈ e.listeners) (hl' : l' ∈ e.listeners)
    (hid : l.1 = l'.1) : l = l' :=
  List.inj_on_of_nodup_map h.nodup hl hl' hid

end Numbered

/-- The ids of the listeners that forward along a route, in the order they were registered. -/
def idsAlong (route : Route) (e : Emitter FeedListener Notification) : List ListenerId :=
  (e.listeners.filter (·.2 = .forward route)).map (·.1)

variable {e : Emitter FeedListener Notification} {route : Route} {id : ListenerId}

/-- Only the listeners that forward matter. -/
theorem idsAlong_eq_forwards (e : Emitter FeedListener Notification) (route : Route) :
    e.idsAlong route = (e.forwards.filter (·.2 = route)).map (·.1) := by
  rw [idsAlong, forwards, List.filter_filterMap, List.map_filterMap, ← List.filterMap_eq_map, List.filterMap_filter]
  refine List.filterMap_congr fun l _ => ?_
  obtain ⟨id, listener⟩ := l
  cases listener with
  | forward other => by_cases hroute : other = route <;> simp [FeedListener.route?, hroute]
  | other name => simp [FeedListener.route?]

theorem mem_idsAlong : id ∈ e.idsAlong route ↔ (id, .forward route) ∈ e.listeners := by
  simp [idsAlong]

theorem idsAlong_on_forward (e : Emitter FeedListener Notification) (other : Route) :
    (e.on (.forward other)).1.idsAlong route =
      e.idsAlong route ++ if other = route then [(e.on (.forward other)).2] else [] := by
  rw [idsAlong, listeners_on, List.filter_append, List.map_append, idsAlong]
  by_cases hroute : other = route <;> simp [hroute]

@[simp] theorem idsAlong_on_other (e : Emitter FeedListener Notification) (name : String) :
    (e.on (.other name)).1.idsAlong route = e.idsAlong route := by
  rw [idsAlong, listeners_on, List.filter_append, List.map_append, idsAlong]
  simp

theorem idsAlong_off (e : Emitter FeedListener Notification) (id : ListenerId) :
    (e.off id).idsAlong route = (e.idsAlong route).filter (· ≠ id) := by
  rw [idsAlong, idsAlong, listeners_off, List.filter_map, List.filter_filter, List.filter_filter]
  congr 1
  exact List.filter_congr fun l _ => Bool.and_comm _ _

namespace Numbered

variable {rest : List ListenerId} {other : Route}

theorem idsAlong_off_last (h : e.Numbered) (hids : e.idsAlong route = rest ++ [id]) :
    (e.off id).idsAlong route = rest := by
  have hnodup : (e.idsAlong route).Nodup := h.nodup.sublist (List.filter_sublist.map _)
  rw [hids, List.nodup_append] at hnodup
  have hrest : rest.filter (· ≠ id) = rest := by
    rw [List.filter_eq_self]
    intro kept hkept
    simpa using hnodup.2.2 kept hkept id (by simp)
  rw [idsAlong_off, hids, List.filter_append, hrest]
  simp

/-- A listener forwards along one route only. -/
theorem idsAlong_off_of_ne (h : e.Numbered) (hid : id ∈ e.idsAlong other) (hne : route ≠ other) :
    (e.off id).idsAlong route = e.idsAlong route := by
  rw [idsAlong_off, List.filter_eq_self]
  intro kept hkept
  rw [decide_eq_true_eq]
  rintro rfl
  have hsame := h.eq_of_id_eq (mem_idsAlong.1 hkept) (mem_idsAlong.1 hid) rfl
  exact hne (FeedListener.forward.inj (congrArg Prod.snd hsame))

end Numbered
end Emitter

namespace Subscriptions

variable {s s' : Subscriptions} {scope domain : String} {feed : Nat} {id : ListenerId}

/-! ## Subscriptions by their listeners -/

/-- The feed that a domain listens on, and the ids of its listeners. -/
structure Link where
  feed : Nat
  ids : List ListenerId
deriving DecidableEq

/-- How a domain is subscribed to a scope, if it is. -/
def link? (s : Subscriptions) (scope domain : String) : Option Link :=
  (s.scopes.get? scope).bind fun subs => (subs.listeners.get? domain).map fun ids => ⟨subs.feed, ids⟩

/-- The ids of the listeners that a domain has on a feed for a scope. -/
def idsOn (s : Subscriptions) (feed : Nat) (scope domain : String) : List ListenerId :=
  match s.link? scope domain with
  | some link => if link.feed = feed then link.ids else []
  | none => []

theorem link?_of_get? {subs : ScopeSubscriptions} (hsubs : s.scopes.get? scope = some subs) :
    s.link? scope domain = (subs.listeners.get? domain).map fun ids => ⟨subs.feed, ids⟩ := by
  rw [link?, hsubs, Option.bind_some]

theorem link?_of_none (hnone : s.scopes.get? scope = none) : s.link? scope domain = none := by
  rw [link?, hnone, Option.bind_none]

theorem idsOn_of_link? {link : Link} (h : s.link? scope domain = some link) (feed : Nat) :
    s.idsOn feed scope domain = if link.feed = feed then link.ids else [] := by
  simp only [idsOn, h]

theorem idsOn_of_none (h : s.link? scope domain = none) (feed : Nat) : s.idsOn feed scope domain = [] := by
  simp only [idsOn, h]

theorem isSome_link? (s : Subscriptions) (scope domain : String) :
    (s.link? scope domain).isSome = s.isSubscribed scope domain := by
  unfold link? isSubscribed
  cases s.scopes.get? scope <;> simp [KeyMap.contains]

theorem link?_insert {subs : ScopeSubscriptions} (h : s'.scopes = s.scopes.insert scope subs) (other : String) :
    s'.link? other domain = if other = scope then (subs.listeners.get? domain).map fun ids => ⟨subs.feed, ids⟩
      else s.link? other domain := by
  rw [link?, h, KeyMap.get?_insert]
  by_cases hscope : other = scope
  · simp [hscope]
  · simp [hscope, Ne.symm hscope, link?]

theorem link?_erase (h : s'.scopes = s.scopes.erase scope) (other : String) :
    s'.link? other domain = if other = scope then none else s.link? other domain := by
  rw [link?, h, KeyMap.get?_erase]
  by_cases hscope : other = scope
  · simp [hscope]
  · simp [hscope, Ne.symm hscope, link?]

/-! ## One listener more, or one less -/

/-- A domain gets one more listener, on the feed that it listens on for this scope if it does. -/
structure Attaches (scope domain : String) (feed : Nat) (s s' : Subscriptions) : Prop where
  feed_eq : ∀ link, s.link? scope domain = some link → link.feed = feed
  link?_eq : ∀ other name, s'.link? other name = if other = scope ∧ name = domain then
    some ⟨feed, s.idsOn feed scope domain ++ [⟨(s.feedEvents feed).nextListener⟩]⟩ else s.link? other name
  feedEvents_eq : s'.feedEvents = Function.update s.feedEvents feed
    ((s.feedEvents feed).on (.forward ⟨scope, domain⟩)).1

/-- A domain loses its last listener. -/
structure Detaches (scope domain : String) (feed : Nat) (rest : List ListenerId) (id : ListenerId)
    (s s' : Subscriptions) : Prop where
  linked : s.link? scope domain = some ⟨feed, rest ++ [id]⟩
  link?_eq : ∀ other name, s'.link? other name = if other = scope ∧ name = domain then
    (if rest = [] then none else some ⟨feed, rest⟩) else s.link? other name
  feeds_eq : s'.feeds = (s.updateFeed feed (·.off id)).feeds
  dedupe_eq : s'.dedupe = s.dedupe
  messages_eq : s'.messages = s.messages

theorem Attaches.idsOn_eq (h : Attaches scope domain feed s s') (other : Nat) (name who : String) :
    s'.idsOn other name who = s.idsOn other name who ++
      if name = scope ∧ who = domain ∧ other = feed then [⟨(s.feedEvents feed).nextListener⟩] else [] := by
  by_cases hpair : name = scope ∧ who = domain
  · obtain ⟨rfl, rfl⟩ := hpair
    have hnew : s'.link? name who = some ⟨feed, s.idsOn feed name who ++ [⟨(s.feedEvents feed).nextListener⟩]⟩ := by
      rw [h.link?_eq, if_pos ⟨rfl, rfl⟩]
    rw [idsOn_of_link? hnew]
    by_cases hfeed : other = feed
    · simp [hfeed]
    · have hnil : s.idsOn other name who = [] := by
        cases hlink : s.link? name who with
        | none => exact idsOn_of_none hlink other
        | some link => rw [idsOn_of_link? hlink, h.feed_eq link hlink, if_neg (Ne.symm hfeed)]
      simp [hfeed, Ne.symm hfeed, hnil]
  · have hno : ¬ (name = scope ∧ who = domain ∧ other = feed) := fun hall => hpair ⟨hall.1, hall.2.1⟩
    rw [if_neg hno, List.append_nil, idsOn, h.link?_eq, if_neg hpair, idsOn]

namespace Detaches

variable {rest : List ListenerId}

theorem holds (h : Detaches scope domain feed rest id s s') : s.Holds scope feed := by
  obtain ⟨subs, hsubs, hlink⟩ := Option.bind_eq_some_iff.1 h.linked
  obtain ⟨ids, -, hlink⟩ := Option.map_eq_some_iff.1 hlink
  exact ⟨subs, hsubs, congrArg Link.feed hlink⟩

theorem idsOn_eq (h : Detaches scope domain feed rest id s s') (other : Nat) (name who : String) :
    s'.idsOn other name who =
      if name = scope ∧ who = domain ∧ other = feed then rest else s.idsOn other name who := by
  by_cases hpair : name = scope ∧ who = domain
  · obtain ⟨rfl, rfl⟩ := hpair
    have hnew : s'.idsOn other name who = if feed = other then rest else [] := by
      have hlink := h.link?_eq name who
      rw [if_pos ⟨rfl, rfl⟩] at hlink
      by_cases hrest : rest = []
      · rw [if_pos hrest] at hlink
        simp [idsOn_of_none hlink, hrest]
      · rw [if_neg hrest] at hlink
        rw [idsOn_of_link? hlink]
    rw [hnew, idsOn_of_link? h.linked]
    by_cases hfeed : other = feed
    · simp [hfeed]
    · simp [hfeed, Ne.symm hfeed]
  · have hno : ¬ (name = scope ∧ who = domain ∧ other = feed) := fun hall => hpair ⟨hall.1, hall.2.1⟩
    rw [if_neg hno, idsOn, h.link?_eq, if_neg hpair, idsOn]

end Detaches

theorem attaches_addListener {subs : ScopeSubscriptions} (hlt : subs.feed < s.feeds.length)
    (hsubs : s.scopes.get? scope = some subs ∨ s.scopes.get? scope = none ∧ subs.listeners = .empty)
    (domain : String) : Attaches scope domain subs.feed s (s.addListener scope domain subs) := by
  have hlink (name : String) : s.link? scope name =
      (subs.listeners.get? name).map fun ids => ⟨subs.feed, ids⟩ := by
    rcases hsubs with hsubs | ⟨hnone, hempty⟩
    · exact link?_of_get? hsubs
    · rw [link?_of_none hnone, hempty, KeyMap.get?_empty, Option.map_none]
  have hids : s.idsOn subs.feed scope domain = (subs.listeners.get? domain).getD [] := by
    rw [idsOn, hlink]
    cases subs.listeners.get? domain <;> simp
  constructor
  case feed_eq =>
    intro link hold
    rw [hlink, Option.map_eq_some_iff] at hold
    obtain ⟨ids, -, rfl⟩ := hold
    rfl
  case link?_eq =>
    intro other name
    have hscopes : (s.addListener scope domain subs).scopes = s.scopes.insert scope
        (subs.withListener domain ((s.feedEvents subs.feed).on (.forward ⟨scope, domain⟩)).2) := rfl
    rw [link?_insert hscopes, ScopeSubscriptions.get?_listeners_withListener, hids]
    by_cases hscope : other = scope
    · subst hscope
      by_cases hname : name = domain
      · subst hname
        simp [Emitter.on]
      · simp [hname, Ne.symm hname, hlink]
    · simp [hscope]
  case feedEvents_eq => exact feedEvents_addListener hlt scope domain

theorem feedEvents_feedFor (registry : Registry) (client : String) (s : Subscriptions) :
    (s.feedFor registry client).2.feedEvents = s.feedEvents := by
  unfold feedFor
  split
  · rfl
  · exact s.feedEvents_concat client

/-- Subscribing changes nothing, or the domain gets one more listener on some feed. -/
theorem attaches_subscribe (hs : s.Backed) (registry : Registry) (scope domain : String) :
    (s.subscribe registry scope domain).state = s ∨
      ∃ feed, Attaches scope domain feed s (s.subscribe registry scope domain).state := by
  have hstep := subscribing registry scope domain s
  generalize s.subscribe registry scope domain = change at hstep ⊢
  cases hstep with
  | repeated => exact .inl rfl
  | @added subs hsubs hnew =>
    exact .inr ⟨subs.feed, attaches_addListener (hs.held_lt ⟨subs, hsubs, rfl⟩) (.inl hsubs) domain⟩
  | refused => exact .inl rfl
  | @created client calls hnone hresolve =>
    have hscopes := scopes_feedFor registry client s
    have hadd := @attaches_addListener (s.feedFor registry client).2 scope { feed := (s.feedFor registry client).1 }
      (feedFor_lt registry client s) (.inr ⟨hscopes ▸ hnone, rfl⟩) domain
    have hlink (other name : String) : (s.feedFor registry client).2.link? other name = s.link? other name := by
      rw [link?, hscopes, link?]
    refine .inr ⟨(s.feedFor registry client).1, ?_⟩
    constructor
    case feed_eq =>
      intro link hold
      rw [link?_of_none hnone] at hold
      cases hold
    case link?_eq =>
      have hids : (s.feedFor registry client).2.idsOn = s.idsOn := by
        funext feed other name
        rw [idsOn, hlink, idsOn]
      intro other name
      rw [hadd.link?_eq, hids, hlink, feedEvents_feedFor]
    case feedEvents_eq =>
      rw [hadd.feedEvents_eq, feedEvents_feedFor]

/-- Without its only listener a scope is not subscribed to by any domain. -/
theorem link?_of_count_eq_one {subs : ScopeSubscriptions} (hs : s.WellCounted)
    (hsubs : s.scopes.get? scope = some subs) (hids : subs.listeners.get? domain = some [id]) (hcount : subs.count = 1)
    {name : String} (hname : name ≠ domain) : s.link? scope name = none := by
  have hcounted := (hs scope subs hsubs).1
  have hnone : (subs.withRest domain []).held name = 0 := congrFun (hcounted.held_withRest_nil hids hcount) name
  rw [ScopeSubscriptions.held, ScopeSubscriptions.get?_listeners_withRest, if_neg hname.symm] at hnone
  rw [link?_of_get? hsubs, hcounted.held_eq_zero_iff.1 hnone, Option.map_none]

/-- Unsubscribing changes nothing where the domain is not subscribed; otherwise it loses its last listener. -/
theorem detaches_unsubscribe (hs : s.Backed) (failure : Nat → Option String) (scope domain : String) :
    s.link? scope domain = none ∧ (s.unsubscribe failure scope domain).state = s ∨
      ∃ feed rest id, Detaches scope domain feed rest id s (s.unsubscribe failure scope domain).state := by
  have hstep := unsubscribing hs.wellCounted failure scope domain
  generalize s.unsubscribe failure scope domain = change at hstep ⊢
  cases hstep with
  | nothing hnone =>
    refine .inl ⟨?_, rfl⟩
    cases hsubs : s.scopes.get? scope with
    | none => exact link?_of_none hsubs
    | some subs => rw [link?_of_get? hsubs, hnone subs hsubs, Option.map_none]
  | @removed subs rest id hsubs hids hcount =>
    refine .inr ⟨subs.feed, rest, id, ⟨?_, ?_, rfl, rfl, rfl⟩⟩
    · rw [link?_of_get? hsubs, hids, Option.map_some]
    · intro other name
      rw [link?_insert rfl, ScopeSubscriptions.get?_listeners_withRest]
      by_cases hscope : other = scope
      · subst hscope
        by_cases hname : name = domain
        · subst hname
          by_cases hrest : rest = []
          · simp [hrest]
          · simp [hrest, ScopeSubscriptions.withRest]
        · simp [hname, Ne.symm hname, link?_of_get? hsubs, ScopeSubscriptions.withRest]
      · rw [if_neg hscope, if_neg fun h => hscope h.1]
  | @ended subs id hsubs hids hcount =>
    refine .inr ⟨subs.feed, [], id, ⟨?_, ?_, rfl, rfl, rfl⟩⟩
    · rw [link?_of_get? hsubs, hids, Option.map_some, List.nil_append]
    · intro other name
      rw [link?_erase rfl]
      by_cases hscope : other = scope
      · subst hscope
        by_cases hname : name = domain
        · simp [hname]
        · simp [hname, link?_of_count_eq_one hs.wellCounted hsubs hids hcount hname]
      · rw [if_neg hscope, if_neg fun h => hscope h.1]
        rfl

/-! ## What steps keep -/

/-- The listeners that forward along a route are those kept for it. -/
structure Attached (s : Subscriptions) : Prop where
  numbered : ∀ feed, (s.feedEvents feed).Numbered
  ids_eq : ∀ feed scope domain, (s.feedEvents feed).idsAlong ⟨scope, domain⟩ = s.idsOn feed scope domain

namespace Attached

theorem empty : ({} : Subscriptions).Attached where
  numbered _ := ⟨List.nodup_nil, fun _ h => by cases h⟩
  ids_eq _ _ _ := rfl

theorem attaches (ha : s.Attached) (h : Attaches scope domain feed s s') : s'.Attached := by
  constructor
  case numbered =>
    intro other
    rw [h.feedEvents_eq, Function.update_apply]
    split
    · exact (ha.numbered feed).on _
    · exact ha.numbered other
  case ids_eq =>
    intro other name who
    rw [h.idsOn_eq, h.feedEvents_eq, Function.update_apply]
    by_cases hfeed : other = feed
    · subst hfeed
      rw [if_pos rfl, Emitter.idsAlong_on_forward, ha.ids_eq]
      simp [Emitter.on, eq_comm, and_comm]
    · simp [hfeed, ha.ids_eq]

/-- Only the listener that goes had its id. -/
theorem detaches (hs : s.Backed) (ha : s.Attached) {rest : List ListenerId}
    (h : Detaches scope domain feed rest id s s') : s'.Attached := by
  have hlt : feed < s.feeds.length := hs.held_lt h.holds
  have hevents : s'.feedEvents = Function.update s.feedEvents feed ((s.feedEvents feed).off id) := by
    rw [← feedEvents_updateFeed_of_lt hlt]
    funext other
    rw [feedEvents, h.feeds_eq, feedEvents]
  have hself : (s.feedEvents feed).idsAlong ⟨scope, domain⟩ = rest ++ [id] := by
    rw [ha.ids_eq, idsOn_of_link? h.linked, if_pos rfl]
  have hid : id ∈ (s.feedEvents feed).idsAlong ⟨scope, domain⟩ := by simp [hself]
  constructor
  case numbered =>
    intro other
    rw [hevents, Function.update_apply]
    split
    · exact (ha.numbered feed).off id
    · exact ha.numbered other
  case ids_eq =>
    intro other name who
    rw [h.idsOn_eq, hevents, Function.update_apply]
    by_cases hfeed : other = feed
    · subst hfeed
      rw [if_pos rfl]
      by_cases hpair : name = scope ∧ who = domain
      · obtain ⟨rfl, rfl⟩ := hpair
        rw [(ha.numbered other).idsAlong_off_last hself, if_pos ⟨rfl, rfl, rfl⟩]
      · have hroute : (⟨name, who⟩ : Route) ≠ ⟨scope, domain⟩ := fun h => hpair (Route.mk.inj h)
        rw [(ha.numbered other).idsAlong_off_of_ne hid hroute, ha.ids_eq, if_neg fun h => hpair ⟨h.1, h.2.1⟩]
    · simp [hfeed, ha.ids_eq]

/-- Nothing changes but listeners that do not forward. -/
theorem updateFeed (ha : s.Attached) {f : Emitter FeedListener Notification → Emitter FeedListener Notification}
    (hnumbered : (f (s.feedEvents feed)).Numbered)
    (hids : ∀ route, (f (s.feedEvents feed)).idsAlong route = (s.feedEvents feed).idsAlong route) :
    (s.updateFeed feed f).Attached where
  numbered other := by
    rw [feedEvents_updateFeed]
    split
    · next h => exact h.1 ▸ hnumbered
    · exact ha.numbered other
  ids_eq other scope domain := by
    have hsame : (s.updateFeed feed f).idsOn other scope domain = s.idsOn other scope domain := rfl
    rw [feedEvents_updateFeed, hsame, ← ha.ids_eq]
    split
    · next h => exact h.1 ▸ hids _
    · rfl

end Attached

/-- **The listeners of every subscription stay those that are kept for it**, whatever the registries answer. -/
theorem kept_attached : Kept (fun _ => True) fun _ s => s.Backed ∧ s.Attached where
  dedupe _ h := ⟨⟨h.1.wellCounted, h.1.held_lt⟩, h.2.numbered, h.2.ids_eq⟩
  subscribe := by
    intro log s registry scope domain _ h
    refine ⟨h.1.subscribe registry scope domain, ?_⟩
    rcases attaches_subscribe h.1 registry scope domain with hsame | ⟨feed, hattaches⟩
    · exact hsame.symm ▸ h.2
    · exact h.2.attaches hattaches
  unsubscribe := by
    intro log s failure scope domain h
    refine ⟨h.1.unsubscribe failure scope domain, ?_⟩
    rcases detaches_unsubscribe h.1 failure scope domain with ⟨-, hsame⟩ | ⟨feed, rest, id, hdetaches⟩
    · exact hsame.symm ▸ h.2
    · exact h.2.detaches h.1 hdetaches

theorem Attached.announced (ha : s.Attached) {σ : Type} (call : String → DomainNotification → σ → σ) (feed : Nat)
    (n : Notification) (x : σ) : (announce call feed n (s, x)).1.Attached := by
  have hdelivered : (s.updateFeed feed fun _ => (s.feedEvents feed).deliver n).Attached :=
    ha.updateFeed ((ha.numbered feed).deliver n) fun _ => rfl
  rw [announce_eq]
  exact ⟨hdelivered.numbered, hdelivered.ids_eq⟩

theorem Reached.attached {past : List (Turn × Outcome)} {log : List RegistryCall} (h : Reached past log s) :
    s.Attached := by
  induction h with
  | start => exact Attached.empty
  | @call past log s h t ih => exact (@Kept.perform _ _ [] s kept_attached t t.asks_any ⟨h.backed, ih⟩).2
  | announced h call feed n x ih => exact ih.announced call feed n x
  | listening h messages ih => exact ⟨ih.numbered, ih.ids_eq⟩
  | watched h feed name ih =>
    exact ih.updateFeed ((ih.numbered feed).on _) fun _ => Emitter.idsAlong_on_other _ name

end Subscriptions
end WalletSession
