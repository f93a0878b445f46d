import WalletSession.Proofs.Subscriptions.Ownership
import WalletSession.Subscriptions.Routing

set_option autoImplicit false

/-! # Who listens on a feed

Notifications are forwarded by the listeners whose ids are kept with the scope that holds the feed
(`ScopeSubscriptions.ListedOn`), while a feed that is not held has no such listeners. Ids are only good for finding
a listener because no two listeners have the same one, so every step keeps both together
(`Subscriptions.kept_wired`). Others may listen on a feed as well. -/

namespace WalletSession

/-! ## The listeners of one feed -/

/-- The route along which a listener forwards. -/
def FeedListener.route? : FeedListener → Option Route
  | .forward route => some route
  | .other _ => none

namespace Emitter

/-- The listeners that forward, by their ids, in the order they were registered. -/
def forwards (e : Emitter FeedListener Notification) : List (ListenerId × Route) :=
  e.listeners.filterMap fun l => l.2.route?.map fun route => (l.1, route)

theorem mem_forwards {e : Emitter FeedListener Notification} {f : ListenerId × Route} :
    f ∈ e.forwards ↔ (f.1, .forward f.2) ∈ e.listeners := by
  rw [forwards, List.mem_filterMap]
  constructor
  · rintro ⟨⟨id, listener⟩, hl, hroute⟩
    cases listener with
    | forward route =>
      cases hroute
      exact hl
    | other name => cases hroute
  · exact fun h => ⟨_, h, rfl⟩

variable (e : Emitter FeedListener Notification)

@[simp] theorem forwards_on_forward (route : Route) :
    (e.on (.forward route)).1.forwards = e.forwards ++ [((e.on (.forward route)).2, route)] := by
  rw [forwards, listeners_on, List.filterMap_append]
  rfl

@[simp] theorem forwards_on_other (name : String) : (e.on (.other name)).1.forwards = e.forwards := by
  rw [forwards, listeners_on, List.filterMap_append]
  exact List.append_nil _

@[simp] theorem forwards_off (id : ListenerId) : (e.off id).forwards = e.forwards.filter (·.1 ≠ id) := by
  simp only [forwards, listeners_off, List.filterMap_filter, List.filter_filterMap]
  congr 1
  funext l
  cases l.2.route? <;> simp [Option.filter]

/-- The domains that the listeners forward to. -/
def domains : List String := e.forwards.map (·.2.domain)

end Emitter

namespace ScopeSubscriptions

/-- The listeners that forward from the emitter of a scope's feed are those kept for its domains. -/
structure ListedOn (subs : ScopeSubscriptions) (scope : String) (e : Emitter FeedListener Notification) : Prop where
  /-- No id is given out twice. -/
  nodup_ids : (e.forwards.map (·.1)).Nodup
  id_lt : ∀ f ∈ e.forwards, f.1.number < e.nextListener
  scope_eq : ∀ f ∈ e.forwards, f.2.scope = scope
  ids_eq : ∀ domain, (e.forwards.filter (·.2.domain = domain)).map (·.1) = (subs.listeners.get? domain).getD []

variable {subs : ScopeSubscriptions} {scope domain : String} {e : Emitter FeedListener Notification}
  {rest : List ListenerId} {id : ListenerId}

namespace ListedOn

/-- Where no one forwards, no domain has listeners. -/
theorem empty (feed : Nat) (h : e.forwards = []) : ({ feed := feed } : ScopeSubscriptions).ListedOn scope e where
  nodup_ids := by simp [h]
  id_lt := by simp [h]
  scope_eq := by simp [h]
  ids_eq _ := by
    rw [h]
    rfl

theorem withListener (h : subs.ListedOn scope e) (domain : String) :
    (subs.withListener domain (e.on (.forward ⟨scope, domain⟩)).2).ListedOn scope
      (e.on (.forward ⟨scope, domain⟩)).1 where
  nodup_ids := by
    rw [Emitter.forwards_on_forward, List.map_append, List.nodup_append]
    refine ⟨h.nodup_ids, by simp, ?_⟩
    rintro _ hid id hnew rfl
    obtain ⟨f, hf, rfl⟩ := List.mem_map.1 hid
    have hnext : f.1 = ⟨e.nextListener⟩ := List.mem_singleton.1 hnew
    have hlt := h.id_lt f hf
    rw [hnext] at hlt
    exact Nat.lt_irrefl _ hlt
  id_lt f hf := by
    rw [Emitter.forwards_on_forward, List.mem_append, List.mem_singleton] at hf
    rcases hf with hf | rfl
    · exact Nat.lt_succ_of_lt (h.id_lt f hf)
    · exact Nat.lt_succ_self _
  scope_eq f hf := by
    rw [Emitter.forwards_on_forward, List.mem_append, List.mem_singleton] at hf
    rcases hf with hf | rfl
    · exact h.scope_eq f hf
    · rfl
  ids_eq other := by
    rw [Emitter.forwards_on_forward, List.filter_append, List.map_append, h.ids_eq, get?_listeners_withListener]
    by_cases hd : domain = other
    · subst hd
      simp
    · simp [hd]

/-- The listener kept last for a domain was registered last for it. -/
theorem exists_latest (h : subs.ListedOn scope e) (hids : subs.listeners.get? domain = some (rest ++ [id])) :
    ∃ before after, e.forwards = before ++ (id, ⟨scope, domain⟩) :: after ∧ (∀ f ∈ after, f.2.domain ≠ domain) ∧
      (e.off id).forwards = before ++ after := by
  have hlist := h.ids_eq domain
  rw [hids, Option.getD_some, List.map_eq_append_iff] at hlist
  obtain ⟨earlier, latest, hfilter, -, hlatest⟩ := hlist
  obtain ⟨f, rfl, hid⟩ := List.map_eq_singleton_iff.1 hlatest
  obtain ⟨before, _, hforwards, -, hrest⟩ := List.filter_eq_append_iff.1 hfilter
  obtain ⟨between, after, rfl, -, hdomain, hafter⟩ := List.filter_eq_cons_iff.1 hrest
  rw [← List.append_assoc] at hforwards
  have hf : f = (id, ⟨scope, domain⟩) := by
    have hscope := h.scope_eq f (by simp [hforwards])
    obtain ⟨i, s, d⟩ := f
    simp_all
  subst hf
  refine ⟨before ++ between, after, hforwards, by simpa using hafter, ?_⟩
  -- No other listener has the id of this one.
  have hnodup := h.nodup_ids
  rw [hforwards, List.map_append, List.map_cons, List.nodup_middle, List.nodup_cons, ← List.map_append] at hnodup
  have hkeep : (before ++ between ++ after).filter (·.1 ≠ id) = before ++ between ++ after := by
    rw [List.filter_eq_self]
    intro f hf
    rw [decide_eq_true_eq]
    intro hid
    exact hnodup.1 (List.mem_map.2 ⟨f, hf, hid⟩)
  rw [Emitter.forwards_off, hforwards, ← hkeep]
  simp

theorem withRest (h : subs.ListedOn scope e) (hids : subs.listeners.get? domain = some (rest ++ [id])) :
    (subs.withRest domain rest).ListedOn scope (e.off id) := by
  have hsublist : (e.off id).forwards.Sublist e.forwards := by
    rw [Emitter.forwards_off]
    exact List.filter_sublist
  constructor
  case nodup_ids => exact h.nodup_ids.sublist (hsublist.map _)
  case id_lt => exact fun f hf => h.id_lt f (hsublist.mem hf)
  case scope_eq => exact fun f hf => h.scope_eq f (hsublist.mem hf)
  case ids_eq =>
    intro other
    obtain ⟨before, after, hforwards, hafter, hoff⟩ := h.exists_latest hids
    have hother := h.ids_eq other
    rw [hforwards, List.filter_append, List.filter_cons, List.map_append] at hother
    rw [hoff, List.filter_append, List.map_append, get?_listeners_withRest]
    by_cases hd : domain = other
    · subst hd
      have hnone : after.filter (·.2.domain = domain) = [] := by
        simpa [List.filter_eq_nil_iff] using hafter
      rw [hids] at hother
      simp only [decide_true, if_true, List.map_cons, hnone, List.map_nil, Option.getD_some] at hother
      have hrest := (List.append_inj' hother rfl).1
      rw [hnone, hrest, List.map_nil, List.append_nil, if_pos rfl]
      split
      · next hnil => simp [hnil]
      · rfl
    · simpa [hd] using hother

theorem forwards_eq_nil (h : subs.ListedOn scope e) (hnone : ∀ domain, subs.held domain = 0) : e.forwards = [] := by
  rw [List.eq_nil_iff_forall_not_mem]
  intro f hf
  have hid : f.1 ∈ (e.forwards.filter (·.2.domain = f.2.domain)).map (·.1) :=
    List.mem_map_of_mem (List.mem_filter.2 ⟨hf, by simp⟩)
  rw [h.ids_eq] at hid
  have hheld := hnone f.2.domain
  unfold held at hheld
  cases hids : subs.listeners.get? f.2.domain with
  | none => simp [hids] at hid
  | some ids => simp_all

theorem count_domains (h : subs.ListedOn scope e) (domain : String) : e.domains.count domain = subs.held domain := by
  have hfilter : e.domains.count domain = ((e.forwards.filter (·.2.domain = domain)).map (·.1)).length := by
    rw [Emitter.domains, List.length_map, List.count_eq_countP, List.countP_map, List.countP_eq_length_filter]
    simp only [Function.comp_def, beq_eq_decide]
  rw [hfilter, h.ids_eq, held]
  cases subs.listeners.get? domain <;> rfl

end ListedOn
end ScopeSubscriptions

namespace Subscriptions

variable {s s' : Subscriptions} {scope domain : String} {log : List RegistryCall}

/-! ## The emitters of all feeds -/

theorem feedEvents_updateFeed (s : Subscriptions) (feed : Nat)
    (f : Emitter FeedListener Notification → Emitter FeedListener Notification) (other : Nat) :
    (s.updateFeed feed f).feedEvents other =
      if feed = other ∧ other < s.feeds.length then f (s.feedEvents other) else s.feedEvents other := by
  unfold feedEvents updateFeed
  rw [List.getElem?_modify]
  by_cases hlt : other < s.feeds.length
  · by_cases hfeed : feed = other <;> simp [hlt, hfeed]
  · simp [hlt]

theorem feedEvents_updateFeed_of_lt {feed : Nat} (hlt : feed < s.feeds.length)
    (f : Emitter FeedListener Notification → Emitter FeedListener Notification) :
    (s.updateFeed feed f).feedEvents = Function.update s.feedEvents feed (f (s.feedEvents feed)) := by
  funext other
  rw [feedEvents_updateFeed, Function.update_apply]
  by_cases hfeed : feed = other
  · subst hfeed
    simp [hlt]
  · simp [hfeed, Ne.symm hfeed]

/-- No one listens on a new feed yet, as little as on one that is not there. -/
theorem feedEvents_concat (s : Subscriptions) (client : String) :
    feedEvents { s with feeds := s.feeds ++ [{ client := client }] } = s.feedEvents := by
  funext feed
  unfold feedEvents
  rcases Nat.lt_trichotomy feed s.feeds.length with hlt | rfl | hlt
  · simp [List.getElem?_append_left hlt]
  · simp
  · have hnone : s.feeds[feed]? = none := List.getElem?_eq_none hlt.le
    have hnone' : (s.feeds ++ [({ client := client } : Feed)])[feed]? = none :=
      List.getElem?_eq_none (by rwa [List.length_append])
    simp only [hnone, hnone']

/-- From the feeds that are held forward those listeners that are kept for their scopes, and from the others none. -/
structure Wired (s : Subscriptions) : Prop where
  listed : ∀ {scope subs}, s.scopes.get? scope = some subs → subs.ListedOn scope (s.feedEvents subs.feed)
  free : ∀ {feed}, (∀ scope, ¬ s.Holds scope feed) → (s.feedEvents feed).forwards = []

theorem Wired.empty : ({} : Subscriptions).Wired where
  listed h := by cases h
  free _ := rfl

/-! ## What a step does to the listeners -/

/-- The emitter of one feed becomes `e`. This is the feed that the scope holds before or afterwards; if it does not hold
it any more, no one forwards from it. -/
structure Rewires (scope : String) (feed : Nat) (e : Emitter FeedListener Notification) (s s' : Subscriptions) :
    Prop where
  only : ∀ other held, s.Holds other held → (other = scope ↔ held = feed)
  get?_other : ∀ other, other ≠ scope → s'.scopes.get? other = s.scopes.get? other
  get?_self : (∃ subs, s'.scopes.get? scope = some subs ∧ subs.feed = feed ∧ subs.ListedOn scope e) ∨
    s'.scopes.get? scope = none ∧ e.forwards = []
  feedEvents_eq : s'.feedEvents = Function.update s.feedEvents feed e

theorem get?_addListener_self (s : Subscriptions) (scope domain : String) (subs : ScopeSubscriptions) :
    (s.addListener scope domain subs).scopes.get? scope =
      some (subs.withListener domain ((s.feedEvents subs.feed).on (.forward ⟨scope, domain⟩)).2) := by
  rw [addListener, KeyMap.get?_insert, if_pos rfl]
  rfl

theorem get?_addListener_of_ne (s : Subscriptions) {scope other : String} (domain : String)
    (subs : ScopeSubscriptions) (hother : other ≠ scope) :
    (s.addListener scope domain subs).scopes.get? other = s.scopes.get? other := by
  rw [addListener, KeyMap.get?_insert, if_neg (Ne.symm hother)]
  rfl

theorem feedEvents_addListener {subs : ScopeSubscriptions} (hlt : subs.feed < s.feeds.length)
    (scope domain : String) :
    (s.addListener scope domain subs).feedEvents = Function.update s.feedEvents subs.feed
      ((s.feedEvents subs.feed).on (.forward ⟨scope, domain⟩)).1 := by
  have hevents : (s.addListener scope domain subs).feedEvents =
      (s.updateFeed subs.feed fun _ => ((s.feedEvents subs.feed).on (.forward ⟨scope, domain⟩)).1).feedEvents := rfl
  rw [hevents, feedEvents_updateFeed_of_lt hlt]

theorem Wired.rewires {feed : Nat} {e : Emitter FeedListener Notification} (hw : s.Wired)
    (h : Rewires scope feed e s s') : s'.Wired := by
  constructor
  case listed =>
    intro other subs hsubs
    rw [h.feedEvents_eq]
    by_cases hother : other = scope
    · subst hother
      rcases h.get?_self with ⟨subs', hsubs', rfl, hlisted⟩ | ⟨hnone, -⟩
      · rw [hsubs'] at hsubs
        cases hsubs
        rwa [Function.update_self]
      · rw [hnone] at hsubs
        cases hsubs
    · rw [h.get?_other other hother] at hsubs
      have hfeed : subs.feed ≠ feed := mt (h.only other subs.feed ⟨subs, hsubs, rfl⟩).2 hother
      rw [Function.update_of_ne hfeed]
      exact hw.listed hsubs
  case free =>
    intro held hfree
    rw [h.feedEvents_eq]
    by_cases hfeed : held = feed
    · subst hfeed
      rw [Function.update_self]
      rcases h.get?_self with ⟨subs, hsubs, rfl, -⟩ | ⟨-, hnil⟩
      · exact absurd ⟨subs, hsubs, rfl⟩ (hfree scope)
      · exact hnil
    · rw [Function.update_of_ne hfeed]
      refine hw.free fun other hheld => hfree other ?_
      have hother : other ≠ scope := mt (h.only other held hheld).1 hfeed
      obtain ⟨subs, hsubs, rfl⟩ := hheld
      exact ⟨subs, (h.get?_other other hother).trans hsubs, rfl⟩

/-! ### Subscribing -/

namespace Owned

variable {subs : ScopeSubscriptions} {registry : Registry}

theorem holds_only (h : Owned log s) (hsubs : s.scopes.get? scope = some subs) {other : String} {held : Nat}
    (hheld : s.Holds other held) : other = scope ↔ held = subs.feed := by
  have hself : s.Holds scope subs.feed := ⟨subs, hsubs, rfl⟩
  constructor
  · rintro rfl
    exact hheld.unique hself
  · rintro rfl
    exact h.holder_eq hheld hself

/-- No one forwards from a feed that is to be made. -/
theorem forwards_new (h : Owned log s) (hw : s.Wired) : (s.feedEvents s.feeds.length).forwards = [] :=
  hw.free fun _ hheld => Nat.lt_irrefl _ (h.held_lt hheld)

theorem rewires_addListener (h : Owned log s) (hw : s.Wired) (hsubs : s.scopes.get? scope = some subs)
    (domain : String) :
    Rewires scope subs.feed ((s.feedEvents subs.feed).on (.forward ⟨scope, domain⟩)).1 s
      (s.addListener scope domain subs) where
  only _ _ hheld := h.holds_only hsubs hheld
  get?_other _ hother := get?_addListener_of_ne s domain subs hother
  get?_self := .inl ⟨_, get?_addListener_self s scope domain subs, rfl, (hw.listed hsubs).withListener domain⟩
  feedEvents_eq := feedEvents_addListener (h.held_lt ⟨subs, hsubs, rfl⟩) scope domain

/-- The feed made for a scope is a new one. -/
theorem rewires_feedFor (h : Owned log s) (hw : s.Wired) (hfresh : registry.Fresh)
    (hnone : s.scopes.get? scope = none) (client domain : String) :
    Rewires scope s.feeds.length ((s.feedEvents s.feeds.length).on (.forward ⟨scope, domain⟩)).1 s
      ((s.feedFor registry client).2.addListener scope domain { feed := (s.feedFor registry client).1 }) := by
  rw [feedFor_of_fresh hfresh]
  have hevents := s.feedEvents_concat client
  have hfree := h.forwards_new hw
  constructor
  case only =>
    intro other held hheld
    constructor
    · rintro rfl
      exact absurd hheld (forall_not_holds_iff.2 hnone held)
    · rintro rfl
      exact absurd (h.held_lt hheld) (Nat.lt_irrefl _)
  case get?_other => exact fun _ hother => get?_addListener_of_ne _ domain _ hother
  case get?_self =>
    rw [← hevents] at hfree ⊢
    exact .inl ⟨_, get?_addListener_self _ scope domain _, rfl,
      (ScopeSubscriptions.ListedOn.empty _ hfree).withListener domain⟩
  case feedEvents_eq =>
    rw [← hevents]
    exact feedEvents_addListener (by rw [List.length_append]; exact Nat.lt_succ_self _) scope domain

/-! ### Unsubscribing -/

variable {rest : List ListenerId} {id : ListenerId} {failure : Nat → Option String}

theorem rewires_removed (h : Owned log s) (hw : s.Wired) (hsubs : s.scopes.get? scope = some subs)
    (hids : subs.listeners.get? domain = some (rest ++ [id])) :
    Rewires scope subs.feed ((s.feedEvents subs.feed).off id) s
      { s.updateFeed subs.feed (·.off id) with scopes := s.scopes.insert scope (subs.withRest domain rest) } where
  only _ _ hheld := h.holds_only hsubs hheld
  get?_other other hother := by rw [KeyMap.get?_insert, if_neg (Ne.symm hother)]
  get?_self := .inl ⟨subs.withRest domain rest, by rw [KeyMap.get?_insert, if_pos rfl], rfl,
    (hw.listed hsubs).withRest hids⟩
  feedEvents_eq := feedEvents_updateFeed_of_lt (h.held_lt ⟨subs, hsubs, rfl⟩) _

/-- The last listener of a scope to go leaves none behind. -/
theorem rewires_ended (h : Owned log s) (hw : s.Wired) (hsubs : s.scopes.get? scope = some subs)
    (hids : subs.listeners.get? domain = some [id]) (hcount : subs.count = 1) :
    Rewires scope subs.feed ((s.feedEvents subs.feed).off id) s
      (endScope failure scope (s.updateFeed subs.feed (·.off id)) subs.feed).state where
  only _ _ hheld := h.holds_only hsubs hheld
  get?_other other hother := by
    rw [endScope, KeyMap.get?_erase, if_neg (Ne.symm hother)]
    rfl
  get?_self := by
    have hids' : subs.listeners.get? domain = some ([] ++ [id]) := hids
    have hleft := (h.wellCounted scope subs hsubs).1.held_withRest_nil hids hcount
    refine .inr ⟨by rw [endScope, KeyMap.get?_erase, if_pos rfl], ?_⟩
    exact ((hw.listed hsubs).withRest hids').forwards_eq_nil (congrFun hleft)
  feedEvents_eq := feedEvents_updateFeed_of_lt (h.held_lt ⟨subs, hsubs, rfl⟩) _

end Owned

/-! ### Any step -/

/-- **The listeners on the feeds stay those that are kept for the scopes.** -/
theorem kept_wired : Kept Registry.Fresh fun log s => Owned log s ∧ s.Wired where
  dedupe b h := ⟨kept_owned.dedupe b h.1, h.2.listed, h.2.free⟩
  subscribe := by
    intro log s registry scope domain hfresh h
    refine ⟨kept_owned.subscribe registry scope domain hfresh h.1, ?_⟩
    have hstep := subscribing registry scope domain s
    generalize s.subscribe registry scope domain = change at hstep ⊢
    cases hstep with
    | repeated => exact h.2
    | added hsubs => exact h.2.rewires (h.1.rewires_addListener h.2 hsubs domain)
    | refused => exact h.2
    | @created client calls hnone => exact h.2.rewires (h.1.rewires_feedFor h.2 hfresh hnone client domain)
  unsubscribe := by
    intro log s failure scope domain h
    refine ⟨kept_owned.unsubscribe failure scope domain h.1, ?_⟩
    have hstep := unsubscribing h.1.wellCounted failure scope domain
    generalize s.unsubscribe failure scope domain = change at hstep ⊢
    cases hstep with
    | nothing => exact h.2
    | removed hsubs hids => exact h.2.rewires (h.1.rewires_removed h.2 hsubs hids)
    | ended hsubs hids hcount => exact h.2.rewires (h.1.rewires_ended h.2 hsubs hids hcount)

end Subscriptions
end WalletSession
