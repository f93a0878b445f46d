import WalletSession.Proofs.KeyMap
import WalletSession.Proofs.Subscriptions.Attachment

set_option autoImplicit false

/-! # Some subscriptions less

The state without the subscriptions that satisfy a condition (`Subscriptions.without`): their listeners are off their
feeds, scopes that have no others are forgotten, and everything else is as it was. Only the subscriptions that there are
matter (`Subscriptions.without_congr`), and taking some away and then others takes away both
(`Subscriptions.without_without`). -/

namespace WalletSession

/-! ## Without some subscriptions -/

/-- Whether a listener forwards along a route that satisfies `p`. -/
def FeedListener.isWithin (p : String → String → Bool) : FeedListener → Bool
  | .forward route => p route.scope route.domain
  | .other _ => false

namespace Emitter

variable {e : Emitter FeedListener Notification} {p q : String → String → Bool}

/-- Without the listeners that forward along routes that satisfy `p`. -/
def without (p : String → String → Bool) (e : Emitter FeedListener Notification) :
    Emitter FeedListener Notification :=
  { e with listeners := e.listeners.filter (!·.2.isWithin p) }

theorem without_off (h : e.Numbered) {route : Route} {id : ListenerId} (hid : id ∈ e.idsAlong route)
    (hp : p route.scope route.domain = true) : (e.off id).without p = e.without p := by
  have hlisteners : (e.listeners.filter (·.1 ≠ id)).filter (!·.2.isWithin p) =
      e.listeners.filter (!·.2.isWithin p) := by
    rw [List.filter_filter]
    refine List.filter_congr ?_
    intro l hl
    by_cases hsame : l.1 = id
    · have hforward : l = (id, .forward route) := h.eq_of_id_eq hl (mem_idsAlong.1 hid) hsame
      simp [hforward, FeedListener.isWithin, hp]
    · simp [hsame]
  simp only [without, off, hlisteners]

theorem without_congr (h : ∀ scope domain, e.idsAlong ⟨scope, domain⟩ ≠ [] → p scope domain = q scope domain) :
    e.without p = e.without q := by
  have hlisteners : e.listeners.filter (!·.2.isWithin p) = e.listeners.filter (!·.2.isWithin q) := by
    refine List.filter_congr ?_
    rintro ⟨id, listener⟩ hl
    cases listener with
    | forward route =>
      have hne : e.idsAlong route ≠ [] := List.ne_nil_of_mem (mem_idsAlong.2 hl)
      simp only [FeedListener.isWithin, h route.scope route.domain hne]
    | other name => rfl
  simp only [without, hlisteners]

@[simp] theorem without_false (e : Emitter FeedListener Notification) : (e.without fun _ _ => false) = e := by
  have hlisteners : e.listeners.filter (!·.2.isWithin fun _ _ => false) = e.listeners := by
    rw [List.filter_eq_self]
    rintro ⟨id, listener⟩ -
    cases listener <;> rfl
  simp only [without, hlisteners]

theorem without_without (p q : String → String → Bool) (e : Emitter FeedListener Notification) :
    (e.without p).without q = e.without fun scope domain => p scope domain || q scope domain := by
  have hlisteners : (e.listeners.filter (!·.2.isWithin p)).filter (!·.2.isWithin q) =
      e.listeners.filter (!·.2.isWithin fun scope domain => p scope domain || q scope domain) := by
    rw [List.filter_filter]
    refine List.filter_congr ?_
    rintro ⟨id, listener⟩ -
    cases listener <;> simp [FeedListener.isWithin, Bool.and_comm]
  simp only [without, hlisteners]

end Emitter

/-- Without the listeners that forward along routes that satisfy `p`. -/
def Feed.without (p : String → String → Bool) (x : Feed) : Feed := { x with events := x.events.without p }

@[simp] theorem Feed.without_false (x : Feed) : (x.without fun _ _ => false) = x := by
  rw [without, Emitter.without_false]

theorem Feed.without_without (p q : String → String → Bool) (x : Feed) :
    (x.without p).without q = x.without fun scope domain => p scope domain || q scope domain := by
  simp only [without, Emitter.without_without]

namespace ScopeSubscriptions

/-- Without the domains that satisfy `p`. -/
def without (p : String → Bool) (subs : ScopeSubscriptions) : ScopeSubscriptions :=
  { subs with
    listeners := subs.listeners.filter fun domain _ => !p domain
    count := (subs.listeners.filter fun domain _ => !p domain).total List.length }

variable {subs : ScopeSubscriptions} {p : String → Bool} {domain : String}

theorem get?_listeners_without (p : String → Bool) (subs : ScopeSubscriptions) (domain : String) :
    (subs.without p).listeners.get? domain = if p domain then none else subs.listeners.get? domain := by
  rw [without, KeyMap.get?_filter]
  cases subs.listeners.get? domain <;> cases p domain <;> simp [Option.filter]

theorem Counted.without (h : subs.Counted) (p : String → Bool) : (subs.without p).Counted where
  ids_ne_nil other ids hids := by
    rw [get?_listeners_without] at hids
    split at hids
    · cases hids
    · exact h.ids_ne_nil other ids hids
  count_eq := rfl

theorem Counted.exists_ids (h : subs.Counted) (hpos : 0 < subs.count) :
    ∃ domain ids, subs.listeners.get? domain = some ids := by
  by_contra hnone
  simp only [not_exists] at hnone
  rw [h.count_eq, KeyMap.eq_empty_iff.2 hnone] at hpos
  exact absurd hpos (by decide)

/-- Subscriptions are known by their feed and their listeners. -/
theorem Counted.eq {subs' : ScopeSubscriptions} (h : subs.Counted) (h' : subs'.Counted) (hfeed : subs.feed = subs'.feed)
    (hlisteners : subs.listeners = subs'.listeners) : subs = subs' := by
  have hcount : subs.count = subs'.count := by rw [h.count_eq, h'.count_eq, hlisteners]
  cases subs
  cases subs'
  simp_all

end ScopeSubscriptions

attribute [ext] Subscriptions

namespace Subscriptions

variable {s s' : Subscriptions} {p q : String → String → Bool} {scope domain : String}

/-- Without the subscriptions whose scope and domain satisfy `p`, and without their listeners. -/
def without (p : String → String → Bool) (s : Subscriptions) : Subscriptions :=
  { s with
    scopes := (s.scopes.map fun scope subs => subs.without (p scope)).filter fun _ subs => 0 < subs.count
    feeds := s.feeds.map (·.without p) }

theorem get?_without (p : String → String → Bool) (s : Subscriptions) (scope : String) :
    (s.without p).scopes.get? scope =
      ((s.scopes.get? scope).map fun subs => subs.without (p scope)).filter fun subs => 0 < subs.count := by
  rw [without, KeyMap.get?_filter, KeyMap.get?_map]

theorem WellCounted.without (hs : s.WellCounted) (p : String → String → Bool) : (s.without p).WellCounted := by
  intro scope subs hsubs
  rw [get?_without, Option.filter_eq_some_iff, decide_eq_true_eq] at hsubs
  obtain ⟨hsubs, hpos⟩ := hsubs
  obtain ⟨subs', hsubs', rfl⟩ := Option.map_eq_some_iff.1 hsubs
  exact ⟨(hs scope subs' hsubs').1.without _, hpos⟩

theorem link?_without (hs : s.WellCounted) (p : String → String → Bool) (scope domain : String) :
    (s.without p).link? scope domain = if p scope domain then none else s.link? scope domain := by
  cases hsubs : s.scopes.get? scope with
  | none =>
    have hnone : (s.without p).scopes.get? scope = none := by rw [get?_without, hsubs]; rfl
    rw [link?_of_none hnone, link?_of_none hsubs, ite_self]
  | some subs =>
    have hcounted := (hs scope subs hsubs).1.without (p scope)
    have hlink : ((subs.without (p scope)).listeners.get? domain).map (fun ids => Link.mk subs.feed ids) =
        if p scope domain then none else s.link? scope domain := by
      rw [ScopeSubscriptions.get?_listeners_without, link?_of_get? hsubs]
      split <;> rfl
    by_cases hpos : 0 < (subs.without (p scope)).count
    · have hkept : (s.without p).scopes.get? scope = some (subs.without (p scope)) := by
        rw [get?_without, hsubs, Option.map_some, Option.filter_some, if_pos (decide_eq_true hpos)]
      rw [link?_of_get? hkept]
      exact hlink
    · -- The scope is forgotten, because none of its domains is left.
      have hgone : (s.without p).scopes.get? scope = none := by
        rw [get?_without, hsubs, Option.map_some, Option.filter_some, if_neg (by simpa using hpos)]
      have hheld := hcounted.held_le_count domain
      rw [← hlink, link?_of_none hgone, hcounted.held_eq_zero_iff.1 (by omega), Option.map_none]

/-- Two states have the same scopes if every domain is subscribed in the same way. -/
theorem WellCounted.scopes_eq (hs : s.WellCounted) (hs' : s'.WellCounted)
    (h : ∀ scope domain, s.link? scope domain = s'.link? scope domain) : s.scopes = s'.scopes := by
  have hsubset {a b : Subscriptions} (ha : a.WellCounted) (hb : b.WellCounted)
      (h : ∀ scope domain, a.link? scope domain = b.link? scope domain) (scope : String) (subs : ScopeSubscriptions)
      (hsubs : a.scopes.get? scope = some subs) : b.scopes.get? scope = some subs := by
    obtain ⟨hcounted, hpos⟩ := ha scope subs hsubs
    -- There is a domain that shows the feed of the scope, and then all of them show the listeners.
    obtain ⟨domain, ids, hids⟩ := hcounted.exists_ids hpos
    have hlink : b.link? scope domain = some ⟨subs.feed, ids⟩ := by
      rw [← h, link?_of_get? hsubs, hids, Option.map_some]
    obtain ⟨subs', hsubs', hlink⟩ := Option.bind_eq_some_iff.1 hlink
    obtain ⟨ids', -, hlink⟩ := Option.map_eq_some_iff.1 hlink
    have hfeed : subs'.feed = subs.feed := congrArg Link.feed hlink
    have hlisteners : subs'.listeners = subs.listeners := by
      refine KeyMap.ext_get? ?_
      intro name
      have hname := h scope name
      rw [link?_of_get? hsubs, link?_of_get? hsubs', hfeed] at hname
      exact (Option.map_injective (fun _ _ heq => congrArg Link.ids heq) hname).symm
    rw [hsubs', (hb scope subs' hsubs').1.eq hcounted hfeed hlisteners]
  ext scope subs
  constructor
  · exact hsubset hs hs' h scope subs
  · exact hsubset hs' hs (fun scope domain => (h scope domain).symm) scope subs

/-! ## Taking subscriptions away -/

/-- A listener that forwards belongs to a subscription. -/
theorem Attached.feeds_without_congr (ha : s.Attached)
    (h : ∀ scope domain, s.isSubscribed scope domain = true → p scope domain = q scope domain) :
    (s.without p).feeds = (s.without q).feeds := by
  refine List.map_congr_left ?_
  intro x hx
  obtain ⟨feed, hfeed⟩ := List.mem_iff_getElem?.1 hx
  have hevents : s.feedEvents feed = x.events := by simp only [feedEvents, hfeed]
  have hsame : x.events.without p = x.events.without q := by
    refine Emitter.without_congr ?_
    intro scope domain hne
    rw [← hevents, ha.ids_eq] at hne
    refine h scope domain ?_
    rw [← isSome_link?, Option.isSome_iff_ne_none]
    exact fun hnone => hne (idsOn_of_none hnone feed)
  rw [Feed.without, hsame, Feed.without]

/-- Where no one is subscribed there is nothing to take away. -/
theorem without_congr (hs : s.WellCounted) (ha : s.Attached)
    (h : ∀ scope domain, s.isSubscribed scope domain = true → p scope domain = q scope domain) :
    s.without p = s.without q := by
  have hscopes : (s.without p).scopes = (s.without q).scopes := by
    refine (hs.without p).scopes_eq (hs.without q) ?_
    intro scope domain
    rw [link?_without hs, link?_without hs]
    cases hlink : s.link? scope domain with
    | none => rw [ite_self, ite_self]
    | some link => rw [h scope domain (by rw [← isSome_link?, hlink, Option.isSome_some])]
  exact Subscriptions.ext hscopes (ha.feeds_without_congr h) rfl rfl

theorem without_without (hs : s.WellCounted) (p q : String → String → Bool) :
    (s.without p).without q = s.without fun scope domain => p scope domain || q scope domain := by
  have hscopes : ((s.without p).without q).scopes =
      (s.without fun scope domain => p scope domain || q scope domain).scopes := by
    refine ((hs.without p).without q).scopes_eq (hs.without _) ?_
    intro scope domain
    rw [link?_without (hs.without p), link?_without hs, link?_without hs]
    cases p scope domain <;> simp
  have hfeeds : ((s.without p).without q).feeds =
      (s.without fun scope domain => p scope domain || q scope domain).feeds := by
    simp only [without, List.map_map]
    exact List.map_congr_left fun x _ => Feed.without_without p q x
  exact Subscriptions.ext hscopes hfeeds rfl rfl

theorem without_false (hs : s.WellCounted) : (s.without fun _ _ => false) = s := by
  have hscopes : (s.without fun _ _ => false).scopes = s.scopes :=
    (hs.without _).scopes_eq hs fun scope domain => link?_without hs _ scope domain
  have hfeeds : (s.without fun _ _ => false).feeds = s.feeds := by
    simp only [without, Feed.without_false, List.map_id']
  exact Subscriptions.ext hscopes hfeeds rfl rfl

/-- Without all of its subscriptions there are no scopes. -/
theorem scopes_without_true (hs : s.WellCounted) : (s.without fun _ _ => true).scopes = .empty :=
  (hs.without _).scopes_eq wellCounted_empty fun scope domain => link?_without hs _ scope domain

/-- Without its subscriptions a scope is not there, and the others are as they were. -/
theorem scopes_without_scope (hs : s.WellCounted) (scope : String) :
    (s.without fun name _ => name == scope).scopes = s.scopes.erase scope := by
  have herased : WellCounted { s with scopes := s.scopes.erase scope } := hs.erase rfl
  refine (hs.without _).scopes_eq herased ?_
  intro other domain
  rw [link?_without hs]
  simp only [beq_iff_eq]
  exact (link?_erase rfl other).symm

end Subscriptions
end WalletSession
