import WalletSession.Proofs.Subscriptions.Teardown

set_option autoImplicit false

/-! # What is kept of the listeners

Between any two calls the ids kept for a scope are those of the listeners that its subscriptions have on its feed, and
the count of the scope is their number (`Subscriptions.Consistent`), however `dedupe` is set from call to call and
whatever others do on the feeds meanwhile. A call takes off no listeners but those of the subscriptions that it may end
(`Subscriptions.Spares`). -/

namespace WalletSession

/-! ## The ids of a scope -/

namespace ScopeSubscriptions

/-- The ids of all listeners of a scope. -/
def ids (subs : ScopeSubscriptions) : List ListenerId := subs.listeners.toList.flatMap (·.2)

variable {subs : ScopeSubscriptions}

theorem mem_ids {id : ListenerId} :
    id ∈ subs.ids ↔ ∃ domain ids, subs.listeners.get? domain = some ids ∧ id ∈ ids := by
  simp only [ids, List.mem_flatMap, Prod.exists, KeyMap.mem_toList]

theorem Counted.count_eq_length (h : subs.Counted) : subs.count = subs.ids.length := by
  rw [h.count_eq, ids, List.length_flatMap]
  rfl

/-- What is kept for a scope agrees with the emitter of its feed. -/
structure Represents (subs : ScopeSubscriptions) (scope : String) (e : Emitter FeedListener Notification) : Prop where
  count_eq : subs.count = subs.ids.length
  count_pos : 0 < subs.count
  ids_ne_nil : ∀ domain ids, subs.listeners.get? domain = some ids → ids ≠ []
  nodup_ids : subs.ids.Nodup
  /-- The ids are those of the listeners that forward, whatever their routes. -/
  mem_ids_iff : ∀ id, id ∈ subs.ids ↔ ∃ route, (id, .forward route) ∈ e.listeners
  /-- Domain by domain they are in the order of registration. -/
  ids_eq : ∀ domain, (subs.listeners.get? domain).getD [] = e.idsAlong ⟨scope, domain⟩

end ScopeSubscriptions

namespace Subscriptions

variable {s s' : Subscriptions} {scope domain : String} {log : List RegistryCall}

theorem Attached.ids_of_get? (ha : s.Attached) {subs : ScopeSubscriptions} (hsubs : s.scopes.get? scope = some subs)
    (domain : String) :
    (subs.listeners.get? domain).getD [] = (s.feedEvents subs.feed).idsAlong ⟨scope, domain⟩ := by
  rw [ha.ids_eq, idsOn, link?_of_get? hsubs]
  cases subs.listeners.get? domain <;> simp

theorem Attached.ids_of_listeners (ha : s.Attached) {subs : ScopeSubscriptions} {ids : List ListenerId}
    (hsubs : s.scopes.get? scope = some subs) (hids : subs.listeners.get? domain = some ids) :
    ids = (s.feedEvents subs.feed).idsAlong ⟨scope, domain⟩ := by
  rw [← ha.ids_of_get? hsubs, hids, Option.getD_some]

/-- A listener forwards along one route, so that no two domains share an id. -/
theorem Attached.nodup_ids (ha : s.Attached) {subs : ScopeSubscriptions} (hsubs : s.scopes.get? scope = some subs) :
    subs.ids.Nodup := by
  have hnumbered := ha.numbered subs.feed
  have hids {e : String × List ListenerId} (he : e ∈ subs.listeners.toList) :
      e.2 = (s.feedEvents subs.feed).idsAlong ⟨scope, e.1⟩ := ha.ids_of_listeners hsubs (KeyMap.mem_toList.1 he)
  rw [ScopeSubscriptions.ids, List.nodup_flatMap]
  constructor
  · intro e he
    rw [hids he]
    exact hnumbered.nodup.sublist (List.filter_sublist.map _)
  · refine subs.listeners.ascending.imp_of_mem ?_
    intro e e' he he' hlt id (hid : id ∈ e.2) (hid' : id ∈ e'.2)
    rw [hids he, Emitter.mem_idsAlong] at hid
    rw [hids he', Emitter.mem_idsAlong] at hid'
    have hroute := FeedListener.forward.inj (congrArg Prod.snd (hnumbered.eq_of_id_eq hid hid' rfl))
    exact String.ne_of_lt hlt (congrArg Route.domain hroute)

/-- A listener that forwards from a feed that is held for one scope only forwards for this scope. -/
theorem Attached.mem_ids_iff (ha : s.Attached) (hunshared : s.Unshared) {subs : ScopeSubscriptions}
    (hsubs : s.scopes.get? scope = some subs) (id : ListenerId) :
    id ∈ subs.ids ↔ ∃ route, (id, .forward route) ∈ (s.feedEvents subs.feed).listeners := by
  rw [ScopeSubscriptions.mem_ids]
  constructor
  · rintro ⟨domain, ids, hids, hid⟩
    rw [ha.ids_of_listeners hsubs hids, Emitter.mem_idsAlong] at hid
    exact ⟨_, hid⟩
  · rintro ⟨⟨name, domain⟩, hid⟩
    rw [← Emitter.mem_idsAlong, ha.ids_eq, idsOn] at hid
    cases hlink : s.link? name domain with
    | none => simp [hlink] at hid
    | some link =>
      obtain ⟨subs', hsubs', hlinked⟩ := Option.bind_eq_some_iff.1 hlink
      obtain ⟨ids, hids, rfl⟩ := Option.map_eq_some_iff.1 hlinked
      simp only [hlink] at hid
      split at hid
      · next hfeed =>
        obtain rfl := hunshared scope name subs.feed ⟨subs, hsubs, rfl⟩ ⟨subs', hsubs', hfeed⟩
        obtain rfl : subs = subs' := Option.some.inj (hsubs.symm.trans hsubs')
        exact ⟨domain, ids, hids, hid⟩
      · cases hid

theorem represents_of_get? (hs : s.WellCounted) (ha : s.Attached) (hunshared : s.Unshared) {subs : ScopeSubscriptions}
    (hsubs : s.scopes.get? scope = some subs) : subs.Represents scope (s.feedEvents subs.feed) where
  count_eq := (hs scope subs hsubs).1.count_eq_length
  count_pos := (hs scope subs hsubs).2
  ids_ne_nil := (hs scope subs hsubs).1.ids_ne_nil
  nodup_ids := ha.nodup_ids hsubs
  mem_ids_iff := ha.mem_ids_iff hunshared hsubs
  ids_eq := ha.ids_of_get? hsubs

/-! ## What a call leaves alone -/

/-- Listeners are taken off only of subscriptions whose scope and domain satisfy `p`. -/
structure Spares (p : String → String → Bool) (s s' : Subscriptions) : Prop where
  /-- The ids that are kept for another subscription are kept on. -/
  link?_of : ∀ scope domain link, s.link? scope domain = some link → p scope domain = false →
    ∃ more, s'.link? scope domain = some ⟨link.feed, link.ids ++ more⟩
  /-- Every other listener stays on its feed, whosever it is. -/
  listeners_of : ∀ feed, ∀ l ∈ (s.feedEvents feed).listeners, l.2.isWithin p = false →
    l ∈ (s'.feedEvents feed).listeners

namespace Spares

variable {p : String → String → Bool}

theorem refl (p : String → String → Bool) (s : Subscriptions) : Spares p s s where
  link?_of _ _ link hlink _ := ⟨[], by rw [hlink, List.append_nil]⟩
  listeners_of _ _ hl _ := hl

end Spares

theorem Attaches.spares {feed : Nat} (h : Attaches scope domain feed s s') (p : String → String → Bool) :
    Spares p s s' := by
  constructor
  case link?_of =>
    intro name who link hlink _
    rw [h.link?_eq]
    by_cases hpair : name = scope ∧ who = domain
    · obtain ⟨rfl, rfl⟩ := hpair
      have hfeed := h.feed_eq link hlink
      rw [if_pos ⟨rfl, rfl⟩, idsOn_of_link? hlink, if_pos hfeed, hfeed]
      exact ⟨_, rfl⟩
    · exact ⟨[], by rw [if_neg hpair, hlink, List.append_nil]⟩
  case listeners_of =>
    intro other l hl _
    rw [h.feedEvents_eq, Function.update_apply]
    split
    · next hfeed =>
      subst hfeed
      exact List.mem_append_left _ hl
    · exact hl

theorem feedEvents_without (p : String → String → Bool) (s : Subscriptions) (feed : Nat) :
    (s.without p).feedEvents feed = (s.feedEvents feed).without p := by
  simp only [feedEvents, without, List.getElem?_map]
  cases s.feeds[feed]? <;> rfl

theorem Trims.spares {p : String → String → Bool} (h : Trims p s s') : Spares p s s' where
  link?_of name who link hlink hp := ⟨[], by rw [h.link?_eq name who hp, hlink, List.append_nil]⟩
  listeners_of feed l hl hout := by
    have hsame : (s'.feedEvents feed).without p = (s.feedEvents feed).without p := by
      rw [← feedEvents_without, ← feedEvents_without, feedEvents, h.feeds_eq, feedEvents]
    have hkept : l ∈ ((s'.feedEvents feed).without p).listeners := by
      rw [hsame]
      exact List.mem_filter.2 ⟨hl, by rw [hout]; rfl⟩
    exact (List.mem_filter.1 hkept).1

/-- The subscriptions that a call may end. -/
def Call.ends : Call → String → String → Bool
  | .unsubscribe _ scope domain => fun name who => name == scope && who == domain
  | call => call.covers

theorem spares_perform (hs : s.Backed) (ha : s.Attached) (t : Turn) : Spares t.call.ends s (t.perform s).state := by
  obtain ⟨dedupe, call⟩ := t
  obtain ⟨hs, ha⟩ : (s.withDedupe dedupe).Backed ∧ (s.withDedupe dedupe).Attached :=
    @Kept.dedupe _ _ kept_attached [] s dedupe ⟨hs, ha⟩
  -- Setting `dedupe` touches neither ids nor listeners.
  suffices h : Spares call.ends (s.withDedupe dedupe) (call.perform (s.withDedupe dedupe)).state from
    ⟨h.link?_of, h.listeners_of⟩
  cases call with
  | subscribe registry scope domain =>
    show Spares _ _ ((s.withDedupe dedupe).subscribe registry scope domain).state
    rcases attaches_subscribe hs registry scope domain with hsame | ⟨feed, hattaches⟩
    · rw [hsame]
      exact Spares.refl _ _
    · exact hattaches.spares _
  | unsubscribe failure scope domain =>
    have hone : ∀ target ∈ [(scope, domain)], (Call.unsubscribe failure scope domain).ends target.1 target.2 = true := by
      simp [Call.ends]
    exact (trims_unsubscribeEach hs ha failure hone).spares
  | unsubscribeAll failure => exact (trims_unsubscribeEach hs ha failure fun _ => mem_matching).spares
  | unsubscribeScope failure scope => exact (trims_unsubscribeEach hs ha failure fun _ => mem_matching).spares
  | unsubscribeDomain failure domain => exact (trims_unsubscribeEach hs ha failure fun _ => mem_matching).spares

/-! ## States that fit together -/

/-- What is kept agrees with the feeds. -/
structure Consistent (s : Subscriptions) : Prop where
  /-- Every scope has a feed of its own, on which its ids are those of its listeners. -/
  represents : ∀ scope subs, s.scopes.get? scope = some subs →
    subs.feed < s.feeds.length ∧ subs.Represents scope (s.feedEvents subs.feed)
  unshared : s.Unshared
  /-- Whichever subscription ends, there is one to be taken off the count. -/
  count_removeListener : ∀ scope subs domain ids, s.scopes.get? scope = some subs →
    subs.listeners.get? domain = some ids → (s.removeListener domain subs ids).2.count + 1 = subs.count
  spares : ∀ t : Turn, Spares t.call.ends s (t.perform s).state

theorem Owned.consistent (h : Owned log s) (ha : s.Attached) : s.Consistent where
  represents scope subs hsubs := ⟨h.held_lt ⟨subs, hsubs, rfl⟩,
    represents_of_get? h.wellCounted ha (fun _ _ _ hheld => h.holder_eq hheld) hsubs⟩
  unshared _ _ _ hheld := h.holder_eq hheld
  count_removeListener scope subs domain ids hsubs hids := by
    obtain ⟨hcounted, hpos⟩ := h.wellCounted scope subs hsubs
    obtain ⟨rest, id, rfl⟩ := List.eq_nil_or_concat' ids |>.resolve_left (hcounted.ids_ne_nil domain ids hids)
    rw [removeListener_concat]
    exact Nat.sub_add_cancel hpos
  spares := spares_perform h.backed ha

/-! ## What others do -/

/-- What others do to the emitter of a feed: they take off no listeners of subscriptions. -/
inductive ChangedByOthers (e : Emitter FeedListener Notification) : Emitter FeedListener Notification → Prop where
  | on (name : String) : ChangedByOthers e (e.on (.other name)).1
  | off (id : ListenerId) (h : ∀ route, (id, .forward route) ∉ e.listeners) : ChangedByOthers e (e.off id)
  | deliver (n : Notification) : ChangedByOthers e (e.deliver n)
  | subscribe : ChangedByOthers e e.subscribe.1
  | drain (channel : Nat) : ChangedByOthers e (e.drain channel)
  | close (channel : Nat) : ChangedByOthers e (e.close channel)

namespace ChangedByOthers

variable {e e' : Emitter FeedListener Notification}

theorem forwards_eq (h : ChangedByOthers e e') : e'.forwards = e.forwards := by
  cases h with
  | on name => exact e.forwards_on_other name
  | off id h =>
    rw [Emitter.forwards_off, List.filter_eq_self]
    intro f hf
    rw [decide_eq_true_eq]
    rintro rfl
    exact h f.2 (Emitter.mem_forwards.1 hf)
  | deliver => rfl
  | subscribe => rfl
  | drain => rfl
  | close => rfl

theorem numbered (h : ChangedByOthers e e') (he : e.Numbered) : e'.Numbered := by
  cases h with
  | on name => exact he.on _
  | off id => exact he.off id
  | deliver n => exact he.deliver n
  | subscribe => exact ⟨he.nodup, he.lt_next⟩
  | drain => exact ⟨he.nodup, he.lt_next⟩
  | close => exact ⟨he.nodup, he.lt_next⟩

theorem nextListener_le (h : ChangedByOthers e e') : e.nextListener ≤ e'.nextListener := by
  cases h with
  | on => exact Nat.le_succ _
  | _ => exact Nat.le_refl _

end ChangedByOthers

/-- What may happen between two calls: a feed announces something, others listen to the messages or no longer do, or
they do something on a feed. -/
inductive Meanwhile (s : Subscriptions) : Subscriptions → Prop where
  | announced {σ : Type} (call : String → DomainNotification → σ → σ) (feed : Nat) (n : Notification) (x : σ) :
    Meanwhile s (announce call feed n (s, x)).1
  | listening (messages : Emitter String DomainNotification) : Meanwhile s { s with messages }
  | changed (feed : Nat) {e : Emitter FeedListener Notification} (h : ChangedByOthers (s.feedEvents feed) e) :
    Meanwhile s (s.updateFeed feed fun _ => e)

namespace Meanwhile

theorem undisturbed (h : Meanwhile s s') : Undisturbed s s' := by
  cases h with
  | announced call feed n x => exact .announced call feed n s x
  | listening messages => exact .listening s messages
  | changed feed h => exact .updateFeed h.forwards_eq h.nextListener_le

theorem attached (h : Meanwhile s s') (ha : s.Attached) : s'.Attached := by
  cases h with
  | announced call feed n x => exact ha.announced call feed n x
  | listening => exact ⟨ha.numbered, ha.ids_eq⟩
  | changed feed h =>
    refine ha.updateFeed (h.numbered (ha.numbered feed)) fun route => ?_
    rw [Emitter.idsAlong_eq_forwards, h.forwards_eq, Emitter.idsAlong_eq_forwards]

end Meanwhile

/-! ## At every point -/

/-- The states between calls, with the calls made so far. -/
inductive Between : List Turn → Subscriptions → Prop where
  | start : Between [] {}
  | call {turns : List Turn} {s : Subscriptions} (h : Between turns s) (t : Turn) :
    Between (turns ++ [t]) (t.perform s).state
  | toggled {turns : List Turn} {s : Subscriptions} (h : Between turns s) (dedupe : Bool) :
    Between turns (s.withDedupe dedupe)
  | meanwhile {turns : List Turn} {s s' : Subscriptions} (h : Between turns s) (hothers : Meanwhile s s') :
    Between turns s'

theorem kept_owned_attached : Kept Registry.Fresh fun log s => Owned log s ∧ s.Attached where
  dedupe b h := ⟨kept_owned.dedupe b h.1, h.2.numbered, h.2.ids_eq⟩
  subscribe {log s} registry scope domain hfresh h := ⟨kept_owned.subscribe registry scope domain hfresh h.1,
    (@Kept.subscribe _ _ kept_attached log s registry scope domain trivial ⟨h.1.backed, h.2⟩).2⟩
  unsubscribe {log s} failure scope domain h := ⟨kept_owned.unsubscribe failure scope domain h.1,
    (@Kept.unsubscribe _ _ kept_attached log s failure scope domain ⟨h.1.backed, h.2⟩).2⟩

/-- Where every domain is subscribed once at most, no call under `dedupe` changes that. -/
theorem Tally.next_le_one {c : Tally} (hc : ∀ scope domain, c scope domain ≤ 1) {t : Turn} (ht : t.dedupe = true)
    (outcome : Outcome) (scope domain : String) : c.next t outcome scope domain ≤ 1 := by
  have hclear (p : String → String → Bool) : c.clear p scope domain ≤ 1 := by
    rw [clear]
    split
    · exact Nat.zero_le 1
    · exact hc scope domain
  obtain ⟨dedupe, call⟩ := t
  obtain rfl : dedupe = true := ht
  cases call with
  | subscribe registry name who =>
    simp only [next, Bool.true_and]
    split
    · exact hc scope domain
    · next hnew =>
      rw [set_apply]
      simp only [Bool.or_eq_true, decide_eq_true_eq, not_or] at hnew
      have hone := hc scope domain
      split <;> omega
  | unsubscribe failure name who =>
    simp only [next]
    split
    · rw [set_apply]
      have hone := hc scope domain
      have hone' := hc name who
      split <;> omega
    · exact hc scope domain
  | unsubscribeAll => exact hclear fun _ _ => true
  | unsubscribeScope _ name => exact hclear fun s _ => s == name
  | unsubscribeDomain _ who => exact hclear fun _ d => d == who

namespace Between

variable {turns : List Turn}

theorem owned_attached (h : Between turns s) (hfresh : ∀ t ∈ turns, t.Asks Registry.Fresh) :
    ∃ log, Owned log s ∧ s.Attached := by
  induction h with
  | start => exact ⟨[], Owned.empty, Attached.empty⟩
  | call h t ih =>
    rw [List.forall_mem_append, List.forall_mem_singleton] at hfresh
    obtain ⟨log, hlog⟩ := ih hfresh.1
    exact ⟨_, kept_owned_attached.perform hfresh.2 hlog⟩
  | toggled h dedupe ih =>
    obtain ⟨log, hlog⟩ := ih hfresh
    exact ⟨log, kept_owned_attached.dedupe dedupe hlog⟩
  | meanwhile h hothers ih =>
    obtain ⟨log, howned, ha⟩ := ih hfresh
    exact ⟨log, hothers.undisturbed.owned howned, hothers.attached ha⟩

theorem tally_le_one (h : Between turns s) (hfresh : ∀ t ∈ turns, t.Asks Registry.Fresh)
    (hdedupe : ∀ t ∈ turns, t.dedupe = true) : ∀ scope domain, s.tally scope domain ≤ 1 := by
  induction h with
  | start => exact fun _ _ => Nat.zero_le 1
  | call h t ih =>
    rw [List.forall_mem_append, List.forall_mem_singleton] at hfresh hdedupe
    obtain ⟨log, howned, -⟩ := h.owned_attached hfresh.1
    rw [howned.wellCounted.tally_perform t]
    exact Tally.next_le_one (ih hfresh.1 hdedupe.1) hdedupe.2 _
  | toggled h dedupe ih => exact ih hfresh hdedupe
  | meanwhile h hothers ih =>
    have htally := ih hfresh hdedupe
    unfold tally at htally ⊢
    rw [hothers.undisturbed.scopes_eq]
    exact htally

end Between

/-- **At every point what is kept of the listeners agrees with the feeds**, also in the middle of a call in bulk, whatever
it has ended so far. Under `dedupe` every domain has one listener. -/
theorem between_consistent {turns : List Turn} (h : Between turns s) (hfresh : ∀ t ∈ turns, t.Asks Registry.Fresh) :
    s.Consistent ∧
    (∀ dedupe failure targets, (unsubscribeEach failure targets (s.withDedupe dedupe)).state.Consistent) ∧
    ((∀ t ∈ turns, t.dedupe = true) → ∀ scope subs domain ids, s.scopes.get? scope = some subs →
      subs.listeners.get? domain = some ids → ids.length = 1) := by
  obtain ⟨log, howned, ha⟩ := h.owned_attached hfresh
  refine ⟨howned.consistent ha, fun dedupe failure targets => ?_, fun hdedupe scope subs domain ids hsubs hids => ?_⟩
  · obtain ⟨howned', ha'⟩ := kept_owned_attached.unsubscribeEach failure targets
      (kept_owned_attached.dedupe dedupe ⟨howned, ha⟩)
    exact howned'.consistent ha'
  · have hone := h.tally_le_one hfresh hdedupe scope domain
    have hpos := List.length_pos_of_ne_nil ((howned.wellCounted scope subs hsubs).1.ids_ne_nil domain ids hids)
    rw [tally_of_get? hsubs, ScopeSubscriptions.held, hids, Option.map_some, Option.getD_some] at hone
    exact Nat.le_antisymm hone hpos

/-- A domain subscribes twice, the second time without `dedupe`, and in between someone else listens on the feed. The
domain has two ids, and the other listener stays when all subscriptions end. -/
theorem watched_feed_consistent :
    let registry : Registry := ⟨fun chain => some ("client of " ++ chain), fun _ => true, fun _ => none⟩
    let subscribe (dedupe : Bool) : Turn := ⟨dedupe, .subscribe registry "eip155:1" "a.com"⟩
    let once := ((subscribe true).perform {}).state
    let watched := once.updateFeed 0 fun _ => ((once.feedEvents 0).on (.other "log")).1
    let twice := ((subscribe false).perform watched).state
    let ended := (Turn.perform ⟨true, .unsubscribeAll fun _ => none⟩ twice).state
    Between [subscribe true] watched ∧ Between [subscribe true, subscribe false] twice ∧ twice.Consistent ∧
    twice.link? "eip155:1" "a.com" = some ⟨0, [⟨0⟩, ⟨2⟩]⟩ ∧ (⟨1⟩, .other "log") ∈ (ended.feedEvents 0).listeners ∧
    ∀ scope subs domain ids, watched.scopes.get? scope = some subs → subs.listeners.get? domain = some ids →
      ids.length = 1 := by
  intro registry subscribe once watched twice ended
  have hfresh (dedupe : Bool) : (subscribe dedupe).Asks Registry.Fresh := fun _ => rfl
  have hwatched : Between [subscribe true] watched :=
    (Between.start.call (subscribe true)).meanwhile (.changed 0 (.on "log"))
  have htwice : Between [subscribe true, subscribe false] twice := hwatched.call (subscribe false)
  have hconsistent : twice.Consistent := (between_consistent htwice (by simp [hfresh])).1
  have hother : (⟨1⟩, .other "log") ∈ (twice.feedEvents 0).listeners := by decide +kernel
  refine ⟨hwatched, htwice, hconsistent, by decide +kernel, ?_, ?_⟩
  · exact (hconsistent.spares ⟨true, .unsubscribeAll fun _ => none⟩).listeners_of 0 _ hother rfl
  · exact (between_consistent hwatched (by simp [hfresh])).2.2 (by simp [subscribe])

end Subscriptions
end WalletSession
