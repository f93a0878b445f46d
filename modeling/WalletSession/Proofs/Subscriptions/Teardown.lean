import WalletSession.Proofs.Subscriptions.Without

set_option autoImplicit false

/-! # Ending subscriptions in bulk

A call in bulk lists the subscriptions that it is to end and then ends them one by one, while scopes lose domains and
are forgotten under way. What is left is the state without these subscriptions, and otherwise as it was
(`Subscriptions.state_unsubscribeMatching`). So it does not matter in which order subscriptions are ended, or in how many
calls (`Subscriptions.state_run_of_bulk`). -/

namespace WalletSession
namespace Subscriptions

variable {s s' : Subscriptions} {p : String → String → Bool} {scope domain : String}

/-! ## What is left -/

/-- Nothing changes but subscriptions that satisfy `p`. -/
structure Trims (p : String → String → Bool) (s s' : Subscriptions) : Prop where
  link?_eq : ∀ scope domain, p scope domain = false → s'.link? scope domain = s.link? scope domain
  feeds_eq : (s'.without p).feeds = (s.without p).feeds
  dedupe_eq : s'.dedupe = s.dedupe
  messages_eq : s'.messages = s.messages

namespace Trims

theorem refl (p : String → String → Bool) (s : Subscriptions) : Trims p s s := ⟨fun _ _ _ => rfl, rfl, rfl, rfl⟩

theorem trans {s'' : Subscriptions} (h : Trims p s s') (h' : Trims p s' s'') : Trims p s s'' where
  link?_eq scope domain hp := (h'.link?_eq scope domain hp).trans (h.link?_eq scope domain hp)
  feeds_eq := h'.feeds_eq.trans h.feeds_eq
  dedupe_eq := h'.dedupe_eq.trans h.dedupe_eq
  messages_eq := h'.messages_eq.trans h.messages_eq

end Trims

/-- The listener that goes is one of those that are not counted. -/
theorem Detaches.trims {feed : Nat} {rest : List ListenerId} {id : ListenerId}
    (h : Detaches scope domain feed rest id s s') (ha : s.Attached) (hp : p scope domain = true) : Trims p s s' where
  link?_eq other name hother := by
    rw [h.link?_eq, if_neg]
    rintro ⟨rfl, rfl⟩
    rw [hp] at hother
    cases hother
  feeds_eq := by
    have hid : id ∈ (s.feedEvents feed).idsAlong ⟨scope, domain⟩ := by
      rw [ha.ids_eq, idsOn_of_link? h.linked]
      simp
    -- Only one feed is different, and only by a listener that is not counted.
    refine List.ext_getElem? ?_
    intro i
    simp only [without, h.feeds_eq, updateFeed, List.getElem?_map, List.getElem?_modify, Option.map_eq_map]
    cases hx : s.feeds[i]? with
    | none => rfl
    | some x =>
      by_cases hi : feed = i
      · subst hi
        have hevents : s.feedEvents feed = x.events := by simp only [feedEvents, hx]
        have hsame : (x.events.off id).without p = x.events.without p :=
          Emitter.without_off (hevents ▸ ha.numbered feed) (hevents ▸ hid) hp
        simp only [if_true, Option.map_some, Feed.without, hsame]
      · simp only [hi, if_false, Option.map_some]
  dedupe_eq := h.dedupe_eq
  messages_eq := h.messages_eq

theorem trims_unsubscribeEach (hs : s.Backed) (ha : s.Attached) (failure : Nat → Option String)
    {targets : List (String × String)} (htargets : ∀ target ∈ targets, p target.1 target.2 = true) :
    Trims p s (unsubscribeEach failure targets s).state := by
  induction targets generalizing s with
  | nil => exact Trims.refl p s
  | cons target rest ih =>
    rw [List.forall_mem_cons] at htargets
    have hfirst : Trims p s (s.unsubscribe failure target.1 target.2).state := by
      rcases detaches_unsubscribe hs failure target.1 target.2 with ⟨-, hsame⟩ | ⟨feed, ids, id, hdetaches⟩
      · rw [hsame]
        exact Trims.refl p s
      · exact hdetaches.trims ha htargets.1
    obtain ⟨hs', ha'⟩ := @Kept.unsubscribe _ _ kept_attached [] s failure target.1 target.2 ⟨hs, ha⟩
    exact hfirst.trans (ih hs' ha' htargets.2)

theorem mem_matching {target : String × String} (h : target ∈ s.matching p) : p target.1 target.2 = true := by
  obtain ⟨e, -, htarget⟩ := List.mem_flatMap.1 h
  exact (List.mem_filter.1 htarget).2

/-- **What a call in bulk leaves is the state without the subscriptions that it is to end.** -/
theorem state_unsubscribeMatching (hs : s.Backed) (ha : s.Attached) (failure : Nat → Option String)
    (p : String → String → Bool) : (s.unsubscribeMatching failure p).state = s.without p := by
  have htrims : Trims p s (s.unsubscribeMatching failure p).state :=
    trims_unsubscribeEach hs ha failure fun _ => mem_matching
  obtain ⟨hs', ha'⟩ : (s.unsubscribeMatching failure p).state.Backed ∧ (s.unsubscribeMatching failure p).state.Attached :=
    @Kept.unsubscribeEach _ _ [] s kept_attached failure (s.matching p) ⟨hs, ha⟩
  have hended (scope domain : String) (hp : p scope domain = true) :
      (s.unsubscribeMatching failure p).state.isSubscribed scope domain = false := by
    rw [← Bool.not_eq_true, hs'.wellCounted.isSubscribed_iff, hs.wellCounted.tally_unsubscribeMatching, Tally.clear,
      if_pos hp]
    exact Nat.lt_irrefl 0
  -- Nothing that satisfies `p` is left, so that there is nothing to take away.
  have hself : (s.unsubscribeMatching failure p).state.without p = (s.unsubscribeMatching failure p).state := by
    rw [without_congr hs'.wellCounted ha' (q := fun _ _ => false), without_false hs'.wellCounted]
    intro scope domain hsubscribed
    rw [← Bool.not_eq_true]
    intro hp
    rw [hended scope domain hp] at hsubscribed
    cases hsubscribed
  have hscopes : ((s.unsubscribeMatching failure p).state.without p).scopes = (s.without p).scopes := by
    refine (hs'.wellCounted.without p).scopes_eq (hs.wellCounted.without p) ?_
    intro scope domain
    rw [link?_without hs'.wellCounted, link?_without hs.wellCounted]
    split
    · rfl
    · next hp => exact htrims.link?_eq scope domain (Bool.eq_false_iff.2 hp)
  rw [← hself]
  exact Subscriptions.ext hscopes htrims.feeds_eq htrims.dedupe_eq htrims.messages_eq

/-! ## What is destroyed -/

/-- Subscriptions are listed scope by scope, in order. -/
theorem pairwise_matching (s : Subscriptions) (p : String → String → Bool) :
    (s.matching p).Pairwise fun a b => a.1 = b.1 ∨ a.1 < b.1 := by
  have hscope {e : String × ScopeSubscriptions} {target : String × String}
      (h : target ∈ (e.2.listeners.toList.flatMap fun d => List.replicate d.2.length (e.1, d.1)).filter
        fun t => p t.1 t.2) : target.1 = e.1 := by
    obtain ⟨d, -, htarget⟩ := List.mem_flatMap.1 (List.mem_filter.1 h).1
    rw [List.eq_of_mem_replicate htarget]
  rw [matching, List.pairwise_flatMap]
  constructor
  · intro e _
    exact List.pairwise_of_forall_mem_list fun a ha b hb => .inl ((hscope ha).trans (hscope hb).symm)
  · refine s.scopes.ascending.imp ?_
    intro e e' hlt a ha b hb
    rw [hscope ha, hscope hb]
    exact .inr hlt

/-- The scopes that lose their feeds in a call in bulk do so in order. -/
theorem Backed.tearsDown_unsubscribeMatching (hs : s.Backed) (failure : Nat → Option String)
    (p : String → String → Bool) : ∃ ended, TearsDown failure ended s (s.unsubscribeMatching failure p).calls
      (s.unsubscribeMatching failure p).result (s.unsubscribeMatching failure p).state ∧
      (ended.map Prod.fst).Pairwise (· < ·) := by
  obtain ⟨ended, h, horder⟩ := hs.tearsDown_unsubscribeEach failure (s.matching p)
  refine ⟨ended, h, ?_⟩
  have hsorted : ((s.matching p).map Prod.fst).Pairwise fun scope other => scope = other ∨ scope < other :=
    List.pairwise_map.2 (s.pairwise_matching p)
  refine ((hsorted.sublist horder).and h.nodup).imp ?_
  rintro scope other ⟨hle, hne⟩
  exact hle.resolve_left hne

/-- No feed is held for two scopes. -/
def Unshared (s : Subscriptions) : Prop := ∀ scope other feed, s.Holds scope feed → s.Holds other feed → scope = other

theorem Reached.unshared {past : List (Turn × Outcome)} {log : List RegistryCall} (h : Reached past log s)
    (hfresh : ∀ p ∈ past, p.1.Asks Registry.Fresh) : s.Unshared :=
  fun _ _ _ hheld hother => (h.owned_wired_roster hfresh).1.holder_eq hheld hother

namespace TearsDown

variable {failure : Nat → Option String} {ended ended' : List (String × Nat)} {calls calls' : List RegistryCall}
  {errors : List SubscriptionError}

theorem nodup_destroyedFeeds (h : TearsDown failure ended s calls errors s') (hs : s.Unshared) :
    (destroyedFeeds calls).Nodup := by
  rw [h.destroyed_eq]
  refine List.Nodup.map_on ?_ h.nodup.of_map
  rintro ⟨scope, feed⟩ hmem ⟨other, _⟩ hother rfl
  obtain rfl := hs scope other feed ((h.mem_iff _ _).1 hmem).1 ((h.mem_iff _ _).1 hother).1
  rfl

theorem not_holds_of_destroyed (h : TearsDown failure ended s calls errors s') (hs : s.Unshared) {feed : Nat}
    (hfeed : feed ∈ destroyedFeeds calls) (scope : String) : ¬ s'.Holds scope feed := by
  intro hheld
  rw [h.destroyed_eq, List.mem_map] at hfeed
  obtain ⟨⟨other, _⟩, hmem, rfl⟩ := hfeed
  obtain ⟨hother, hlost⟩ := (h.mem_iff _ _).1 hmem
  obtain rfl := hs scope other _ (h.holds_of hheld) hother
  exact hlost hheld

/-- The same without errors, if none of the feeds fails. -/
theorem unfailing (h : TearsDown failure ended s calls errors s') : TearsDown (fun _ => none) ended s calls [] s' where
  nodup := h.nodup
  mem_iff := h.mem_iff
  destroyed_eq := h.destroyed_eq
  holds_of := h.holds_of
  errors_eq := by
    rw [destroyErrors, eq_comm, List.filterMap_eq_nil_iff]
    exact fun _ _ => rfl

end TearsDown

/-- From the same scopes to the same scopes the same feeds are destroyed. -/
theorem Leaves.perm {ended ended' : List (String × Nat)} {calls calls' : List RegistryCall} {t : Subscriptions}
    (h : Leaves ended s calls s') (h' : Leaves ended' s calls' t) (hscopes : s'.scopes = t.scopes) :
    (destroyedFeeds calls).Perm (destroyedFeeds calls') := by
  rw [h.destroyed_eq, h'.destroyed_eq]
  -- Neither list has a scope twice, so that it is enough that they have the same members.
  refine List.Perm.map _ ?_
  rw [List.perm_ext_iff_of_nodup h.nodup.of_map h'.nodup.of_map]
  rintro ⟨scope, feed⟩
  rw [h.mem_iff, h'.mem_iff, Holds, Holds, Holds, hscopes]

/-- The subscriptions that satisfy `p` end, and nothing else does. -/
structure EndsExactly (failure : Nat → Option String) (p : String → String → Bool) (s : Subscriptions)
    (c : Change (List SubscriptionError)) : Prop where
  isSubscribed_eq : ∀ scope domain,
    c.state.isSubscribed scope domain = (s.isSubscribed scope domain && !p scope domain)
  /-- A domain whose subscriptions do not end keeps their feed and the listener of each of them. -/
  link?_eq : ∀ scope domain, p scope domain = false → c.state.link? scope domain = s.link? scope domain
  /-- The listeners on the feeds are those that were there, but for those that go. -/
  state_eq : c.state = s.without p
  /-- The feeds are destroyed of the scopes that lose all of their subscriptions, in the order of these scopes, and
  there is one error for each feed that fails. -/
  destroys : ∃ ended, (ended.map Prod.fst).Pairwise (· < ·) ∧ Leaves ended s c.calls c.state ∧
    c.result = destroyErrors failure ended
  /-- If every scope has its own feed, none is destroyed twice and none that is still held. -/
  spares : s.Unshared → (destroyedFeeds c.calls).Nodup ∧
    ∀ feed ∈ destroyedFeeds c.calls, ∀ scope, ¬ c.state.Holds scope feed

theorem endsExactly_unsubscribeMatching (hs : s.Backed) (ha : s.Attached) (failure : Nat → Option String)
    (p : String → String → Bool) : EndsExactly failure p s (s.unsubscribeMatching failure p) := by
  have hstate := state_unsubscribeMatching hs ha failure p
  obtain ⟨ended, htears, horder⟩ := hs.tearsDown_unsubscribeMatching failure p
  constructor
  case isSubscribed_eq =>
    intro scope domain
    rw [hstate, ← isSome_link?, ← isSome_link?, link?_without hs.wellCounted]
    cases p scope domain <;> simp
  case link?_eq =>
    intro scope domain hp
    rw [hstate, link?_without hs.wellCounted, hp]
    rfl
  case state_eq => exact hstate
  case destroys => exact ⟨ended, horder, htears.toLeaves, htears.errors_eq⟩
  case spares => exact fun hunshared =>
    ⟨htears.nodup_destroyedFeeds hunshared, fun _ => htears.not_holds_of_destroyed hunshared⟩

/-! ## In several calls -/

/-- The subscriptions that a call in bulk is to end. -/
def Call.covers : Call → String → String → Bool
  | .unsubscribeAll _ => fun _ _ => true
  | .unsubscribeScope _ scope => fun name _ => name == scope
  | .unsubscribeDomain _ domain => fun _ name => name == domain
  | _ => fun _ _ => false

/-- The subscriptions that some of these calls is to end. -/
def coveredBy (turns : List Turn) (scope domain : String) : Bool := turns.any fun t => t.call.covers scope domain

theorem Turn.perform_of_bulk {t : Turn} (hbulk : t.call.isSingle = false) (s : Subscriptions) :
    t.perform s =
      let c := (s.withDedupe t.dedupe).unsubscribeMatching t.call.failures t.call.covers
      ⟨c.state, .ended c.result, c.calls⟩ := by
  obtain ⟨dedupe, call⟩ := t
  cases call with
  | subscribe => cases hbulk
  | unsubscribe => cases hbulk
  | unsubscribeAll => rfl
  | unsubscribeScope => rfl
  | unsubscribeDomain => rfl

variable {turns : List Turn}

/-- **Calls in bulk leave the state without all the subscriptions that they are to end**, in whichever order and
whether or not feeds fail. -/
theorem state_run_of_bulk (hs : s.Backed) (ha : s.Attached) (hbulk : ∀ t ∈ turns, t.call.isSingle = false)
    (dedupe : Bool) : (run turns s).state.withDedupe dedupe = (s.without (coveredBy turns)).withDedupe dedupe := by
  induction turns generalizing s with
  | nil => exact congrArg (withDedupe dedupe) (without_false hs.wellCounted).symm
  | cons t rest ih =>
    rw [List.forall_mem_cons] at hbulk
    obtain ⟨hs', ha'⟩ := @Kept.perform _ _ [] s kept_attached t t.asks_any ⟨hs, ha⟩
    obtain ⟨hset, haset⟩ := @Kept.dedupe _ _ kept_attached [] s t.dedupe ⟨hs, ha⟩
    have hfirst : (t.perform s).state = (s.without t.call.covers).withDedupe t.dedupe := by
      rw [Turn.perform_of_bulk hbulk.1]
      exact state_unsubscribeMatching hset haset t.call.failures t.call.covers
    -- Every turn sets `dedupe` again, so that what the first one sets does not show.
    calc (run (t :: rest) s).state.withDedupe dedupe
        = ((t.perform s).state.without (coveredBy rest)).withDedupe dedupe := ih hs' ha' hbulk.2
      _ = ((s.without t.call.covers).without (coveredBy rest)).withDedupe dedupe := by
        rw [hfirst]
        rfl
      _ = (s.without (coveredBy (t :: rest))).withDedupe dedupe := by
        rw [without_without hs.wellCounted]
        rfl

theorem tearsDown_run_of_bulk (hs : s.Backed) (hbulk : ∀ t ∈ turns, t.call.isSingle = false) :
    ∃ ended, TearsDown (fun _ => none) ended s (run turns s).calls [] (run turns s).state := by
  induction turns generalizing s with
  | nil => exact ⟨[], .of_rests ⟨rfl, fun _ _ => Iff.rfl, rfl⟩⟩
  | cons t rest ih =>
    rw [List.forall_mem_cons] at hbulk
    obtain ⟨ended, hfirst⟩ : ∃ ended,
        TearsDown (fun _ => none) ended s (t.perform s).calls [] (t.perform s).state := by
      have hset : (s.withDedupe t.dedupe).Backed := ⟨hs.wellCounted, hs.held_lt⟩
      obtain ⟨ended, h, -⟩ := hset.tearsDown_unsubscribeMatching t.call.failures t.call.covers
      rw [Turn.perform_of_bulk hbulk.1]
      exact ⟨ended, ⟨h.nodup, h.mem_iff, h.destroyed_eq⟩, h.holds_of, h.unfailing.errors_eq⟩
    have hs' : (t.perform s).state.Backed := @Kept.perform _ _ [] s kept_backed t t.asks_any hs
    obtain ⟨ended', hrest⟩ := ih hs' hbulk.2
    exact ⟨ended ++ ended', hfirst.append hrest⟩

/-- Every call ends all subscriptions to a scope, and no scope is left out. -/
structure ScopeByScope (turns : List Turn) (s : Subscriptions) : Prop where
  call_eq : ∀ t ∈ turns, ∃ failure scope, t.call = .unsubscribeScope failure scope
  exists_turn : ∀ scope ∈ s.scopeNames, ∃ t ∈ turns, ∃ failure, t.call = .unsubscribeScope failure scope

/-- Every call ends all subscriptions of a domain, and no domain is left out. -/
structure DomainByDomain (turns : List Turn) (s : Subscriptions) : Prop where
  call_eq : ∀ t ∈ turns, ∃ failure domain, t.call = .unsubscribeDomain failure domain
  exists_turn : ∀ scope, ∀ domain ∈ s.domains scope, ∃ t ∈ turns, ∃ failure, t.call = .unsubscribeDomain failure domain

/-- Calls in bulk that cover all subscriptions. -/
structure Covers (turns : List Turn) (s : Subscriptions) : Prop where
  bulk : ∀ t ∈ turns, t.call.isSingle = false
  covered : ∀ scope domain, s.isSubscribed scope domain = true → coveredBy turns scope domain = true

theorem mem_scopeNames_of_isSubscribed (h : s.isSubscribed scope domain = true) : scope ∈ s.scopeNames := by
  rw [scopeNames, KeyMap.mem_keys, KeyMap.contains]
  unfold isSubscribed at h
  cases hsubs : s.scopes.get? scope with
  | none => simp [hsubs] at h
  | some subs => rfl

theorem ScopeByScope.covers (h : ScopeByScope turns s) : Covers turns s where
  bulk t ht := by
    obtain ⟨failure, scope, hcall⟩ := h.call_eq t ht
    rw [hcall]
    rfl
  covered scope domain hsubscribed := by
    obtain ⟨t, ht, failure, hcall⟩ := h.exists_turn scope (mem_scopeNames_of_isSubscribed hsubscribed)
    refine List.any_eq_true.2 ⟨t, ht, ?_⟩
    rw [hcall]
    exact beq_self_eq_true scope

theorem DomainByDomain.covers (h : DomainByDomain turns s) (hs : s.WellCounted) : Covers turns s where
  bulk t ht := by
    obtain ⟨failure, domain, hcall⟩ := h.call_eq t ht
    rw [hcall]
    rfl
  covered scope domain hsubscribed := by
    have hmem : domain ∈ s.domains scope := by
      rw [hs.observes_tally.mem_domains_iff, ← hs.isSubscribed_iff]
      exact hsubscribed
    obtain ⟨t, ht, failure, hcall⟩ := h.exists_turn scope domain hmem
    refine List.any_eq_true.2 ⟨t, ht, ?_⟩
    rw [hcall]
    exact beq_self_eq_true domain

/-- **Calls in bulk that cover all subscriptions do together what a single call does.** -/
theorem Covers.run_eq (h : Covers turns s) (hs : s.Backed) (ha : s.Attached) (failure : Nat → Option String) :
    (run turns s).state.withDedupe s.dedupe = (s.unsubscribeAll failure).state ∧
    (destroyedFeeds (run turns s).calls).Perm (destroyedFeeds (s.unsubscribeAll failure).calls) := by
  have hall : (s.unsubscribeAll failure).state = s.without fun _ _ => true :=
    state_unsubscribeMatching hs ha failure _
  have hcovered : s.without (coveredBy turns) = s.without fun _ _ => true :=
    without_congr hs.wellCounted ha h.covered
  have hstate : (run turns s).state.withDedupe s.dedupe = (s.unsubscribeAll failure).state := by
    rw [state_run_of_bulk hs ha h.bulk, hcovered, hall]
    rfl
  refine ⟨hstate, ?_⟩
  obtain ⟨ended, hrun⟩ := tearsDown_run_of_bulk hs h.bulk
  obtain ⟨ended', hone, -⟩ := hs.tearsDown_unsubscribeMatching failure fun _ _ => true
  have hscopes : ((run turns s).state.withDedupe s.dedupe).scopes = (s.unsubscribeAll failure).state.scopes :=
    congrArg Subscriptions.scopes hstate
  exact hrun.toLeaves.perm hone.toLeaves hscopes

/-- **Calls in bulk end exactly the subscriptions that they are to end**, at every point and whichever feeds fail. Ending
all scopes one by one, or all domains, in any order and under any setting of `dedupe`, comes to the same as ending
everything at once. -/
theorem bulk_ends_exactly {past : List (Turn × Outcome)} {log : List RegistryCall} (h : Reached past log s)
    (failure : Nat → Option String) :
    EndsExactly failure (fun _ _ => true) s (s.unsubscribeAll failure) ∧
    (s.unsubscribeAll failure).state.scopes = .empty ∧
    (∀ scope, EndsExactly failure (fun name _ => name == scope) s (s.unsubscribeScope failure scope) ∧
      (s.unsubscribeScope failure scope).state.scopes = s.scopes.erase scope) ∧
    (∀ domain, EndsExactly failure (fun _ name => name == domain) s (s.unsubscribeDomain failure domain)) ∧
    ((∀ p ∈ past, p.1.Asks Registry.Fresh) → s.Unshared) ∧
    ∀ turns, ScopeByScope turns s ∨ DomainByDomain turns s →
      (run turns s).state.withDedupe s.dedupe = (s.unsubscribeAll failure).state ∧
      (destroyedFeeds (run turns s).calls).Perm (destroyedFeeds (s.unsubscribeAll failure).calls) := by
  have hs := h.backed
  have ha := h.attached
  have hexactly := endsExactly_unsubscribeMatching hs ha failure
  refine ⟨hexactly _, ?_, ?_, fun domain => hexactly _, h.unshared, ?_⟩
  · exact (congrArg Subscriptions.scopes (hexactly _).state_eq).trans (scopes_without_true hs.wellCounted)
  · intro scope
    refine ⟨hexactly _, ?_⟩
    exact (congrArg Subscriptions.scopes (hexactly _).state_eq).trans (scopes_without_scope hs.wellCounted scope)
  · rintro turns (hscopes | hdomains)
    · exact hscopes.covers.run_eq hs ha failure
    · exact (hdomains.covers hs.wellCounted).run_eq hs ha failure

/-- A domain leaves two scopes, to one of which it is subscribed twice and another domain once. Only the feed of the other
scope is destroyed, which fails; and ending the scopes one by one, the last one first, comes to the same as ending
everything. -/
theorem repeated_subscriptions_end_exactly :
    let registry : Registry := ⟨fun chain => some ("client of " ++ chain), fun _ => true, fun _ => none⟩
    let subscribe (scope domain : String) : Turn := ⟨false, .subscribe registry scope domain⟩
    let turns : List Turn := [subscribe "eip155:1" "a.com", subscribe "eip155:1" "b.com", subscribe "eip155:10" "a.com",
      subscribe "eip155:1" "a.com"]
    let failure (feed : Nat) : Option String := if feed = 1 then some "stopped already" else none
    let oneByOne : List Turn := [⟨true, .unsubscribeScope failure "eip155:10"⟩,
      ⟨false, .unsubscribeScope (fun _ => none) "eip155:1"⟩]
    let s := (run turns {}).state
    Reached (turns.zip (run turns {}).result) (run turns {}).calls s ∧ s.Unshared ∧
    s.link? "eip155:1" "a.com" = some ⟨0, [⟨0⟩, ⟨2⟩]⟩ ∧
    (s.unsubscribeDomain failure "a.com").state.link? "eip155:1" "b.com" = some ⟨0, [⟨1⟩]⟩ ∧
    (s.unsubscribeDomain failure "a.com").state.scopeNames = ["eip155:1"] ∧
    destroyedFeeds (s.unsubscribeDomain failure "a.com").calls = [1] ∧
    (s.unsubscribeDomain failure "a.com").result = [.destroy "eip155:10" "stopped already"] ∧
    ScopeByScope oneByOne s ∧ (run oneByOne s).state.withDedupe s.dedupe = (s.unsubscribeAll failure).state := by
  intro registry subscribe turns failure oneByOne s
  have hreached : Reached (turns.zip (run turns {}).result) (run turns {}).calls s := Reached.start.run turns
  have hfresh : ∀ p ∈ turns.zip (run turns {}).result, p.1.Asks Registry.Fresh := by
    have hturns : ∀ t ∈ turns, t.Asks Registry.Fresh := by
      simp only [turns, subscribe, List.forall_mem_cons, List.not_mem_nil, false_implies, implies_true, and_true]
      simp [Turn.Asks, Registry.Fresh, registry]
    exact fun p hp => hturns p.1 (List.of_mem_zip hp).1
  obtain ⟨-, -, -, hdomain, hunshared, htogether⟩ := bulk_ends_exactly hreached failure
  have hscopes : ScopeByScope oneByOne s := by
    have hnames : s.scopeNames = ["eip155:1", "eip155:10"] := by decide +kernel
    constructor
    case call_eq => simp [oneByOne]
    case exists_turn => simp [hnames, oneByOne]
  have hkept := (hdomain "a.com").link?_eq "eip155:1" "b.com" rfl
  refine ⟨hreached, hunshared hfresh, by decide +kernel, ?_, by decide +kernel, by decide +kernel, by decide +kernel,
    hscopes, (htogether oneByOne (.inl hscopes)).1⟩
  rw [hkept]
  decide +kernel

end Subscriptions
end WalletSession
