import WalletSession.Proofs.Subscriptions.Listeners
import WalletSession.Proofs.Subscriptions.Tally

set_option autoImplicit false

/-! # Who is subscribed, in order

A roster lists the domains with outstanding subscriptions to every scope, in the order in which these were made
and as often. It is the tally in more detail, and the listeners on the feeds are in the order of the roster
(`Subscriptions.Owned.roster_perform`): a call in bulk ends subscriptions in the order of their domains, but what it
leaves is in the order that it was in. -/

namespace WalletSession
namespace Subscriptions

/-! ## Rosters -/

/-- The domains that are subscribed to every scope. -/
abbrev Roster := String → List String

/-- A roster without the last entry of a domain. -/
def withoutLatest (domain : String) (domains : List String) : List String :=
  (domains.reverse.erase domain).reverse

namespace Roster

/-- No one is subscribed. -/
def none : Roster := fun _ => []

/-- Other domains for one scope. -/
def set (c : Roster) (scope : String) (domains : List String) : Roster := Function.update c scope domains

theorem set_self (c : Roster) (scope : String) : c.set scope (c scope) = c := Function.update_eq_self _ _

theorem set_apply (c : Roster) (scope : String) (domains : List String) (other : String) :
    c.set scope domains other = if other = scope then domains else c other :=
  Function.update_apply _ _ _ _

/-- Without those that satisfy `p`. -/
def clear (c : Roster) (p : String → String → Bool) : Roster := fun scope => (c scope).filter fun d => !p scope d

/-- The roster after a call whose outcome is known: a subscription goes to the end, except where the domain is
subscribed already and not subscribed again, and it is the latest subscription of a domain that ends first. -/
def next (c : Roster) (t : Turn) (outcome : Outcome) : Roster :=
  match t.call with
  | .subscribe _ scope domain =>
    if !outcome.succeeded || t.dedupe && domain ∈ c scope then c else c.set scope (c scope ++ [domain])
  | .unsubscribe _ scope domain => c.set scope (withoutLatest domain (c scope))
  | .unsubscribeAll _ => c.clear fun _ _ => true
  | .unsubscribeScope _ scope => c.clear fun s _ => s == scope
  | .unsubscribeDomain _ domain => c.clear fun _ d => d == domain

end Roster

/-! ### Ending one subscription -/

variable {domain : String} {domains before after : List String}

theorem withoutLatest_sublist (domain : String) (domains : List String) :
    (withoutLatest domain domains).Sublist domains := by
  rw [← List.reverse_sublist, withoutLatest, List.reverse_reverse]
  exact List.erase_sublist

theorem withoutLatest_of_not_mem (h : domain ∉ domains) : withoutLatest domain domains = domains := by
  rw [withoutLatest, List.erase_of_not_mem (by simpa using h), List.reverse_reverse]

theorem withoutLatest_append_cons (h : domain ∉ after) :
    withoutLatest domain (before ++ domain :: after) = before ++ after := by
  rw [withoutLatest, List.reverse_append, List.reverse_cons, List.append_assoc,
    List.erase_append_right _ (by simpa using h), List.singleton_append, List.erase_cons_head,
    List.reverse_append, List.reverse_reverse, List.reverse_reverse]

/-- What is left of a list is known by the numbers of what is left. -/
theorem eq_filter_of_count {left : List String} {p : String → Bool} (h : left.Sublist domains)
    (hcount : ∀ d, left.count d = if p d then domains.count d else 0) : left = domains.filter p := by
  have hall : left.filter p = left := by
    rw [List.filter_eq_self]
    intro d hd
    by_contra hp
    have hzero := hcount d
    rw [if_neg hp] at hzero
    exact List.count_eq_zero.1 hzero hd
  have hperm : left.Perm (domains.filter p) := by
    rw [List.perm_iff_count]
    intro d
    rw [hcount]
    split
    · next hp => exact (List.count_filter hp).symm
    · next hp => exact (List.count_eq_zero.2 fun hmem => hp (List.mem_filter.1 hmem).2).symm
  rw [← hall] at hperm ⊢
  exact (h.filter p).eq_of_length hperm.length_eq

/-- With `dedupe` no domain is listed twice. -/
theorem Roster.nodup_next {c : Roster} (hc : ∀ scope, (c scope).Nodup) {t : Turn} (ht : t.dedupe = true)
    (outcome : Outcome) (scope : String) : (c.next t outcome scope).Nodup := by
  obtain ⟨dedupe, call⟩ := t
  obtain rfl : dedupe = true := ht
  cases call with
  | subscribe registry other domain =>
    simp only [next, Bool.true_and]
    split
    · exact hc scope
    · next hnew =>
      rw [set_apply]
      split
      · have hout : domain ∉ c other := by
          intro hin
          simp [hin] at hnew
        rw [← List.concat_eq_append]
        exact (hc other).concat hout
      · exact hc scope
  | unsubscribe failure other domain =>
    simp only [next]
    rw [set_apply]
    split
    · exact (hc other).sublist (withoutLatest_sublist _ _)
    · exact hc scope
  | unsubscribeAll => exact (hc scope).filter _
  | unsubscribeScope => exact (hc scope).filter _
  | unsubscribeDomain => exact (hc scope).filter _

/-! ## The roster that is kept -/

/-- The domains that the listeners on the feed of every scope forward to. -/
def roster (s : Subscriptions) : Roster := fun scope =>
  match s.scopes.get? scope with
  | some subs => (s.feedEvents subs.feed).domains
  | none => []

variable {s s' : Subscriptions} {scope : String} {log : List RegistryCall}

theorem roster_of_get? {subs : ScopeSubscriptions} (hsubs : s.scopes.get? scope = some subs) :
    s.roster scope = (s.feedEvents subs.feed).domains := by
  simp only [roster, hsubs]

theorem roster_of_none (hnone : s.scopes.get? scope = none) : s.roster scope = [] := by
  simp only [roster, hnone]

theorem Rewires.roster_eq {feed : Nat} {e : Emitter FeedListener Notification} (h : Rewires scope feed e s s') :
    s'.roster = s.roster.set scope e.domains := by
  funext other
  rw [Roster.set_apply]
  split
  · next hother =>
    subst hother
    rcases h.get?_self with ⟨subs, hsubs, rfl, -⟩ | ⟨hnone, hnil⟩
    · rw [roster_of_get? hsubs, h.feedEvents_eq, Function.update_self]
    · rw [roster_of_none hnone, Emitter.domains, hnil, List.map_nil]
  · next hother =>
    cases hsubs : s.scopes.get? other with
    | none => rw [roster_of_none hsubs, roster_of_none ((h.get?_other other hother).trans hsubs)]
    | some subs =>
      have hfeed : subs.feed ≠ feed := mt (h.only other subs.feed ⟨subs, hsubs, rfl⟩).2 hother
      rw [roster_of_get? hsubs, roster_of_get? ((h.get?_other other hother).trans hsubs), h.feedEvents_eq,
        Function.update_of_ne hfeed]

/-- The tally counts what the roster lists. -/
theorem Wired.count_roster (hw : s.Wired) (scope domain : String) :
    (s.roster scope).count domain = s.tally scope domain := by
  cases hsubs : s.scopes.get? scope with
  | none => rw [roster_of_none hsubs, tally_of_none hsubs, List.count_nil, Pi.zero_apply]
  | some subs => rw [roster_of_get? hsubs, tally_of_get? hsubs, (hw.listed hsubs).count_domains]

/-- It is the last listener of a domain that goes. -/
theorem Wired.domains_off (hw : s.Wired) {subs : ScopeSubscriptions} {rest : List ListenerId} {id : ListenerId}
    (hsubs : s.scopes.get? scope = some subs) (hids : subs.listeners.get? domain = some (rest ++ [id])) :
    ((s.feedEvents subs.feed).off id).domains = withoutLatest domain (s.roster scope) := by
  obtain ⟨before, after, hforwards, hafter, hoff⟩ := (hw.listed hsubs).exists_latest hids
  have hlast : domain ∉ after.map (·.2.domain) := by
    rw [List.mem_map]
    rintro ⟨f, hf, rfl⟩
    exact hafter f hf rfl
  rw [roster_of_get? hsubs, Emitter.domains, Emitter.domains, hoff, hforwards, List.map_append, List.map_append,
    List.map_cons, withoutLatest_append_cons hlast]

namespace Owned

theorem mem_roster_iff (h : Owned log s) (hw : s.Wired) :
    domain ∈ s.roster scope ↔ s.isSubscribed scope domain = true := by
  rw [h.wellCounted.isSubscribed_iff, ← hw.count_roster, List.count_pos_iff]

theorem length_roster (h : Owned log s) (hw : s.Wired) (scope : String) : (s.roster scope).length = s.count scope := by
  have hcount (domain : String) : s.tally scope domain = (s.roster scope).count domain := (hw.count_roster _ _).symm
  have hsupport : Function.support (fun domain => (s.roster scope).count domain) ⊆ (s.roster scope).toFinset := by
    intro domain hdomain
    rw [Finset.mem_coe, List.mem_toFinset]
    exact List.count_pos_iff.1 (Nat.pos_of_ne_zero hdomain)
  rw [h.wellCounted.count_eq_finsum]
  simp only [hcount]
  rw [finsum_eq_sum_of_support_subset _ hsupport, List.sum_toFinset_count_eq_length]

theorem holds_iff_roster_ne_nil (h : Owned log s) (hw : s.Wired) (scope : String) :
    (∃ feed, s.Holds scope feed) ↔ s.roster scope ≠ [] := by
  rw [exists_holds_iff, ← h.wellCounted.count_pos_iff, ← h.length_roster hw, List.length_pos_iff]

/-! ## Single steps -/

theorem roster_subscribe {registry : Registry} (h : Owned log s) (hw : s.Wired) (hfresh : registry.Fresh)
    (scope domain : String) :
    (s.subscribe registry scope domain).state.roster =
      if !(s.subscribe registry scope domain).result.toBool || s.dedupe && domain ∈ s.roster scope then s.roster
      else s.roster.set scope (s.roster scope ++ [domain]) := by
  have hmem : domain ∈ s.roster scope ↔ _ := h.mem_roster_iff hw
  have hstep := subscribing registry scope domain s
  generalize s.subscribe registry scope domain = change at hstep ⊢
  cases hstep with
  | @repeated subs hsubs hdedupe hheld =>
    have hin : domain ∈ s.roster scope := hmem.2 (by simp [isSubscribed, hsubs, hheld])
    simp [hdedupe, hin]
  | @added subs hsubs hnew =>
    have hout : s.dedupe = true → domain ∉ s.roster scope := by
      intro hdedupe
      rw [hmem]
      simp [isSubscribed, hsubs, hnew hdedupe]
    rw [if_neg (by simpa [Except.toBool] using hout), (h.rewires_addListener hw hsubs domain).roster_eq,
      roster_of_get? hsubs]
    simp [Emitter.domains]
  | refused => simp [Except.toBool]
  | @created client calls hnone hresolve =>
    have hnil := roster_of_none hnone
    have hfree := h.forwards_new hw
    rw [if_neg (by simp [Except.toBool, hnil]), (h.rewires_feedFor hw hfresh hnone client domain).roster_eq, hnil]
    simp [Emitter.domains, hfree]

theorem roster_unsubscribe (h : Owned log s) (hw : s.Wired) (failure : Nat → Option String)
    (scope domain : String) :
    (s.unsubscribe failure scope domain).state.roster = s.roster.set scope (withoutLatest domain (s.roster scope)) := by
  have hmem : domain ∈ s.roster scope ↔ _ := h.mem_roster_iff hw
  have hstep := unsubscribing h.wellCounted failure scope domain
  generalize s.unsubscribe failure scope domain = change at hstep ⊢
  cases hstep with
  | nothing hnone =>
    have hout : domain ∉ s.roster scope := by
      rw [hmem]
      unfold isSubscribed
      cases hsubs : s.scopes.get? scope with
      | none => simp
      | some subs => simp [KeyMap.contains, hnone subs hsubs]
    rw [withoutLatest_of_not_mem hout, Roster.set_self]
  | removed hsubs hids => rw [(h.rewires_removed hw hsubs hids).roster_eq, hw.domains_off hsubs hids]
  | @ended subs id hsubs hids hcount =>
    have hids' : subs.listeners.get? domain = some ([] ++ [id]) := hids
    rw [(h.rewires_ended hw hsubs hids hcount).roster_eq, hw.domains_off hsubs hids']

/-! ## Calls in bulk -/

theorem roster_unsubscribeEach_sublist (h : Owned log s) (hw : s.Wired) (failure : Nat → Option String)
    (targets : List (String × String)) (scope : String) :
    ((unsubscribeEach failure targets s).state.roster scope).Sublist (s.roster scope) := by
  induction targets generalizing log s with
  | nil => exact List.Sublist.refl _
  | cons target rest ih =>
    obtain ⟨h', hw'⟩ := kept_wired.unsubscribe failure target.1 target.2 ⟨h, hw⟩
    refine (ih h' hw').trans ?_
    rw [h.roster_unsubscribe hw, Roster.set_apply]
    split
    · next hscope =>
      subst hscope
      exact withoutLatest_sublist _ _
    · exact List.Sublist.refl _

theorem roster_unsubscribeMatching (h : Owned log s) (hw : s.Wired) (failure : Nat → Option String)
    (p : String → String → Bool) : (s.unsubscribeMatching failure p).state.roster = s.roster.clear p := by
  have hw' : (s.unsubscribeMatching failure p).state.Wired :=
    (kept_wired.unsubscribeEach failure (s.matching p) ⟨h, hw⟩).2
  funext scope
  refine eq_filter_of_count (h.roster_unsubscribeEach_sublist hw failure _ scope) fun domain => ?_
  rw [hw'.count_roster, hw.count_roster, h.wellCounted.tally_unsubscribeMatching, Tally.clear]
  cases p scope domain <;> rfl

/-! ## Any call -/

/-- **Every call changes the order of the listeners as it changes the roster.** -/
theorem roster_perform (h : Owned log s) (hw : s.Wired) {t : Turn} (ht : t.Asks Registry.Fresh) :
    (t.perform s).state.roster = s.roster.next t (t.perform s).result := by
  obtain ⟨dedupe, call⟩ := t
  obtain ⟨h, hw⟩ : Owned log (s.withDedupe dedupe) ∧ (s.withDedupe dedupe).Wired := kept_wired.dedupe dedupe ⟨h, hw⟩
  cases call with
  | subscribe registry scope domain =>
    have hstep := h.roster_subscribe hw ht scope domain
    rw [← Outcome.succeeded_subscribed] at hstep
    exact hstep
  | unsubscribe failure scope domain => exact h.roster_unsubscribe hw failure scope domain
  | unsubscribeAll failure => exact h.roster_unsubscribeMatching hw failure _
  | unsubscribeScope failure scope => exact h.roster_unsubscribeMatching hw failure _
  | unsubscribeDomain failure domain => exact h.roster_unsubscribeMatching hw failure _

end Owned
end Subscriptions
end WalletSession
