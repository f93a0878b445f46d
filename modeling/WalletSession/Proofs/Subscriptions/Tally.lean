import WalletSession.Proofs.Subscriptions.Run

set_option autoImplicit false

/-! # Subscriptions as counters

The subscriptions are kept as a stack of listeners for every domain and a count for every scope. Seen from the
outside they are one number for every scope and domain, a `Tally`: what can be asked of the subscriptions after
any run is what the tally of its calls says (`Subscriptions.run_observes_tally`). -/

namespace WalletSession
namespace Subscriptions

/-! ## Tallies -/

/-- How often every domain is subscribed to every scope. -/
abbrev Tally := String → String → Nat

namespace Tally

/-- Nobody is subscribed to anything. -/
def zero : Tally := fun _ _ => 0

/-- Another number for one scope and domain. -/
def set (c : Tally) (scope domain : String) (n : Nat) : Tally :=
  Function.update c scope (Function.update (c scope) domain n)

theorem set_self (c : Tally) (scope domain : String) : c.set scope domain (c scope domain) = c := by
  rw [set, Function.update_eq_self, Function.update_eq_self]

theorem set_apply (c : Tally) (scope domain : String) (n : Nat) (s d : String) :
    c.set scope domain n s d = if s = scope ∧ d = domain then n else c s d := by
  by_cases hs : s = scope
  · subst hs
    simp [set, Function.update_apply]
  · simp [set, hs]

/-- Nothing where `p` holds. -/
def clear (c : Tally) (p : String → String → Bool) : Tally := fun s d => if p s d then 0 else c s d

/-- The tally after a call whose outcome is known: one that subscribes counts when it succeeds, except where
a number that is positive already is left as it is. -/
def next (c : Tally) (t : Turn) (outcome : Outcome) : Tally :=
  match t.call with
  | .subscribe _ scope domain =>
    if !outcome.succeeded || t.dedupe && 0 < c scope domain then c
    else c.set scope domain (c scope domain + 1)
  | .unsubscribe _ scope domain => if 0 < c scope domain then c.set scope domain (c scope domain - 1) else c
  | .unsubscribeAll _ => c.clear fun _ _ => true
  | .unsubscribeScope _ scope => c.clear fun s _ => s == scope
  | .unsubscribeDomain _ domain => c.clear fun _ d => d == domain

/-- The tally after calls whose outcomes are known. -/
def after : Tally → List (Turn × Outcome) → Tally
  | c, [] => c
  | c, (t, outcome) :: rest => after (c.next t outcome) rest

end Tally

/-- What can be asked of the subscriptions is what a tally says. -/
structure Observes (s : Subscriptions) (c : Tally) : Prop where
  isSubscribed_iff : ∀ scope domain, s.isSubscribed scope domain = true ↔ 0 < c scope domain
  /-- Few domains are subscribed to a scope, so that their numbers have a sum. -/
  finite_domains : ∀ scope, (Function.support (c scope)).Finite
  count_eq : ∀ scope, s.count scope = ∑ᶠ domain, c scope domain
  scopeNames_ordered : s.scopeNames.Pairwise (· < ·)
  mem_scopeNames_iff : ∀ scope, scope ∈ s.scopeNames ↔ 0 < ∑ᶠ domain, c scope domain
  domains_ordered : ∀ scope, (s.domains scope).Pairwise (· < ·)
  mem_domains_iff : ∀ scope domain, domain ∈ s.domains scope ↔ 0 < c scope domain

/-! ## The tally that is kept -/

/-- The number of listeners of every domain on every scope. -/
def tally (s : Subscriptions) : Tally := fun scope domain =>
  ((s.scopes.get? scope).map fun subs => subs.held domain).getD 0

variable {s s' : Subscriptions} {scope domain : String}

theorem tally_of_get? {subs : ScopeSubscriptions} (hsubs : s.scopes.get? scope = some subs) :
    s.tally scope = subs.held := by
  funext domain
  simp [tally, hsubs]

theorem tally_of_none (hnone : s.scopes.get? scope = none) : s.tally scope = 0 := by
  funext domain
  simp [tally, hnone]

theorem tally_insert {subs : ScopeSubscriptions} (h : s'.scopes = s.scopes.insert scope subs) :
    s'.tally = Function.update s.tally scope subs.held := by
  funext other domain
  rw [tally, h, KeyMap.get?_insert]
  by_cases hscope : other = scope
  · simp [hscope]
  · simp [hscope, Ne.symm hscope, tally]

theorem tally_erase (h : s'.scopes = s.scopes.erase scope) : s'.tally = Function.update s.tally scope 0 := by
  funext other domain
  rw [tally, h, KeyMap.get?_erase]
  by_cases hscope : other = scope
  · simp [hscope]
  · simp [hscope, Ne.symm hscope, tally]

namespace WellCounted

theorem isSubscribed_iff (hs : s.WellCounted) : s.isSubscribed scope domain = true ↔ 0 < s.tally scope domain := by
  unfold isSubscribed
  cases hsubs : s.scopes.get? scope with
  | none => simp [tally_of_none hsubs]
  | some subs =>
    have hzero : subs.held domain = 0 ↔ _ := (hs scope subs hsubs).1.held_eq_zero_iff
    rw [tally_of_get? hsubs, Nat.pos_iff_ne_zero, ne_eq, hzero]
    simp [KeyMap.contains, Option.isSome_iff_ne_none]

theorem count_eq_finsum (hs : s.WellCounted) (scope : String) :
    s.count scope = ∑ᶠ domain, s.tally scope domain := by
  unfold count
  cases hsubs : s.scopes.get? scope with
  | none => simp [tally_of_none hsubs]
  | some subs =>
    rw [tally_of_get? hsubs]
    exact (hs scope subs hsubs).1.count_eq_finsum

theorem count_pos_iff (hs : s.WellCounted) : 0 < s.count scope ↔ s.scopes.contains scope = true := by
  unfold count KeyMap.contains
  cases hsubs : s.scopes.get? scope with
  | none => simp
  | some subs => simp [(hs scope subs hsubs).2]

theorem finite_domains (scope : String) : (Function.support (s.tally scope)).Finite := by
  cases hsubs : s.scopes.get? scope with
  | none => simp [tally_of_none hsubs]
  | some subs =>
    rw [tally_of_get? hsubs]
    exact KeyMap.finite_support List.length subs.listeners

theorem observes_tally (hs : s.WellCounted) : s.Observes s.tally where
  isSubscribed_iff _ _ := hs.isSubscribed_iff
  finite_domains := finite_domains
  count_eq := hs.count_eq_finsum
  scopeNames_ordered := s.scopes.pairwise_keys
  mem_scopeNames_iff scope := by
    rw [← hs.count_eq_finsum, hs.count_pos_iff, scopeNames, KeyMap.mem_keys]
  domains_ordered scope := by
    unfold domains
    cases s.scopes.get? scope with
    | none => exact List.Pairwise.nil
    | some subs => exact subs.listeners.pairwise_keys
  mem_domains_iff scope domain := by
    rw [← hs.isSubscribed_iff]
    unfold domains isSubscribed
    cases s.scopes.get? scope with
    | none => simp
    | some subs => simp [KeyMap.mem_keys]

/-! ## Single steps -/

theorem tally_subscribe (hs : s.WellCounted) (registry : Registry) (scope domain : String) :
    (s.subscribe registry scope domain).state.tally =
      if !(s.subscribe registry scope domain).result.toBool || s.dedupe && 0 < s.tally scope domain then s.tally
      else s.tally.set scope domain (s.tally scope domain + 1) := by
  have hstep := subscribing registry scope domain s
  generalize s.subscribe registry scope domain = change at hstep ⊢
  cases hstep with
  | @repeated subs hsubs hdedupe hheld =>
    have hpos : 0 < s.tally scope domain := by
      rw [← hs.isSubscribed_iff]
      simp [isSubscribed, hsubs, hheld]
    simp [hdedupe, hpos]
  | @added subs hsubs hnew =>
    have hzero : s.dedupe = true → s.tally scope domain = 0 := by
      intro hdedupe
      rw [tally_of_get? hsubs, (hs scope subs hsubs).1.held_eq_zero_iff]
      simpa [KeyMap.contains] using hnew hdedupe
    obtain ⟨id, h⟩ := scopes_addListener s scope domain subs
    rw [if_neg (by simpa [Except.toBool] using hzero), tally_insert h, Tally.set, tally_of_get? hsubs,
      ScopeSubscriptions.held_withListener]
  | refused => simp [Except.toBool]
  | @created client calls hnone hresolve =>
    have hzero := tally_of_none hnone
    obtain ⟨id, h⟩ := scopes_addListener_feedFor registry client scope domain s
    rw [if_neg (by simp [Except.toBool, hzero]), tally_insert h, Tally.set, hzero,
      ScopeSubscriptions.held_withListener, ScopeSubscriptions.held_empty]

theorem tally_unsubscribe (hs : s.WellCounted) (failure : Nat → Option String) (scope domain : String) :
    (s.unsubscribe failure scope domain).state.tally = s.tally.set scope domain (s.tally scope domain - 1) := by
  have hstep := unsubscribing hs failure scope domain
  generalize s.unsubscribe failure scope domain = change at hstep ⊢
  cases hstep with
  | nothing hnone =>
    have hzero : s.tally scope domain = 0 := by
      cases hsubs : s.scopes.get? scope with
      | none => rw [tally_of_none hsubs, Pi.zero_apply]
      | some subs =>
        rw [tally_of_get? hsubs, (hs scope subs hsubs).1.held_eq_zero_iff]
        exact hnone subs hsubs
    rw [hzero, Nat.zero_sub, ← hzero, Tally.set_self]
  | @removed subs rest id hsubs hids hcount =>
    rw [tally_insert rfl, Tally.set, tally_of_get? hsubs, ScopeSubscriptions.held_withRest hids]
  | @ended subs id hsubs hids hcount =>
    have hids' : subs.listeners.get? domain = some ([] ++ [id]) := hids
    have hleft := (hs scope subs hsubs).1.held_withRest_nil hids hcount
    rw [ScopeSubscriptions.held_withRest hids'] at hleft
    have herase : (endScope failure scope (s.updateFeed subs.feed (·.off id)) subs.feed).state.scopes =
        s.scopes.erase scope := rfl
    rw [tally_erase herase, Tally.set, tally_of_get? hsubs, hleft]

/-! ## Calls in bulk -/

theorem tally_unsubscribeEach (hs : s.WellCounted) (failure : Nat → Option String)
    (targets : List (String × String)) (scope domain : String) :
    (Subscriptions.unsubscribeEach failure targets s).state.tally scope domain =
      s.tally scope domain - targets.count (scope, domain) := by
  induction targets generalizing s with
  | nil => rfl
  | cons target rest ih =>
    have hfirst := hs.tally_unsubscribe failure target.1 target.2
    have hrest := ih (hs.unsubscribe failure target.1 target.2)
    rw [hfirst] at hrest
    rw [Subscriptions.unsubscribeEach, hrest, Tally.set_apply]
    by_cases htarget : (scope, domain) = target
    · subst htarget
      rw [if_pos ⟨rfl, rfl⟩, List.count_cons_self, Nat.sub_sub, Nat.add_comm]
    · rw [List.count_cons_of_ne (Ne.symm htarget), if_neg fun h => htarget (Prod.ext h.1 h.2)]

/-- Every subscription that satisfies `p` is among those to be ended, as often as it was made. -/
theorem count_matching (s : Subscriptions) (p : String → String → Bool) (scope domain : String) :
    (s.matching p).count (scope, domain) = if p scope domain then s.tally scope domain else 0 := by
  have hlisteners (subs : ScopeSubscriptions) :
      (subs.listeners.toList.flatMap fun d => List.replicate d.2.length (scope, d.1)).count (scope, domain) =
        subs.held domain := by
    rw [KeyMap.count_flatMap_of_key _ domain fun e _ hne hmem => ?_]
    · simp [ScopeSubscriptions.held, List.count_replicate_self]
    · exact hne (Prod.ext_iff.1 (List.eq_of_mem_replicate hmem)).2.symm
  rw [matching, KeyMap.count_flatMap_of_key _ scope fun e _ hne hmem => ?_]
  · by_cases hp : p scope domain = true
    · simp [hp, List.count_filter, hlisteners, tally]
    · have hnone (l : List (String × String)) : (scope, domain) ∉ l.filter fun t => p t.1 t.2 :=
        fun hmem => hp (List.mem_filter.1 hmem).2
      simp only [List.count_eq_zero_of_not_mem (hnone _), hp, Bool.false_eq_true, if_false]
      cases s.scopes.get? scope <;> rfl
  · obtain ⟨d, -, hd⟩ := List.mem_flatMap.1 (List.mem_filter.1 hmem).1
    exact hne (Prod.ext_iff.1 (List.eq_of_mem_replicate hd)).1.symm

theorem tally_unsubscribeMatching (hs : s.WellCounted) (failure : Nat → Option String)
    (p : String → String → Bool) : (s.unsubscribeMatching failure p).state.tally = s.tally.clear p := by
  funext scope domain
  rw [unsubscribeMatching, hs.tally_unsubscribeEach, count_matching, Tally.clear]
  split
  · exact Nat.sub_self _
  · exact Nat.sub_zero _

end WellCounted

/-! ## Turns and runs -/

theorem WellCounted.tally_perform (hs : s.WellCounted) (t : Turn) :
    (t.perform s).state.tally = s.tally.next t (t.perform s).result := by
  obtain ⟨dedupe, call⟩ := t
  have hs : (s.withDedupe dedupe).WellCounted := hs
  cases call with
  | subscribe registry scope domain =>
    have hstep := hs.tally_subscribe registry scope domain
    rw [← Outcome.succeeded_subscribed] at hstep
    exact hstep
  | unsubscribe failure scope domain =>
    have hstep := hs.tally_unsubscribe failure scope domain
    simp only [Tally.next]
    split
    · exact hstep
    · next hzero =>
      have hself : s.tally scope domain - 1 = s.tally scope domain := by omega
      exact hstep.trans ((congrArg _ hself).trans (Tally.set_self _ _ _))
  | unsubscribeAll failure => exact hs.tally_unsubscribeMatching failure _
  | unsubscribeScope failure scope => exact hs.tally_unsubscribeMatching failure _
  | unsubscribeDomain failure domain => exact hs.tally_unsubscribeMatching failure _

theorem WellCounted.tally_run (hs : s.WellCounted) (turns : List Turn) :
    (run turns s).state.tally = s.tally.after (turns.zip (run turns s).result) := by
  induction turns generalizing s with
  | nil => rfl
  | cons t rest ih =>
    have hrest := ih (hs.perform t)
    rw [hs.tally_perform t] at hrest
    exact hrest

/-- The tally of a run, from nothing and by what every call answered. -/
def runTally (turns : List Turn) : Tally := Tally.zero.after (turns.zip (run turns {}).result)

/-- A domain can be subscribed where there are subscribers, and where there is a client. -/
theorem subscribe_succeeds_iff (registry : Registry) (scope domain : String) (s : Subscriptions) :
    (s.subscribe registry scope domain).result.toBool = true ↔
      s.scopes.contains scope = true ∨ ∃ client, (registry.resolve scope).1 = .ok client := by
  have hstep := subscribing registry scope domain s
  generalize s.subscribe registry scope domain = change at hstep ⊢
  cases hstep with
  | repeated hsubs => simp [Except.toBool, KeyMap.contains, hsubs]
  | added hsubs => simp [Except.toBool, KeyMap.contains, hsubs]
  | refused hnone hresolve => simp [Except.toBool, KeyMap.contains, hnone, hresolve]
  | created hnone hresolve => simp [Except.toBool, hresolve]

/-- **What can be asked of the subscriptions after a run is what its tally says.** One more call subscribes
a domain exactly where the scope has subscribers already or the registry has a client for it. -/
theorem run_observes_tally (turns : List Turn) :
    (run turns {}).result.length = turns.length ∧
    (run turns {}).state.Observes (runTally turns) ∧
    ∀ (dedupe : Bool) (registry : Registry) (scope domain : String),
      (Turn.perform ⟨dedupe, .subscribe registry scope domain⟩ (run turns {}).state).result.succeeded = true ↔
        0 < ∑ᶠ d, runTally turns scope d ∨ ∃ client, (registry.resolve scope).1 = .ok client := by
  have hs := wellCounted_run turns
  have htally : (run turns {}).state.tally = runTally turns := wellCounted_empty.tally_run turns
  refine ⟨length_result_run turns {}, htally ▸ hs.observes_tally, fun dedupe registry scope domain => ?_⟩
  rw [← htally, ← hs.count_eq_finsum, hs.count_pos_iff, Turn.perform, Call.perform, Outcome.succeeded_subscribed]
  exact subscribe_succeeds_iff registry scope domain _

/-- Without `dedupe` a domain counts as often as it was subscribed, with it once more only from zero. -/
example :
    let registry : Registry := ⟨fun _ => some "mainnet", fun _ => true, fun _ => none⟩
    let subscribe (dedupe : Bool) : Turn := ⟨dedupe, .subscribe registry "eip155:1" "a.com"⟩
    let unsubscribe : Turn := ⟨true, .unsubscribe (fun _ => none) "eip155:1" "a.com"⟩
    runTally [subscribe true, subscribe true, subscribe false, unsubscribe, subscribe false] "eip155:1" "a.com" =
      2 := by
  decide +kernel

end Subscriptions
end WalletSession
