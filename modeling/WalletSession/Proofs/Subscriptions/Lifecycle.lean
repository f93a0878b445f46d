import WalletSession.Proofs.Subscriptions.Ownership
import WalletSession.Proofs.Subscriptions.Tally

set_option autoImplicit false

/-! # The life of a feed

A feed is made by the call that first subscribes someone to a scope, and destroyed by the call that ends the last
subscription to that scope, even if destroying it fails. So at every point of a run a feed that was made is
either held for one scope or was destroyed, once, and no two feeds that are held serve the same chain
(`Subscriptions.run_partitions_feeds`). -/

namespace WalletSession
namespace Subscriptions

/-! ## Feeds that are held and feeds that are destroyed -/

/-- A feed is held for a scope that has this number. -/
def Serves (s : Subscriptions) (feed : Nat) (n : ChainNumber) : Prop :=
  ∃ scope, s.Holds scope feed ∧ (ScopeName.parse scope).eip155? = some n

/-- The feeds made are those that are held for a scope and those that were destroyed. -/
structure Partitioned (log : List RegistryCall) (s : Subscriptions) : Prop where
  made_once : ∀ feed, (history log).count (.made feed) ≤ 1
  held_or_destroyed : ∀ feed, .made feed ∈ history log →
    (∃! scope, s.Holds scope feed) ∧ .destroyed feed ∉ history log ∨
    (∀ scope, ¬ s.Holds scope feed) ∧ (history log).count (.destroyed feed) = 1
  made_of_destroyed : ∀ feed, .destroyed feed ∈ history log → .made feed ∈ history log
  /-- The scopes that hold a feed are those with subscribers. -/
  holds_one_iff : ∀ scope, (∃! feed, s.Holds scope feed) ↔ scope ∈ s.scopeNames
  /-- A feed is held for the scope that it was made for, by the client of that scope's chain. -/
  made_of_held : ∀ scope feed, s.Holds scope feed → ∃ n client, (ScopeName.parse scope).eip155? = some n ∧
    [.find (Eip155.hex n), .get client, .create client feed] <:+: log
  serves_one : ∀ scope feed, s.Holds scope feed → ∃! n, s.Serves feed n
  served_by_one : ∀ n feed other, s.Serves feed n → s.Serves other n → feed = other

variable {s : Subscriptions} {log : List RegistryCall}

namespace Owned

theorem made_mem_iff (h : Owned log s) {feed : Nat} : .made feed ∈ history log ↔ feed < s.feeds.length := by
  rw [← List.count_pos_iff, h.count_made]
  split <;> simp [*]

theorem count_destroyed_le_one (h : Owned log s) (feed : Nat) : (history log).count (.destroyed feed) ≤ 1 := by
  by_cases hlt : feed < s.feeds.length
  · by_cases hheld : ∃ scope, s.Holds scope feed
    · obtain ⟨scope, hscope⟩ := hheld
      exact (h.count_destroyed_held hscope).le.trans (Nat.zero_le _)
    · exact (h.count_destroyed_free hlt (not_exists.1 hheld)).le
  · exact (h.count_destroyed_unmade (Nat.not_lt.1 hlt)).le.trans (Nat.zero_le _)

theorem partitioned (h : Owned log s) : Partitioned log s where
  made_once feed := by
    rw [h.count_made]
    split <;> omega
  held_or_destroyed feed hmade := by
    by_cases hheld : ∃ scope, s.Holds scope feed
    · obtain ⟨scope, hscope⟩ := hheld
      have hunique : ∃! scope, s.Holds scope feed :=
        ⟨scope, hscope, fun other hother => h.holder_eq hother hscope⟩
      exact .inl ⟨hunique, List.count_eq_zero.1 (h.count_destroyed_held hscope)⟩
    · exact .inr ⟨not_exists.1 hheld, h.count_destroyed_free (h.made_mem_iff.1 hmade) (not_exists.1 hheld)⟩
  made_of_destroyed feed hmem := by
    rw [h.made_mem_iff]
    by_contra hle
    exact List.count_eq_zero.1 (h.count_destroyed_unmade (Nat.not_lt.1 hle)) hmem
  holds_one_iff scope := by
    rw [scopeNames, KeyMap.mem_keys, ← exists_holds_iff]
    constructor
    · rintro ⟨feed, hheld, -⟩
      exact ⟨feed, hheld⟩
    · rintro ⟨feed, hheld⟩
      exact ⟨feed, hheld, fun _ hother => hother.unique hheld⟩
  made_of_held _ _ hheld := h.found hheld
  serves_one scope feed hheld := by
    obtain ⟨n, client, hn, -⟩ := h.found hheld
    refine ⟨n, ⟨scope, hheld, hn⟩, ?_⟩
    rintro m ⟨other, hother, hm⟩
    rw [h.holder_eq hother hheld, hn] at hm
    exact (Option.some.inj hm).symm
  served_by_one n feed other := by
    rintro ⟨scope, hheld, hn⟩ ⟨scope', hheld', hn'⟩
    -- A number is spelled in one way only, so both are held for the same scope.
    rw [ScopeName.eip155?_inj hn' hn] at hheld'
    exact hheld.unique hheld'

end Owned

/-! ## What a single call makes and destroys -/

/-- A call is the first to subscribe someone to a scope. -/
def Turn.Opens (t : Turn) (s : Subscriptions) (scope : String) : Prop :=
  (∃ registry domain, t.call = .subscribe registry scope domain) ∧ s.count scope = 0 ∧
    (t.perform s).result.succeeded = true

/-- A call makes a feed for the scope it opens, and destroys those of the scopes it leaves without subscribers. -/
structure Turn.Effects (t : Turn) (s : Subscriptions) : Prop where
  opens : ∀ scope, t.Opens s scope → ∃ feed, history (t.perform s).calls = [.made feed] ∧
    (t.perform s).state.Holds scope feed
  opens_none : (∀ scope, ¬ t.Opens s scope) → ∀ feed, .made feed ∉ history (t.perform s).calls
  ends : ∀ scope feed, s.Holds scope feed → (history (t.perform s).calls).count (.destroyed feed) =
    if (t.perform s).state.count scope = 0 then 1 else 0
  ends_none : ∀ feed, (∀ scope, ¬ s.Holds scope feed) → .destroyed feed ∉ history (t.perform s).calls

/-- Feeds are let go, but none is made or given to another scope. -/
structure LetsGo (s : Subscriptions) (calls : List RegistryCall) (s' : Subscriptions) : Prop where
  length_feeds : s'.feeds.length = s.feeds.length
  holds_of : ∀ {scope feed}, s'.Holds scope feed → s.Holds scope feed
  not_made : ∀ feed, .made feed ∉ history calls

variable {s' : Subscriptions} {calls : List RegistryCall} {t : Turn}

theorem LetsGo.of_withDedupe {dedupe : Bool} (h : LetsGo (s.withDedupe dedupe) calls s') : LetsGo s calls s' :=
  ⟨h.length_feeds, h.holds_of, h.not_made⟩

namespace Owned

theorem count_eq_zero_iff (h : Owned log s) {scope : String} :
    s.count scope = 0 ↔ ∀ feed, ¬ s.Holds scope feed := by
  rw [← not_exists, exists_holds_iff, ← h.wellCounted.count_pos_iff, Nat.not_lt, Nat.le_zero]

/-! ### Ending subscriptions -/

theorem letsGo_unsubscribe (h : Owned log s) (failure : Nat → Option String) (scope domain : String) :
    LetsGo s (s.unsubscribe failure scope domain).calls (s.unsubscribe failure scope domain).state := by
  rcases rests_or_ends_unsubscribe h.wellCounted (fun _ hheld => h.held_lt hheld) failure domain with hstep | hstep
  · exact ⟨hstep.length_feeds, (hstep.holds_iff _ _).1, by simp [hstep.history_eq]⟩
  · obtain ⟨client, feed, -, hcalls⟩ := hstep.calls_eq
    refine ⟨hstep.length_feeds, fun hheld => ((hstep.holds_iff _ _).1 hheld).2, ?_⟩
    rw [hcalls]
    simp [history, RegistryCall.event?]

theorem letsGo_unsubscribeEach (h : Owned log s) (failure : Nat → Option String)
    (targets : List (String × String)) :
    LetsGo s (unsubscribeEach failure targets s).calls (unsubscribeEach failure targets s).state := by
  induction targets generalizing log s with
  | nil => exact ⟨rfl, id, by simp [unsubscribeEach, history]⟩
  | cons target rest ih =>
    have hfirst := h.letsGo_unsubscribe failure target.1 target.2
    have hrest := ih (kept_owned.unsubscribe failure target.1 target.2 h)
    refine ⟨hrest.length_feeds.trans hfirst.length_feeds, fun hheld => hfirst.holds_of (hrest.holds_of hheld), ?_⟩
    intro feed hmem
    rw [unsubscribeEach, history_append, List.mem_append] at hmem
    exact hmem.elim (hfirst.not_made feed) (hrest.not_made feed)

/-- Of the feeds let go, those are destroyed whose scope has no subscribers any more. -/
theorem count_destroyed_of_letsGo (h : Owned log s) (h' : Owned (log ++ calls) s') (hgo : LetsGo s calls s')
    {scope : String} {feed : Nat} (hheld : s.Holds scope feed) :
    (history calls).count (.destroyed feed) = if s'.count scope = 0 then 1 else 0 := by
  -- It was not destroyed before, so that what is counted afterwards happened now.
  have hsum : (history (log ++ calls)).count (.destroyed feed) = (history calls).count (.destroyed feed) := by
    rw [history_append, List.count_append, h.count_destroyed_held hheld, Nat.zero_add]
  rw [← hsum]
  split
  · next hzero =>
    refine h'.count_destroyed_free (hgo.length_feeds ▸ h.held_lt hheld) fun other hother => ?_
    obtain rfl := h.holder_eq (hgo.holds_of hother) hheld
    exact h'.count_eq_zero_iff.1 hzero feed hother
  · next hpos =>
    obtain ⟨other, hother⟩ : ∃ other, s'.Holds scope other := by
      by_contra hnone
      exact hpos (h'.count_eq_zero_iff.2 (not_exists.1 hnone))
    obtain rfl := (hgo.holds_of hother).unique hheld
    exact h'.count_destroyed_held hother

theorem not_destroyed_of_letsGo (h : Owned log s) (h' : Owned (log ++ calls) s') (hgo : LetsGo s calls s')
    {feed : Nat} (hfree : ∀ scope, ¬ s.Holds scope feed) : .destroyed feed ∉ history calls := by
  rw [← List.count_eq_zero]
  have hsum : (history (log ++ calls)).count (.destroyed feed) =
      (history log).count (.destroyed feed) + (history calls).count (.destroyed feed) := by
    rw [history_append, List.count_append]
  by_cases hlt : feed < s.feeds.length
  · -- It was destroyed before, which happens only once.
    rw [h.count_destroyed_free hlt hfree] at hsum
    have hle := h'.count_destroyed_le_one feed
    omega
  · rw [h'.count_destroyed_unmade (hgo.length_feeds ▸ Nat.not_lt.1 hlt)] at hsum
    omega

theorem effects_of_letsGo (h : Owned log s) (h' : Owned (log ++ (t.perform s).calls) (t.perform s).state)
    (hgo : LetsGo s (t.perform s).calls (t.perform s).state) (hno : ∀ scope, ¬ t.Opens s scope) : t.Effects s where
  opens scope hopens := absurd hopens (hno scope)
  opens_none _ := hgo.not_made
  ends _ _ hheld := h.count_destroyed_of_letsGo h' hgo hheld
  ends_none _ hfree := h.not_destroyed_of_letsGo h' hgo hfree

/-! ### Subscribing -/

theorem opens_subscribe_iff (h : Owned log s) {dedupe : Bool} {registry : Registry} {scope domain other : String} :
    (Turn.mk dedupe (.subscribe registry scope domain)).Opens s other ↔ scope = other ∧
      s.scopes.get? scope = none ∧
      ((s.withDedupe dedupe).subscribe registry scope domain).result.toBool = true := by
  rw [Turn.Opens, h.count_eq_zero_iff, forall_not_holds_iff, Turn.perform, Call.perform,
    Outcome.succeeded_subscribed]
  constructor
  · rintro ⟨⟨registry', domain', hcall⟩, hnone, hok⟩
    cases hcall
    exact ⟨rfl, hnone, hok⟩
  · rintro ⟨rfl, hnone, hok⟩
    exact ⟨⟨registry, domain, rfl⟩, hnone, hok⟩

/-- Where every feed that was held still is and none is destroyed, no scope is left without subscribers. -/
theorem effects_of_keeps (h' : Owned (log ++ (t.perform s).calls) (t.perform s).state)
    (hkeeps : ∀ scope feed, s.Holds scope feed → (t.perform s).state.Holds scope feed)
    (hdestroyed : ∀ feed, .destroyed feed ∉ history (t.perform s).calls)
    (hopens : ∀ scope, t.Opens s scope → ∃ feed, history (t.perform s).calls = [.made feed] ∧
      (t.perform s).state.Holds scope feed)
    (hopens_none : (∀ scope, ¬ t.Opens s scope) → ∀ feed, .made feed ∉ history (t.perform s).calls) :
    t.Effects s where
  opens := hopens
  opens_none := hopens_none
  ends scope feed hheld := by
    have hpos : (t.perform s).state.count scope ≠ 0 := fun hzero =>
      h'.count_eq_zero_iff.1 hzero feed (hkeeps scope feed hheld)
    rw [if_neg hpos, List.count_eq_zero]
    exact hdestroyed feed
  ends_none feed _ := hdestroyed feed

theorem effects_subscribe (h : Owned log s) {dedupe : Bool} {registry : Registry} {scope domain : String}
    (hfresh : registry.Fresh) : (Turn.mk dedupe (.subscribe registry scope domain)).Effects s := by
  have h' : Owned (log ++ ((s.withDedupe dedupe).subscribe registry scope domain).calls) _ :=
    kept_owned.subscribe registry scope domain hfresh (kept_owned.dedupe dedupe h)
  by_cases hfirst : s.scopes.get? scope = none ∧
      ((s.withDedupe dedupe).subscribe registry scope domain).result.toBool = true
  · have hstep : Activates scope (s.withDedupe dedupe) _ _ := activates_subscribe hfresh hfirst.1 hfirst.2
    have hhistory : history ((s.withDedupe dedupe).subscribe registry scope domain).calls =
        [.made s.feeds.length] := by
      obtain ⟨n, client, -, hcalls⟩ := hstep.calls_eq
      rw [hcalls]
      rfl
    refine effects_of_keeps h' (fun _ _ hheld => (hstep.holds_iff _ _).2 (.inr hheld)) ?_ ?_ ?_
    · intro feed hmem
      rw [Turn.perform, Call.perform, hhistory] at hmem
      simp at hmem
    · intro other hother
      obtain ⟨rfl, -⟩ := h.opens_subscribe_iff.1 hother
      exact ⟨s.feeds.length, hhistory, (hstep.holds_iff _ _).2 (.inl ⟨rfl, rfl⟩)⟩
    · intro hno
      exact absurd (h.opens_subscribe_iff.2 ⟨rfl, hfirst⟩) (hno scope)
  · have hstep : Rests (s.withDedupe dedupe) _ _ := rests_subscribe fun hnone => by
      rw [← Bool.not_eq_true]
      exact fun hok => hfirst ⟨hnone, hok⟩
    have hnothing (event : FeedEvent) :
        event ∉ history ((s.withDedupe dedupe).subscribe registry scope domain).calls := by
      simp [hstep.history_eq]
    refine effects_of_keeps h' (fun _ _ hheld => (hstep.holds_iff _ _).2 hheld) (fun _ => hnothing _) ?_
      fun _ _ => hnothing _
    intro other hother
    exact absurd (h.opens_subscribe_iff.1 hother).2 hfirst

/-! ### Any call -/

theorem effects (h : Owned log s) (ht : t.Asks Registry.Fresh) : t.Effects s := by
  have h' := kept_owned.perform ht h
  have hdedupe : Owned log (s.withDedupe t.dedupe) := kept_owned.dedupe t.dedupe h
  rcases t.single_or_each s with hsingle | ⟨hbulk, failure, targets, hstate, hcalls⟩
  · obtain ⟨dedupe, call⟩ := t
    cases call with
    | subscribe registry scope domain => exact h.effects_subscribe ht
    | unsubscribe failure scope domain =>
      have hgo := (hdedupe.letsGo_unsubscribe failure scope domain).of_withDedupe
      refine h.effects_of_letsGo h' hgo ?_
      rintro other ⟨⟨registry, domain', hcall⟩, -⟩
      cases hcall
    | unsubscribeAll => cases hsingle
    | unsubscribeScope => cases hsingle
    | unsubscribeDomain => cases hsingle
  · have hgo := (hdedupe.letsGo_unsubscribeEach failure targets).of_withDedupe
    rw [← hstate, ← hcalls] at hgo
    refine h.effects_of_letsGo h' hgo ?_
    rintro scope ⟨⟨registry, domain, hcall⟩, -⟩
    rw [hcall] at hbulk
    cases hbulk

end Owned

/-! ## Runs -/

/-- **At every point of a run, the feeds made are those held and those destroyed once.** The next call makes and
destroys what `Turn.Effects` says, and a call in bulk is no more than single calls in a row, between which all this
is true as well. -/
theorem run_partitions_feeds (turns : List Turn) (hfresh : ∀ t ∈ turns, t.Asks Registry.Fresh) :
    Partitioned (run turns {}).calls (run turns {}).state ∧
    (∀ t : Turn, t.Asks Registry.Fresh → t.Effects (run turns {}).state) ∧
    ∃ singles : List Turn, (∀ t ∈ singles, t.call.isSingle = true ∧ t.Asks Registry.Fresh) ∧
      (run singles {}).calls = (run turns {}).calls ∧
      (run singles {}).state.scopes = (run turns {}).state.scopes := by
  have howned : Owned (run turns {}).calls (run turns {}).state := kept_owned.run hfresh Owned.empty
  refine ⟨howned.partitioned, fun t ht => howned.effects ht, ?_⟩
  obtain ⟨singles, hall, hcalls, hscopes⟩ := exists_singles turns {} true
  refine ⟨singles, fun t ht => ⟨(hall t ht).1, ?_⟩, hcalls, hscopes⟩
  rcases (hall t ht).2 with hmem | ⟨failure, scope, domain, hcall⟩
  · exact hfresh t hmem
  · rw [Turn.Asks, hcall]
    trivial

/-- A scope that is left by everyone and subscribed to again has two feeds made for it, of which the first could
not be destroyed properly. -/
theorem reactivation_partitions_feeds :
    let registry : Registry :=
      ⟨fun chain => if chain = "0x1" then some "mainnet" else none, fun _ => true, fun _ => none⟩
    let turns : List Turn := [⟨true, .subscribe registry "eip155:1" "a.com"⟩,
      ⟨true, .unsubscribeAll fun _ => some "stopped already"⟩, ⟨false, .subscribe registry "eip155:1" "b.com"⟩]
    (∀ t ∈ turns, t.Asks Registry.Fresh) ∧
    (run turns {}).calls = [.find "0x1", .get "mainnet", .create "mainnet" 0, .destroy "mainnet" 0,
      .find "0x1", .get "mainnet", .create "mainnet" 1] ∧
    Partitioned (run turns {}).calls (run turns {}).state := by
  intro registry turns
  have hfresh : ∀ t ∈ turns, t.Asks Registry.Fresh := by
    simp only [turns, List.forall_mem_cons, List.not_mem_nil, false_implies, implies_true, and_true]
    exact ⟨fun _ => rfl, trivial, fun _ => rfl⟩
  exact ⟨hfresh, by decide +kernel, (run_partitions_feeds turns hfresh).1⟩

end Subscriptions
end WalletSession
