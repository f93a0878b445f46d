import WalletSession.Proofs.Subscriptions.Roster

set_option autoImplicit false

/-! # Notifications reach the current subscribers

What a feed announces comes out of the subscriptions' own emitter as one message for each listener that forwards
(`Subscriptions.emits_forwards`). These are in the order of the roster, so that at every point a feed sends one
message for every outstanding subscription to its scope, in the order in which they were made, and a feed that was
destroyed sends none (`Subscriptions.reached_routes`). -/

namespace WalletSession
namespace Subscriptions

variable {s s' : Subscriptions} {log : List RegistryCall}

/-! ## What an announcement sends -/

section Announcing

variable {σ : Type}

/-- Emit a message to those who listen; `call` says what each of them does to whatever else there is. -/
def emitTo (call : String → DomainNotification → σ → σ) (heard : Emitter String DomainNotification × σ)
    (message : DomainNotification) : Emitter String DomainNotification × σ :=
  Emitter.emit (fun l m (e, rest) => (e, call l m rest)) message heard

/-- An announcement does what emitting these messages one after the other does, whoever listens to them. -/
def Emits (s : Subscriptions) (feed : Nat) (n : Notification) (messages : List DomainNotification) : Prop :=
  ∀ (σ : Type) (call : String → DomainNotification → σ → σ) (listening : Emitter String DomainNotification) (x : σ),
    let after := announce call feed n ({ s with messages := listening }, x)
    (after.1.messages, after.2) = messages.foldl (emitTo call) (listening, x)

variable (call : String → DomainNotification → σ → σ) (n : Notification)

theorem foldl_send (messages : List DomainNotification) (s : Subscriptions) (x : σ) :
    messages.foldl (send call) (s, x) =
      ({ s with messages := (messages.foldl (emitTo call) (s.messages, x)).1 },
        (messages.foldl (emitTo call) (s.messages, x)).2) := by
  induction messages generalizing s x with
  | nil => rfl
  | cons message rest ih =>
    rw [List.foldl_cons, List.foldl_cons]
    exact ih _ _

/-- Only the listeners that forward do anything. -/
theorem foldl_hear (e : Emitter FeedListener Notification) (st : Subscriptions × σ) :
    e.listeners.foldl (fun st l => hear call n st l.2) st =
      (e.forwards.map fun f => f.2.message n).foldl (send call) st := by
  rw [List.foldl_map, Emitter.forwards, List.foldl_filterMap]
  congr 1
  funext st l
  obtain ⟨id, listener⟩ := l
  cases listener <;> rfl

/-- The emitter of the feed is not touched by those who hear from it. -/
theorem foldl_hear_beside (e : Emitter FeedListener Notification) (listeners : List (ListenerId × FeedListener))
    (st : Subscriptions × σ) :
    listeners.foldl (fun acc l => (acc.1, hear call n acc.2 l.2)) (e, st) =
      (e, listeners.foldl (fun st l => hear call n st l.2) st) := by
  induction listeners generalizing st with
  | nil => rfl
  | cons l rest ih => exact ih _

theorem announce_eq (feed : Nat) (s : Subscriptions) (x : σ) :
    announce call feed n (s, x) =
      let messages := (s.feedEvents feed).forwards.map fun f => f.2.message n
      let heard := messages.foldl (emitTo call) (s.messages, x)
      (({ s with messages := heard.1 } : Subscriptions).updateFeed feed fun _ => (s.feedEvents feed).deliver n,
        heard.2) := by
  -- The listeners are called with the emitter of the feed beside them.
  have hcalled : announce call feed n (s, x) =
      let called := (s.feedEvents feed).listeners.foldl (fun acc l => (acc.1, hear call n acc.2 l.2))
        (s.feedEvents feed, (s, x))
      (called.2.1.updateFeed feed fun _ => called.1.deliver n, called.2.2) := rfl
  rw [hcalled, foldl_hear_beside, foldl_hear, foldl_send]

end Announcing

variable {scope domain : String} {feed : Nat} {n : Notification}

/-- **A feed sends one message for each listener that forwards from it.** -/
theorem emits_forwards (s : Subscriptions) (feed : Nat) (n : Notification) :
    s.Emits feed n ((s.feedEvents feed).forwards.map fun f => f.2.message n) := by
  intro σ call listening x
  simp only [announce_eq]
  rfl

/-- What a listener does that notes down the messages it hears. -/
def note (_ : String) (message : DomainNotification) (noted : List DomainNotification) : List DomainNotification :=
  noted ++ [message]

theorem foldl_emitTo_note (messages : List DomainNotification) {listening : Emitter String DomainNotification}
    (hone : listening.listeners = [(⟨0⟩, "")]) (noted : List DomainNotification) :
    (messages.foldl (emitTo note) (listening, noted)).2 = noted ++ messages := by
  induction messages generalizing listening noted with
  | nil => exact (List.append_nil _).symm
  | cons message rest ih =>
    have hfirst : emitTo note (listening, noted) message = (listening.deliver message, noted ++ [message]) := by
      simp only [emitTo, Emitter.emit, hone]
      rfl
    have hone' : (listening.deliver message).listeners = [(⟨0⟩, "")] := hone
    rw [List.foldl_cons, hfirst, ih hone', List.append_assoc]
    rfl

/-- There is only one list of messages that an announcement sends: the one that is noted down. -/
theorem Emits.unique {messages others : List DomainNotification} (h : s.Emits feed n messages)
    (hothers : s.Emits feed n others) : messages = others := by
  have hsame := (h _ note { listeners := [(⟨0⟩, "")] } []).symm.trans
    (hothers _ note { listeners := [(⟨0⟩, "")] } [])
  have hnoted := congrArg Prod.snd hsame
  rwa [foldl_emitTo_note messages rfl, foldl_emitTo_note others rfl] at hnoted

theorem Emits.iff_eq {messages others : List DomainNotification} (h : s.Emits feed n messages) :
    s.Emits feed n others ↔ others = messages := by
  constructor
  · exact fun hothers => hothers.unique h
  · rintro rfl
    exact h

theorem Wired.emits_of_holds (hw : s.Wired) (hheld : s.Holds scope feed) (n : Notification) :
    s.Emits feed n ((s.roster scope).map fun domain => ⟨domain, ⟨"wallet_notify", ⟨scope, n⟩⟩⟩) := by
  obtain ⟨subs, hsubs, rfl⟩ := hheld
  have hmessages : ((s.roster scope).map fun domain => DomainNotification.mk domain ⟨"wallet_notify", ⟨scope, n⟩⟩) =
      (s.feedEvents subs.feed).forwards.map fun f => f.2.message n := by
    rw [roster_of_get? hsubs, Emitter.domains, List.map_map]
    refine List.map_congr_left fun f hf => ?_
    rw [← (hw.listed hsubs).scope_eq f hf]
    rfl
  rw [hmessages]
  exact s.emits_forwards subs.feed n

theorem Wired.emits_of_free (hw : s.Wired) (hfree : ∀ scope, ¬ s.Holds scope feed) (n : Notification) :
    s.Emits feed n [] := by
  have hmessages := s.emits_forwards feed n
  rwa [hw.free hfree] at hmessages

/-! ## What may happen -/

/-- The states that are reached, with the calls made and their outcomes, and what was asked of the registries. Feeds
may announce something in between, and others may listen to the messages or on the feeds. -/
inductive Reached : List (Turn × Outcome) → List RegistryCall → Subscriptions → Prop where
  | start : Reached [] [] {}
  | call {past : List (Turn × Outcome)} {log : List RegistryCall} {s : Subscriptions} (h : Reached past log s)
      (t : Turn) : Reached (past ++ [(t, (t.perform s).result)]) (log ++ (t.perform s).calls) (t.perform s).state
  | announced {past : List (Turn × Outcome)} {log : List RegistryCall} {s : Subscriptions} {σ : Type}
      (h : Reached past log s) (call : String → DomainNotification → σ → σ) (feed : Nat) (n : Notification) (x : σ) :
      Reached past log (announce call feed n (s, x)).1
  | listening {past : List (Turn × Outcome)} {log : List RegistryCall} {s : Subscriptions} (h : Reached past log s)
      (messages : Emitter String DomainNotification) : Reached past log { s with messages }
  | watched {past : List (Turn × Outcome)} {log : List RegistryCall} {s : Subscriptions} (h : Reached past log s)
      (feed : Nat) (name : String) : Reached past log (s.updateFeed feed fun e => (e.on (.other name)).1)

/-- The roster after calls whose outcomes are known, from no one. -/
def outstanding (past : List (Turn × Outcome)) : Roster := past.foldl (fun c p => c.next p.1 p.2) Roster.none

theorem outstanding_concat (past : List (Turn × Outcome)) (p : Turn × Outcome) :
    outstanding (past ++ [p]) = (outstanding past).next p.1 p.2 := by
  rw [outstanding, List.foldl_append, List.foldl_cons, List.foldl_nil, outstanding]

theorem nodup_outstanding {past : List (Turn × Outcome)} (hdedupe : ∀ p ∈ past, p.1.dedupe = true) :
    ∀ scope, (outstanding past scope).Nodup := by
  induction past using List.reverseRecOn with
  | nil => exact fun _ => List.nodup_nil
  | append_singleton past p ih =>
    rw [List.forall_mem_append, List.forall_mem_singleton] at hdedupe
    rw [outstanding_concat]
    exact Roster.nodup_next (ih hdedupe.1) hdedupe.2 p.2

/-- Nothing changes that subscriptions depend on. -/
structure Undisturbed (s s' : Subscriptions) : Prop where
  scopes_eq : s'.scopes = s.scopes
  length_feeds : s'.feeds.length = s.feeds.length
  forwards_eq : ∀ feed, (s'.feedEvents feed).forwards = (s.feedEvents feed).forwards
  nextListener_le : ∀ feed, (s.feedEvents feed).nextListener ≤ (s'.feedEvents feed).nextListener

namespace Undisturbed

theorem holds_iff (h : Undisturbed s s') (scope : String) (feed : Nat) : s'.Holds scope feed ↔ s.Holds scope feed := by
  rw [Holds, h.scopes_eq, Holds]

theorem wellCounted (h : Undisturbed s s') (hs : s.WellCounted) : s'.WellCounted := by
  rw [WellCounted, h.scopes_eq]
  exact hs

theorem owned (h : Undisturbed s s') (howned : Owned log s) : Owned log s' := by
  have hrests : Rests s [] s' := ⟨h.length_feeds, h.holds_iff, rfl⟩
  simpa using howned.rests (h.wellCounted howned.wellCounted) hrests

theorem wired (h : Undisturbed s s') (hw : s.Wired) : s'.Wired where
  listed := by
    intro scope subs hsubs
    rw [h.scopes_eq] at hsubs
    have hlisted := hw.listed hsubs
    constructor
    case nodup_ids => exact h.forwards_eq subs.feed ▸ hlisted.nodup_ids
    case id_lt =>
      intro f hf
      rw [h.forwards_eq] at hf
      exact Nat.lt_of_lt_of_le (hlisted.id_lt f hf) (h.nextListener_le subs.feed)
    case scope_eq => exact h.forwards_eq subs.feed ▸ hlisted.scope_eq
    case ids_eq => exact h.forwards_eq subs.feed ▸ hlisted.ids_eq
  free := by
    intro feed hfree
    rw [h.forwards_eq]
    exact hw.free fun scope hheld => hfree scope ((h.holds_iff scope feed).2 hheld)

theorem roster_eq (h : Undisturbed s s') : s'.roster = s.roster := by
  funext scope
  simp only [roster, Emitter.domains, h.scopes_eq, h.forwards_eq]

theorem updateFeed {feed : Nat} {f : Emitter FeedListener Notification → Emitter FeedListener Notification}
    (hforwards : (f (s.feedEvents feed)).forwards = (s.feedEvents feed).forwards)
    (hnext : (s.feedEvents feed).nextListener ≤ (f (s.feedEvents feed)).nextListener) :
    Undisturbed s (s.updateFeed feed f) where
  scopes_eq := rfl
  length_feeds := length_feeds_updateFeed s feed f
  forwards_eq other := by
    rw [feedEvents_updateFeed]
    split
    · next h => exact h.1 ▸ hforwards
    · rfl
  nextListener_le other := by
    rw [feedEvents_updateFeed]
    split
    · next h => exact h.1 ▸ hnext
    · exact Nat.le_refl _

theorem listening (s : Subscriptions) (messages : Emitter String DomainNotification) :
    Undisturbed s { s with messages } :=
  ⟨rfl, rfl, fun _ => rfl, fun _ => Nat.le_refl _⟩

theorem announced {σ : Type} (call : String → DomainNotification → σ → σ) (feed : Nat) (n : Notification)
    (s : Subscriptions) (x : σ) : Undisturbed s (announce call feed n (s, x)).1 := by
  rw [announce_eq]
  have hupdate := @updateFeed s feed (fun _ => (s.feedEvents feed).deliver n) rfl (Nat.le_refl _)
  exact ⟨hupdate.scopes_eq, hupdate.length_feeds, hupdate.forwards_eq, hupdate.nextListener_le⟩

theorem watched (s : Subscriptions) (feed : Nat) (name : String) :
    Undisturbed s (s.updateFeed feed fun e => (e.on (.other name)).1) :=
  updateFeed (Emitter.forwards_on_other _ name) (Nat.le_succ _)

end Undisturbed

/-! ## At every point -/

namespace Reached

variable {past : List (Turn × Outcome)}

/-- Runs are made of calls only. -/
theorem run (h : Reached past log s) (turns : List Turn) :
    Reached (past ++ turns.zip (run turns s).result) (log ++ (Subscriptions.run turns s).calls)
      (Subscriptions.run turns s).state := by
  induction turns generalizing past log s with
  | nil => simpa [Subscriptions.run] using h
  | cons t rest ih =>
    have hrest := ih (h.call t)
    rwa [List.append_assoc, List.append_assoc] at hrest

theorem owned_wired_roster (h : Reached past log s) (hfresh : ∀ p ∈ past, p.1.Asks Registry.Fresh) :
    Owned log s ∧ s.Wired ∧ s.roster = outstanding past := by
  have undisturbed {past log} {s s' : Subscriptions} (hsame : Undisturbed s s')
      (h : Owned log s ∧ s.Wired ∧ s.roster = outstanding past) :
      Owned log s' ∧ s'.Wired ∧ s'.roster = outstanding past :=
    ⟨hsame.owned h.1, hsame.wired h.2.1, hsame.roster_eq.trans h.2.2⟩
  induction h with
  | start => exact ⟨Owned.empty, Wired.empty, rfl⟩
  | @call past log s h t ih =>
    rw [List.forall_mem_append, List.forall_mem_singleton] at hfresh
    obtain ⟨howned, hw, hroster⟩ := ih hfresh.1
    obtain ⟨howned', hw'⟩ := kept_wired.perform hfresh.2 ⟨howned, hw⟩
    refine ⟨howned', hw', ?_⟩
    rw [howned.roster_perform hw hfresh.2, hroster, outstanding_concat]
  | announced h call feed n x ih => exact undisturbed (.announced call feed n _ x) (ih hfresh)
  | listening h messages ih => exact undisturbed (.listening _ messages) (ih hfresh)
  | watched h feed name ih => exact undisturbed (.watched _ feed name) (ih hfresh)

end Reached

/-- What is announced goes to the domains of a roster, in its order, and to no one else. -/
structure Routes (log : List RegistryCall) (s : Subscriptions) (c : Roster) : Prop where
  /-- The feed of a scope sends one message for every outstanding subscription. -/
  emits_held : ∀ scope feed, s.Holds scope feed → ∀ n messages, s.Emits feed n messages ↔
    messages = (c scope).map fun domain => ⟨domain, ⟨"wallet_notify", ⟨scope, n⟩⟩⟩
  emits_destroyed : ∀ feed, .destroyed feed ∈ history log → ∀ n messages, s.Emits feed n messages ↔ messages = []
  /-- There is a feed for a scope as long as it has subscriptions. -/
  holds_iff : ∀ scope, (∃ feed, s.Holds scope feed) ↔ c scope ≠ []
  length_eq : ∀ scope, (c scope).length = s.count scope
  mem_iff : ∀ scope domain, domain ∈ c scope ↔ s.isSubscribed scope domain = true

theorem Owned.routes (h : Owned log s) (hw : s.Wired) : Routes log s s.roster where
  emits_held _ _ hheld n _ := (hw.emits_of_holds hheld n).iff_eq
  emits_destroyed feed hdestroyed n _ := by
    refine (hw.emits_of_free (fun scope hheld => ?_) n).iff_eq
    exact List.count_eq_zero.1 (h.count_destroyed_held hheld) hdestroyed
  holds_iff := h.holds_iff_roster_ne_nil hw
  length_eq := h.length_roster hw
  mem_iff _ _ := h.mem_roster_iff hw

/-- **At every point, what a feed announces goes to exactly the current subscribers of its scope**, once for every
outstanding subscription and in the order in which these were made; with `dedupe` that is once for every domain. -/
theorem reached_routes {past : List (Turn × Outcome)} (h : Reached past log s)
    (hfresh : ∀ p ∈ past, p.1.Asks Registry.Fresh) :
    Routes log s (outstanding past) ∧
    ((∀ p ∈ past, p.1.dedupe = true) → ∀ scope, (outstanding past scope).Nodup) := by
  obtain ⟨howned, hw, hroster⟩ := h.owned_wired_roster hfresh
  exact ⟨hroster ▸ howned.routes hw, nodup_outstanding⟩

/-- A scope is left by everyone and subscribed to again. Its first feed is out of use then, and from the second one
messages go out in order, twice to a domain that is subscribed twice. -/
theorem resubscribed_routes :
    let registry : Registry :=
      ⟨fun chain => if chain = "0x1" then some "mainnet" else none, fun _ => true, fun _ => none⟩
    let subscribe (domain : String) : Turn := ⟨false, .subscribe registry "eip155:1" domain⟩
    let turns : List Turn := [subscribe "a.com", ⟨true, .unsubscribeScope (fun _ => none) "eip155:1"⟩,
      subscribe "a.com", subscribe "b.com", subscribe "a.com", subscribe "b.com",
      ⟨true, .unsubscribe (fun _ => none) "eip155:1" "b.com"⟩]
    let s := (announce (fun _ _ (x : Unit) => x) 1 ⟨"eth_subscription", .null⟩ ((run turns {}).state, ())).1
    Reached (turns.zip (run turns {}).result) (run turns {}).calls s ∧
    (∀ p ∈ turns.zip (run turns {}).result, p.1.Asks Registry.Fresh) ∧
    .destroyed 0 ∈ history (run turns {}).calls ∧ s.Holds "eip155:1" 1 ∧
    ∀ n, s.Emits 0 n [] ∧
      s.Emits 1 n (["a.com", "b.com", "a.com"].map fun domain => ⟨domain, ⟨"wallet_notify", ⟨"eip155:1", n⟩⟩⟩) := by
  intro registry subscribe turns s
  have hreached : Reached (turns.zip (run turns {}).result) (run turns {}).calls s :=
    (Reached.start.run turns).announced _ _ _ _
  have hfresh : ∀ p ∈ turns.zip (run turns {}).result, p.1.Asks Registry.Fresh := by
    have hturns : ∀ t ∈ turns, t.Asks Registry.Fresh := by
      simp only [turns, subscribe, List.forall_mem_cons, List.not_mem_nil, false_implies, implies_true, and_true]
      simp [Turn.Asks, Registry.Fresh, registry]
    exact fun p hp => hturns p.1 (List.of_mem_zip hp).1
  have hroster : outstanding (turns.zip (run turns {}).result) "eip155:1" = ["a.com", "b.com", "a.com"] := by
    decide +kernel
  have hheld : s.Holds "eip155:1" 1 := by
    have hfeed : (s.scopes.get? "eip155:1").map (·.feed) = some 1 := by decide +kernel
    exact Option.map_eq_some_iff.1 hfeed
  have hdestroyed : .destroyed 0 ∈ history (run turns {}).calls := by decide +kernel
  have hroutes := (reached_routes hreached hfresh).1
  refine ⟨hreached, hfresh, hdestroyed, hheld, fun n => ⟨?_, ?_⟩⟩
  · exact (hroutes.emits_destroyed 0 hdestroyed n []).2 rfl
  · exact (hroutes.emits_held "eip155:1" 1 hheld n _).2 (by rw [hroster])

end Subscriptions
end WalletSession
