import WalletSession.Proofs.Subscriptions.Step

set_option autoImplicit false

/-! # Runs of the subscriptions

A run is a list of calls, each with the setting of `dedupe` it is made under, its own answers of the registry,
and its own choice of feeds whose destruction fails. What every single step keeps a whole run keeps
(`Subscriptions.Kept.run`): the calls in bulk end subscriptions one by one. -/

namespace WalletSession
namespace Subscriptions

/-! ## Calls -/

/-- A call; `failure` tells the feeds whose destruction fails, and why. -/
inductive Call where
  | subscribe (registry : Registry) (scope domain : String)
  | unsubscribe (failure : Nat → Option String) (scope domain : String)
  | unsubscribeAll (failure : Nat → Option String)
  | unsubscribeScope (failure : Nat → Option String) (scope : String)
  | unsubscribeDomain (failure : Nat → Option String) (domain : String)

/-- What a call answers. -/
inductive Outcome where
  | subscribed (result : Except SubscriptionError Nat)
  | unsubscribed (result : Except SubscriptionError Unit)
  | ended (errors : List SubscriptionError)

/-- Make a call. -/
def Call.perform : Call → Subscriptions → Change Outcome
  | .subscribe registry scope domain, s =>
    let c := s.subscribe registry scope domain
    ⟨c.state, .subscribed c.result, c.calls⟩
  | .unsubscribe failure scope domain, s =>
    let c := s.unsubscribe failure scope domain
    ⟨c.state, .unsubscribed c.result, c.calls⟩
  | .unsubscribeAll failure, s =>
    let c := s.unsubscribeAll failure
    ⟨c.state, .ended c.result, c.calls⟩
  | .unsubscribeScope failure scope, s =>
    let c := s.unsubscribeScope failure scope
    ⟨c.state, .ended c.result, c.calls⟩
  | .unsubscribeDomain failure domain, s =>
    let c := s.unsubscribeDomain failure domain
    ⟨c.state, .ended c.result, c.calls⟩

/-- Whether a subscription was made, or there was one already. -/
def Outcome.succeeded : Outcome → Bool
  | .subscribed (.ok _) => true
  | _ => false

theorem Outcome.succeeded_subscribed (result : Except SubscriptionError Nat) :
    (Outcome.subscribed result).succeeded = result.toBool := by
  cases result <;> rfl

/-! ## Runs -/

/-- A call, and whether a domain is subscribed only once when it is made. -/
structure Turn where
  dedupe : Bool
  call : Call

/-- Set whether a domain is subscribed only once. -/
def withDedupe (dedupe : Bool) (s : Subscriptions) : Subscriptions := { s with dedupe }

/-- Make a call under its own setting. -/
def Turn.perform (t : Turn) (s : Subscriptions) : Change Outcome := t.call.perform (s.withDedupe t.dedupe)

/-- Make calls one after the other; the calls of the registry and of the feeds are collected in order. -/
def run : List Turn → Subscriptions → Change (List Outcome)
  | [], s => ⟨s, [], []⟩
  | t :: rest, s =>
    let first := t.perform s
    let others := run rest first.state
    ⟨others.state, first.result :: others.result, first.calls ++ others.calls⟩

/-- Every call is answered. -/
theorem length_result_run (turns : List Turn) (s : Subscriptions) :
    (run turns s).result.length = turns.length := by
  induction turns generalizing s with
  | nil => rfl
  | cons t rest ih => exact congrArg (· + 1) (ih _)

theorem run_append (turns others : List Turn) (s : Subscriptions) :
    (run (turns ++ others) s).state = (run others (run turns s).state).state ∧
    (run (turns ++ others) s).calls = (run turns s).calls ++ (run others (run turns s).state).calls := by
  induction turns generalizing s with
  | nil => exact ⟨rfl, rfl⟩
  | cons t rest ih =>
    have hrest := ih (t.perform s).state
    refine ⟨hrest.1, ?_⟩
    rw [List.cons_append, run, run, List.append_assoc, ← hrest.2]

/-! ## Calls in bulk, one by one -/

/-- Whether a call makes or ends at most one subscription. -/
def Call.isSingle : Call → Bool
  | .subscribe .. | .unsubscribe .. => true
  | _ => false

/-- A call in bulk ends subscriptions one by one. -/
theorem Turn.single_or_each (t : Turn) (s : Subscriptions) :
    t.call.isSingle = true ∨ t.call.isSingle = false ∧ ∃ failure targets,
      (t.perform s).state = (unsubscribeEach failure targets (s.withDedupe t.dedupe)).state ∧
      (t.perform s).calls = (unsubscribeEach failure targets (s.withDedupe t.dedupe)).calls := by
  obtain ⟨dedupe, call⟩ := t
  cases call with
  | subscribe => exact .inl rfl
  | unsubscribe => exact .inl rfl
  | unsubscribeAll failure => exact .inr ⟨rfl, failure, _, rfl, rfl⟩
  | unsubscribeScope failure => exact .inr ⟨rfl, failure, _, rfl, rfl⟩
  | unsubscribeDomain failure => exact .inr ⟨rfl, failure, _, rfl, rfl⟩

theorem dedupe_unsubscribe (failure : Nat → Option String) (scope domain : String) (s : Subscriptions) :
    (s.unsubscribe failure scope domain).state.dedupe = s.dedupe := by
  have hremove (subs : ScopeSubscriptions) (ids : List ListenerId) :
      (s.removeListener domain subs ids).1.dedupe = s.dedupe := by
    unfold removeListener
    split <;> rfl
  unfold unsubscribe
  split
  · rfl
  · next subs _ =>
    split
    · rfl
    · next ids _ =>
      simp only
      split <;> exact hremove subs ids

/-- Turns that end subscriptions one by one. -/
def singly (dedupe : Bool) (failure : Nat → Option String) (targets : List (String × String)) : List Turn :=
  targets.map fun target => ⟨dedupe, .unsubscribe failure target.1 target.2⟩

theorem run_singly (dedupe : Bool) (failure : Nat → Option String) (targets : List (String × String))
    (s : Subscriptions) :
    (run (singly dedupe failure targets) s).state.withDedupe dedupe =
      (unsubscribeEach failure targets (s.withDedupe dedupe)).state ∧
    (run (singly dedupe failure targets) s).calls =
      (unsubscribeEach failure targets (s.withDedupe dedupe)).calls := by
  induction targets generalizing s with
  | nil => exact ⟨rfl, rfl⟩
  | cons target rest ih =>
    have hrest := ih ((s.withDedupe dedupe).unsubscribe failure target.1 target.2).state
    -- Every single call is made under the same setting and keeps it.
    have hsame : ((s.withDedupe dedupe).unsubscribe failure target.1 target.2).state.withDedupe dedupe =
        ((s.withDedupe dedupe).unsubscribe failure target.1 target.2).state :=
      congrArg (withDedupe · _) (dedupe_unsubscribe failure target.1 target.2 (s.withDedupe dedupe)).symm
    rw [hsame] at hrest
    exact ⟨hrest.1, congrArg (_ ++ ·) hrest.2⟩

/-- **Every run is a run of single calls.** -/
theorem exists_singles (turns : List Turn) (s : Subscriptions) (dedupe : Bool) :
    ∃ singles : List Turn, (∀ t ∈ singles, t.call.isSingle = true ∧
        (t ∈ turns ∨ ∃ failure scope domain, t.call = .unsubscribe failure scope domain)) ∧
      (run singles (s.withDedupe dedupe)).calls = (run turns s).calls ∧
      (run singles (s.withDedupe dedupe)).state.scopes = (run turns s).state.scopes := by
  induction turns generalizing s dedupe with
  | nil => exact ⟨[], by simp, rfl, rfl⟩
  | cons t rest ih =>
    rcases t.single_or_each s with hsingle | ⟨-, failure, targets, hstate, hcalls⟩
    · obtain ⟨singles, hall, hrun, hscopes⟩ := ih (t.perform s).state (t.perform s).state.dedupe
      refine ⟨t :: singles, ?_, congrArg (_ ++ ·) hrun, hscopes⟩
      intro u hu
      rcases List.mem_cons.1 hu with rfl | hu
      · exact ⟨hsingle, .inl (by simp)⟩
      · exact ⟨(hall u hu).1, (hall u hu).2.imp_left (List.mem_cons_of_mem _)⟩
    · have heach := run_singly t.dedupe failure targets (s.withDedupe dedupe)
      have happend := fun singles => run_append (singly t.dedupe failure targets) singles (s.withDedupe dedupe)
      generalize run (singly t.dedupe failure targets) (s.withDedupe dedupe) = each at heach happend
      have hperform : each.state.withDedupe t.dedupe = (t.perform s).state := heach.1.trans hstate.symm
      obtain ⟨singles, hall, hrun, hscopes⟩ := ih (t.perform s).state each.state.dedupe
      -- The single calls may leave another setting of `dedupe` behind, which the next turn replaces.
      have hback : (t.perform s).state.withDedupe each.state.dedupe = each.state := by
        rw [← hperform]
        rfl
      rw [hback] at hrun hscopes
      refine ⟨singly t.dedupe failure targets ++ singles, ?_, ?_, ?_⟩
      · intro u hu
        rcases List.mem_append.1 hu with hu | hu
        · obtain ⟨target, -, rfl⟩ := List.mem_map.1 hu
          exact ⟨rfl, .inr ⟨failure, target.1, target.2, rfl⟩⟩
        · exact ⟨(hall u hu).1, (hall u hu).2.imp_left (List.mem_cons_of_mem _)⟩
      · rw [(happend singles).2, hrun, run, hcalls]
        exact congrArg (· ++ _) heach.2
      · exact (congrArg Subscriptions.scopes (happend singles).1).trans hscopes

/-! ## What runs keep -/

/-- Every registry that a turn asks is one of those `allowed`. -/
def Turn.Asks (allowed : Registry → Prop) (t : Turn) : Prop :=
  match t.call with
  | .subscribe registry _ _ => allowed registry
  | _ => True

/-- A property of the calls so far and of the state that every single step keeps. -/
structure Kept (allowed : Registry → Prop) (P : List RegistryCall → Subscriptions → Prop) : Prop where
  dedupe : ∀ {log s} (b : Bool), P log s → P log (s.withDedupe b)
  subscribe : ∀ {log s} (registry : Registry) (scope domain : String), allowed registry → P log s →
    P (log ++ (s.subscribe registry scope domain).calls) (s.subscribe registry scope domain).state
  unsubscribe : ∀ {log s} (failure : Nat → Option String) (scope domain : String), P log s →
    P (log ++ (s.unsubscribe failure scope domain).calls) (s.unsubscribe failure scope domain).state

namespace Kept

variable {allowed : Registry → Prop} {P : List RegistryCall → Subscriptions → Prop}
  {log : List RegistryCall} {s : Subscriptions}

theorem unsubscribeEach (hP : Kept allowed P) (failure : Nat → Option String) (targets : List (String × String))
    (h : P log s) : P (log ++ (Subscriptions.unsubscribeEach failure targets s).calls)
      (Subscriptions.unsubscribeEach failure targets s).state := by
  induction targets generalizing log s with
  | nil => simpa [Subscriptions.unsubscribeEach] using h
  | cons target rest ih =>
    have hrest := ih (hP.unsubscribe failure target.1 target.2 h)
    rwa [List.append_assoc] at hrest

theorem perform (hP : Kept allowed P) {t : Turn} (ht : t.Asks allowed) (h : P log s) :
    P (log ++ (t.perform s).calls) (t.perform s).state := by
  obtain ⟨dedupe, call⟩ := t
  have h := hP.dedupe dedupe h
  cases call with
  | subscribe registry scope domain => exact hP.subscribe registry scope domain ht h
  | unsubscribe failure scope domain => exact hP.unsubscribe failure scope domain h
  | unsubscribeAll failure => exact hP.unsubscribeEach failure _ h
  | unsubscribeScope failure scope => exact hP.unsubscribeEach failure _ h
  | unsubscribeDomain failure domain => exact hP.unsubscribeEach failure _ h

/-- **What every single step keeps a whole run keeps.** -/
theorem run (hP : Kept allowed P) {turns : List Turn} (hturns : ∀ t ∈ turns, t.Asks allowed) (h : P log s) :
    P (log ++ (Subscriptions.run turns s).calls) (Subscriptions.run turns s).state := by
  induction turns generalizing log s with
  | nil => simpa [Subscriptions.run] using h
  | cons t rest ih =>
    have hfirst := hP.perform (hturns t (by simp)) h
    have hrest := ih (fun t' ht' => hturns t' (by simp [ht'])) hfirst
    rwa [List.append_assoc] at hrest

end Kept

/-! ## Counting -/

theorem Turn.asks_any (t : Turn) : t.Asks fun _ => True := by
  obtain ⟨_, call⟩ := t
  cases call <;> trivial

/-- Scopes stay well counted. -/
theorem kept_wellCounted : Kept (fun _ => True) fun _ s => s.WellCounted where
  dedupe _ h := h
  subscribe registry scope domain _ h := h.subscribe registry scope domain
  unsubscribe failure scope domain h := h.unsubscribe failure scope domain

theorem wellCounted_empty : ({} : Subscriptions).WellCounted := by
  intro scope subs h
  cases h

theorem WellCounted.perform {s : Subscriptions} (hs : s.WellCounted) (t : Turn) : (t.perform s).state.WellCounted :=
  @Kept.perform _ _ [] s kept_wellCounted t t.asks_any hs

theorem wellCounted_run (turns : List Turn) : (run turns {}).state.WellCounted :=
  @Kept.run _ _ [] {} kept_wellCounted turns (fun t _ => t.asks_any) wellCounted_empty

end Subscriptions
end WalletSession
