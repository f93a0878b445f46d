import Mathlib.Data.List.Nodup
import Mathlib.Data.List.Range
import WalletSession.Proofs.Emitter

set_option autoImplicit false

/-! # What an emitter has delivered

The history of an emitter lists what was asked of it and what it answered. `DeliversExactly` says from the history
alone who is registered, whom the next event is delivered to, and what the receiver of a channel has got;
`run_delivers_exactly` is the statement that this is what the emitter does, after any row of operations. The history
and the emitter are kept together by one step for every operation (`Traced.perform`). -/

namespace WalletSession
namespace Emitter

/-! ## Histories -/

/-- What can be asked of an emitter. -/
inductive Operation (L α : Type) where
  | on (listener : L)
  | off (id : ListenerId)
  | emit (event : α)
  | subscribe
  /-- The receiver of a channel takes what waits for it. -/
  | receive (channel : Nat)
  /-- The receiver of a channel goes away. -/
  | drop (channel : Nat)

/-- What it answers. -/
inductive Answer (L α : Type) where
  | registered (id : ListenerId)
  | removed (found : Bool)
  /-- Which listeners were called, and with which event. -/
  | called (calls : List (L × α))
  | opened (channel : Nat)
  | received (events : List α)
  | dropped

/-- What was asked so far, and the answers. -/
abbrev History (L α : Type) := List (Operation L α × Answer L α)

variable {L α : Type}

/-- Note down that a listener is called. -/
def note (l : L) (event : α) (calls : List (L × α)) : List (L × α) := calls ++ [(l, event)]

/-- An operation; listeners do nothing to the emitter when they are called. -/
def perform (e : Emitter L α) : Operation L α → Emitter L α × Answer L α
  | .on listener => ((e.on listener).1, .registered (e.on listener).2)
  | .off id => (e.off id, .removed (e.isRegistered id))
  | .emit event =>
    let emitted := emit (fun l event s => (s.1, note l event s.2)) event (e, [])
    (emitted.1, .called emitted.2)
  | .subscribe => (e.subscribe.1, .opened e.subscribe.2)
  | .receive channel => (e.drain channel, .received (e.pending channel))
  | .drop channel => (e.close channel, .dropped)

/-- Operations one after the other on a new emitter: the history and the emitter after it. -/
def run (operations : List (Operation L α)) : History L α × Emitter L α :=
  operations.foldl (fun s operation => (s.1 ++ [(operation, (s.2.perform operation).2)], (s.2.perform operation).1))
    ([], {})

/-! ### What a history says -/

namespace History

/-- The id that is given out. -/
def id? : Answer L α → Option ListenerId
  | .registered id => some id
  | _ => none

/-- The number of the channel that is opened. -/
def opened? : Answer L α → Option Nat
  | .opened channel => some channel
  | _ => none

/-- The event that is emitted. -/
def event? : Operation L α → Option α
  | .emit event => some event
  | _ => none

/-- Whether a listener is removed. -/
def isOff (id : ListenerId) : Operation L α → Bool
  | .off other => other = id
  | _ => false

/-- The listener that is registered, with its id. -/
def listener? : Operation L α × Answer L α → Option (ListenerId × L)
  | (.on listener, .registered id) => some (id, listener)
  | _ => none

/-- The events that the receiver of a channel takes. -/
def taken (channel : Nat) : Operation L α × Answer L α → List α
  | (.receive other, .received events) => if other = channel then events else []
  | _ => []

/-- The ids given out, in order. -/
def ids (past : History L α) : List ListenerId := past.filterMap fun p => id? p.2

/-- The channels opened, in order. -/
def opened (past : History L α) : List Nat := past.filterMap fun p => opened? p.2

/-- The events emitted, in order. -/
def emitted (past : History L α) : List α := past.filterMap fun p => event? p.1

/-- The events that the receiver of a channel has taken, in order. -/
def received (channel : Nat) (past : History L α) : List α := past.flatMap (taken channel)

/-- Whether the listener of an id is removed. -/
def isRemoved (id : ListenerId) (past : History L α) : Bool := past.any fun p => isOff id p.1

/-- The listeners that were registered and not removed since, in the order they were registered. -/
def registered : History L α → List (ListenerId × L)
  | [] => []
  | p :: later => (listener? p).toList.filter (fun l => !isRemoved l.1 later) ++ registered later

variable {past : History L α} {id : ListenerId} {l : L}

theorem ids_concat (past : History L α) (p : Operation L α × Answer L α) :
    ids (past ++ [p]) = ids past ++ (id? p.2).toList := by
  cases h : id? p.2 <;> simp [ids, h]

theorem opened_concat (past : History L α) (p : Operation L α × Answer L α) :
    opened (past ++ [p]) = opened past ++ (opened? p.2).toList := by
  cases h : opened? p.2 <;> simp [opened, h]

theorem emitted_concat (past : History L α) (p : Operation L α × Answer L α) :
    emitted (past ++ [p]) = emitted past ++ (event? p.1).toList := by
  cases h : event? p.1 <;> simp [emitted, h]

theorem received_concat (n : Nat) (past : History L α) (p : Operation L α × Answer L α) :
    received n (past ++ [p]) = received n past ++ taken n p := by
  simp [received]

theorem isOff_iff {operation : Operation L α} : isOff id operation = true ↔ operation = .off id := by
  cases operation <;> simp [isOff]

theorem isRemoved_eq_false_iff : isRemoved id past = false ↔ ∀ p ∈ past, p.1 ≠ .off id := by
  simp only [isRemoved, List.any_eq_false, isOff_iff, ne_eq]

theorem isRemoved_concat (id : ListenerId) (past : History L α) (p : Operation L α × Answer L α) :
    isRemoved id (past ++ [p]) = (isRemoved id past || isOff id p.1) := by
  simp [isRemoved]

theorem listener?_eq_some_iff {p : Operation L α × Answer L α} :
    listener? p = some (id, l) ↔ p = (.on l, .registered id) := by
  obtain ⟨operation, answer⟩ := p
  cases operation <;> cases answer <;> simp [listener?, and_comm]

/-- One more operation removes its listener, if it removes one, and registers its listener, if it registers one. -/
theorem registered_concat (past : History L α) (p : Operation L α × Answer L α) :
    registered (past ++ [p]) = (registered past).filter (fun l => !isOff l.1 p.1) ++ (listener? p).toList := by
  induction past with
  | nil => simp [registered, isRemoved]
  | cons q later ih =>
    rw [List.cons_append, registered, ih, registered, List.filter_append, List.filter_filter, List.append_assoc]
    simp only [isRemoved_concat, Bool.not_or, Bool.and_comm]

theorem mem_registered_iff : (id, l) ∈ registered past ↔
    ∃ before after, past = before ++ (.on l, .registered id) :: after ∧ ∀ p ∈ after, p.1 ≠ .off id := by
  induction past with
  | nil => simp [registered]
  | cons q later ih =>
    rw [registered, List.mem_append, ih, List.mem_filter, Option.mem_toList, listener?_eq_some_iff,
      Bool.not_eq_true', isRemoved_eq_false_iff]
    -- It was registered by the first operation or by a later one.
    constructor
    · intro h
      rcases h with ⟨rfl, hkept⟩ | ⟨before, after, rfl, hkept⟩
      · exact ⟨[], later, rfl, hkept⟩
      · exact ⟨q :: before, after, rfl, hkept⟩
    · intro h
      obtain ⟨before, after, hsplit, hkept⟩ := h
      cases before with
      | nil =>
        obtain ⟨rfl, rfl⟩ := List.cons.inj hsplit
        exact Or.inl ⟨rfl, hkept⟩
      | cons first before =>
        obtain ⟨rfl, rfl⟩ := List.cons.inj hsplit
        exact Or.inr ⟨before, after, rfl, hkept⟩

/-- Whoever is registered has an id that was given out, in the same order. -/
theorem registered_sublist_ids (past : History L α) : ((registered past).map (·.1)).Sublist (ids past) := by
  induction past with
  | nil => exact List.Sublist.refl _
  | cons q later ih =>
    have hfirst : ((listener? q).toList.map (·.1)).Sublist (id? q.2).toList := by
      obtain ⟨operation, answer⟩ := q
      cases operation <;> cases answer <;> simp [listener?, id?]
    have hids : ids (q :: later) = (id? q.2).toList ++ ids later := by
      cases hid : id? q.2 <;> simp [ids, hid]
    rw [registered, List.map_append, hids]
    exact ((List.filter_sublist.map _).trans hfirst).append ih

end History

open History

/-! ## One operation -/

variable {e : Emitter L α} {past : History L α}

theorem perform_emit (e : Emitter L α) (event : α) :
    e.perform (.emit event) = (e.deliver event, .called (e.listeners.map fun l => (l.2, event))) := by
  have hcalls : ∀ (listeners : List (ListenerId × L)) (calls : List (L × α)),
      listeners.foldl (fun calls l => note l.2 event calls) calls = calls ++ listeners.map fun l => (l.2, event) := by
    intro listeners
    induction listeners with
    | nil => exact fun calls => (List.append_nil calls).symm
    | cons l rest ih =>
      intro calls
      rw [List.foldl_cons, ih, note, List.append_assoc, List.map_cons, List.singleton_append]
  simp only [perform, emit_beside, hcalls, List.nil_append]

/-- What waits in an open channel, together with what its receiver takes, grows by the event that is emitted. -/
theorem channel?_perform {n : Nat} {events : List α} (h : e.channel? n = some ⟨n, true, events⟩)
    {operation : Operation L α} (hop : operation ≠ .drop n) :
    ∃ waiting, (e.perform operation).1.channel? n = some ⟨n, true, waiting⟩ ∧
      taken n (operation, (e.perform operation).2) ++ waiting = events ++ (event? operation).toList := by
  cases operation with
  | on listener => exact ⟨events, h, (List.append_nil _).symm⟩
  | off id => exact ⟨events, h, (List.append_nil _).symm⟩
  | emit event =>
    rw [perform_emit]
    exact ⟨events ++ [event], channel?_deliver h rfl event, rfl⟩
  | subscribe => exact ⟨events, channel?_subscribe_of_some h, (List.append_nil _).symm⟩
  | receive m =>
    have hdrain : (e.drain m).channel? n = some (if n = m then ⟨n, true, []⟩ else ⟨n, true, events⟩) := by
      rw [channel?_drain, h, Option.map_some]
    by_cases hm : n = m
    · subst hm
      rw [if_pos rfl] at hdrain
      exact ⟨[], hdrain, by simp [perform, taken, event?, pending_of_channel? h]⟩
    · rw [if_neg hm] at hdrain
      exact ⟨events, hdrain, by simp [perform, taken, event?, Ne.symm hm]⟩
  | drop m =>
    have hm : n ≠ m := fun heq => hop (heq ▸ rfl)
    have hclose : (e.close m).channel? n = some ⟨n, true, events⟩ := by
      rw [channel?_close, h, Option.map_some, if_neg hm]
    exact ⟨events, hclose, (List.append_nil _).symm⟩

/-! ## A history and its emitter -/

/-- The emitter is what its history has made of it. -/
structure Traced (past : History L α) (e : Emitter L α) : Prop where
  listeners_eq : e.listeners = registered past
  /-- Ids are given out in order, -/
  ids_eq : ids past = (List.range e.nextListener).map ListenerId.mk
  /-- and so are the numbers of channels. -/
  opened_eq : opened past = List.range e.nextChannel
  number_lt : ∀ c ∈ e.channels, c.number < e.nextChannel
  /-- A channel that is not dropped has what was emitted since it was opened and not taken yet. -/
  waiting : ∀ before n after, past = before ++ (.subscribe, .opened n) :: after → (∀ p ∈ after, p.1 ≠ .drop n) →
    ∃ events, e.channel? n = some ⟨n, true, events⟩ ∧ received n after ++ events = emitted after

namespace Traced

theorem start : Traced ([] : History L α) {} where
  listeners_eq := rfl
  ids_eq := rfl
  opened_eq := rfl
  number_lt := List.forall_mem_nil _
  waiting before n after hsplit _ := by simp at hsplit

theorem listeners_perform (h : Traced past e) (operation : Operation L α) :
    (e.perform operation).1.listeners = registered (past ++ [(operation, (e.perform operation).2)]) := by
  rw [registered_concat, ← h.listeners_eq]
  cases operation with
  | on listener => simp [perform, isOff, listener?, on]
  | off id => simp [perform, isOff, listener?, eq_comm]
  | emit event => simp [perform_emit, isOff, listener?]
  | subscribe => simp [perform, isOff, listener?, subscribe]
  | receive channel => simp [perform, isOff, listener?, drain]
  | drop channel => simp [perform, isOff, listener?, close]

theorem ids_perform (h : Traced past e) (operation : Operation L α) :
    ids (past ++ [(operation, (e.perform operation).2)]) =
      (List.range (e.perform operation).1.nextListener).map ListenerId.mk := by
  rw [ids_concat, h.ids_eq]
  cases operation with
  | on listener =>
    show _ ++ [⟨e.nextListener⟩] = (List.range (e.nextListener + 1)).map ListenerId.mk
    rw [List.range_succ, List.map_append, List.map_singleton]
  | emit event =>
    rw [perform_emit]
    exact List.append_nil _
  | _ => exact List.append_nil _

theorem opened_perform (h : Traced past e) (operation : Operation L α) :
    opened (past ++ [(operation, (e.perform operation).2)]) = List.range (e.perform operation).1.nextChannel := by
  rw [opened_concat, h.opened_eq]
  cases operation with
  | subscribe => exact List.range_succ.symm
  | emit event =>
    rw [perform_emit]
    exact List.append_nil _
  | _ => exact List.append_nil _

theorem number_lt_perform (h : Traced past e) (operation : Operation L α) :
    ∀ c ∈ (e.perform operation).1.channels, c.number < (e.perform operation).1.nextChannel := by
  cases operation with
  | on listener => exact h.number_lt
  | off id => exact h.number_lt
  | emit event =>
    rw [perform_emit]
    intro c hc
    obtain ⟨c', hc', rfl⟩ := List.mem_map.1 hc
    exact h.number_lt c' (List.mem_of_mem_filter hc')
  | subscribe =>
    intro c hc
    rcases List.mem_append.1 hc with hc | hc
    · exact Nat.lt_succ_of_lt (h.number_lt c hc)
    · rw [List.mem_singleton.1 hc]
      exact Nat.lt_succ_self _
  | receive channel =>
    intro c hc
    obtain ⟨c', hc', rfl⟩ := List.mem_map.1 hc
    split <;> exact h.number_lt c' hc'
  | drop channel =>
    intro c hc
    obtain ⟨c', hc', rfl⟩ := List.mem_map.1 hc
    split <;> exact h.number_lt c' hc'

theorem waiting_perform (h : Traced past e) (operation : Operation L α) {before after : History L α} {n : Nat}
    (hsplit : past ++ [(operation, (e.perform operation).2)] = before ++ (.subscribe, .opened n) :: after)
    (hkept : ∀ p ∈ after, p.1 ≠ .drop n) :
    ∃ events, (e.perform operation).1.channel? n = some ⟨n, true, events⟩ ∧
      received n after ++ events = emitted after := by
  -- The channel is opened by this operation, or it was opened before.
  rcases List.eq_nil_or_concat after with rfl | ⟨since, last, rfl⟩
  · obtain ⟨-, hlast⟩ := List.append_inj' hsplit rfl
    obtain ⟨rfl, hanswer⟩ := Prod.mk.inj (List.singleton_inj.1 hlast)
    obtain rfl : e.nextChannel = n := Answer.opened.inj hanswer
    exact ⟨[], channel?_subscribe_new h.number_lt, rfl⟩
  · rw [List.concat_eq_append, ← List.cons_append, ← List.append_assoc] at hsplit
    obtain ⟨hpast, hlast⟩ := List.append_inj' hsplit rfl
    obtain rfl := List.singleton_inj.1 hlast
    rw [List.concat_eq_append, List.forall_mem_append, List.forall_mem_singleton] at hkept
    obtain ⟨events, hevents, hsince⟩ := h.waiting before n since hpast hkept.1
    obtain ⟨waiting, hwaiting, htaken⟩ := channel?_perform hevents hkept.2
    refine ⟨waiting, hwaiting, ?_⟩
    rw [List.concat_eq_append, received_concat, emitted_concat, List.append_assoc, htaken, ← List.append_assoc,
      hsince]

theorem perform (h : Traced past e) (operation : Operation L α) :
    Traced (past ++ [(operation, (e.perform operation).2)]) (e.perform operation).1 where
  listeners_eq := h.listeners_perform operation
  ids_eq := h.ids_perform operation
  opened_eq := h.opened_perform operation
  number_lt := h.number_lt_perform operation
  waiting _ _ _ hsplit hkept := h.waiting_perform operation hsplit hkept

end Traced

theorem run_concat (operations : List (Operation L α)) (operation : Operation L α) :
    run (operations ++ [operation]) =
      ((run operations).1 ++ [(operation, ((run operations).2.perform operation).2)],
        ((run operations).2.perform operation).1) := by
  simp only [run, List.foldl_append, List.foldl_cons, List.foldl_nil]

theorem traced_run (operations : List (Operation L α)) : Traced (run operations).1 (run operations).2 := by
  induction operations using List.reverseRecOn with
  | nil => exact Traced.start
  | append_singleton operations operation ih =>
    rw [run_concat]
    exact ih.perform operation

/-! ## Exact delivery -/

/-- What an emitter does next, as its history says. -/
structure DeliversExactly (past : History L α) (e : Emitter L α) : Prop where
  /-- No id is given out twice. -/
  nodup_ids : (ids past).Nodup
  /-- Ids are smaller than the number of registrations, so that 64 bits are enough for fewer than 2^64 of them. -/
  id_lt : ∀ id ∈ ids past, id.number < (ids past).length
  listeners_eq : e.listeners = registered past
  listenerCount_eq : e.listenerCount = (registered past).length
  /-- A listener is found exactly if it was registered under this id and not removed since. -/
  off_found_iff : ∀ id, (e.perform (.off id)).2 = .removed true ↔
    ∃ before listener after, past = before ++ (.on listener, .registered id) :: after ∧ ∀ p ∈ after, p.1 ≠ .off id
  /-- It is removed then, and no other. -/
  off_of_found : ∀ before id listener after, registered past = before ++ (id, listener) :: after →
    (e.perform (.off id)).1 = { e with listeners := before ++ after }
  /-- Where no listener is found, nothing changes. -/
  off_of_not_found : ∀ id, (e.perform (.off id)).2 ≠ .removed true → (e.perform (.off id)).1 = e
  /-- An event goes to those who are registered, once each and in the order they were registered. -/
  emit_calls : ∀ event, (e.perform (.emit event)).2 = .called ((registered past).map fun l => (l.2, event))
  /-- No two channels have one number. -/
  nodup_opened : (opened past).Nodup
  /-- What the receiver of a channel has taken and what waits for it are the events since the channel was opened. -/
  receives : ∀ before n after, past = before ++ (.subscribe, .opened n) :: after → (∀ p ∈ after, p.1 ≠ .drop n) →
    received n after ++ e.pending n = emitted after

theorem perform_off_eq_removed_iff {id : ListenerId} :
    (e.perform (.off id)).2 = .removed true ↔ ∃ listener, (id, listener) ∈ e.listeners := by
  rw [perform, Answer.removed.injEq, isRegistered, List.any_eq_true]
  constructor
  · intro h
    obtain ⟨⟨other, listener⟩, hmem, hid⟩ := h
    obtain rfl : other = id := of_decide_eq_true hid
    exact ⟨listener, hmem⟩
  · intro h
    obtain ⟨listener, hmem⟩ := h
    exact ⟨(id, listener), hmem, decide_eq_true rfl⟩

/-- Where ids are distinct, filtering out one id takes out one listener. -/
theorem filter_ne_id {before after : List (ListenerId × L)} {id : ListenerId} {listener : L}
    (h : ((before ++ (id, listener) :: after).map (·.1)).Nodup) :
    (before ++ (id, listener) :: after).filter (·.1 ≠ id) = before ++ after := by
  rw [List.map_append, List.map_cons, List.nodup_middle, List.nodup_cons, ← List.map_append] at h
  have hkept : (before ++ after).filter (·.1 ≠ id) = before ++ after := by
    rw [List.filter_eq_self]
    intro l hl
    rw [decide_eq_true_eq]
    intro hid
    exact h.1 (List.mem_map.2 ⟨l, hl, hid⟩)
  rw [List.filter_append] at hkept
  simpa using hkept

namespace Traced

theorem nodup_ids (h : Traced past e) : (ids past).Nodup := by
  rw [h.ids_eq]
  exact List.Nodup.map (fun _ _ => ListenerId.mk.inj) List.nodup_range

theorem id_lt (h : Traced past e) : ∀ id ∈ ids past, id.number < (ids past).length := by
  rw [h.ids_eq, List.length_map, List.length_range]
  intro id hid
  obtain ⟨number, hnumber, rfl⟩ := List.mem_map.1 hid
  exact List.mem_range.1 hnumber

theorem off_found_iff (h : Traced past e) (id : ListenerId) : (e.perform (.off id)).2 = .removed true ↔
    ∃ before listener after, past = before ++ (.on listener, .registered id) :: after ∧
      ∀ p ∈ after, p.1 ≠ .off id := by
  rw [perform_off_eq_removed_iff, h.listeners_eq]
  simp only [mem_registered_iff]
  exact exists_comm

theorem off_of_found (h : Traced past e) {before after : List (ListenerId × L)} {id : ListenerId} {listener : L}
    (hsplit : registered past = before ++ (id, listener) :: after) :
    (e.perform (.off id)).1 = { e with listeners := before ++ after } := by
  have hnodup : ((registered past).map (·.1)).Nodup := h.nodup_ids.sublist (registered_sublist_ids past)
  rw [hsplit] at hnodup
  simp only [Emitter.perform, off, h.listeners_eq, hsplit, filter_ne_id hnodup]

theorem off_of_not_found {id : ListenerId} (hno : (e.perform (.off id)).2 ≠ .removed true) :
    (e.perform (.off id)).1 = e := by
  have hkept : e.listeners.filter (·.1 ≠ id) = e.listeners := by
    rw [List.filter_eq_self]
    intro l hl
    rw [decide_eq_true_eq]
    rintro rfl
    exact hno (perform_off_eq_removed_iff.2 ⟨l.2, hl⟩)
  simp only [Emitter.perform, off, hkept]

theorem receives (h : Traced past e) {before after : History L α} {n : Nat}
    (hsplit : past = before ++ (.subscribe, .opened n) :: after) (hkept : ∀ p ∈ after, p.1 ≠ .drop n) :
    received n after ++ e.pending n = emitted after := by
  obtain ⟨events, hevents, hall⟩ := h.waiting before n after hsplit hkept
  rw [pending_of_channel? hevents]
  exact hall

theorem deliversExactly (h : Traced past e) : DeliversExactly past e where
  nodup_ids := h.nodup_ids
  id_lt := h.id_lt
  listeners_eq := h.listeners_eq
  listenerCount_eq := congrArg List.length h.listeners_eq
  off_found_iff := h.off_found_iff
  off_of_found _ _ _ _ hsplit := h.off_of_found hsplit
  off_of_not_found _ hno := off_of_not_found hno
  emit_calls event := by rw [perform_emit, h.listeners_eq]
  nodup_opened := h.opened_eq ▸ List.nodup_range
  receives _ _ _ hsplit hkept := h.receives hsplit hkept

end Traced

theorem operations_run (operations : List (Operation L α)) : (run operations).1.map (·.1) = operations := by
  induction operations using List.reverseRecOn with
  | nil => rfl
  | append_singleton operations operation ih => rw [run_concat, List.map_append, ih, List.map_singleton]

/-- **An emitter delivers exactly to those registered**, after any row of operations. -/
theorem run_delivers_exactly (operations : List (Operation L α)) :
    (run operations).1.map (·.1) = operations ∧ DeliversExactly (run operations).1 (run operations).2 :=
  ⟨operations_run operations, (traced_run operations).deliversExactly⟩

/-- A listener is removed once, and a channel is only given what comes after it. -/
example : ((run [.on "first", .emit 1, .on "second", .subscribe, .emit 2, .off ⟨0⟩, .off ⟨0⟩, .emit 3,
      .receive 0]).1.map (·.2) : List (Answer String Nat)) =
    [.registered ⟨0⟩, .called [("first", 1)], .registered ⟨1⟩, .opened 0, .called [("first", 2), ("second", 2)],
      .removed true, .removed false, .called [("second", 3)], .received [2, 3]] := by
  rfl

end Emitter
end WalletSession
