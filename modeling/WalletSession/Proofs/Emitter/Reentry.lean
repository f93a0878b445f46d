import WalletSession.Proofs.Emitter.History

set_option autoImplicit false

/-! # Listeners that change their emitter

While an event is emitted, the listeners that are called may register and remove listeners and open channels. What
they do is written down as a history, and the emitter after them is the one before with the history applied at its
end (`Reacted`): one change keeps that, so all listeners do. `reentry_affects_later_events` follows, for two events
in a row. Only listeners are fixed when the event is emitted. Channels are looked at when all of them were called, and
so a channel opened meanwhile is given the event, although channels are opened for the events to come. -/

namespace WalletSession

/-- A channel that was just opened. -/
def Channel.fresh {α : Type} (number : Nat) : Channel α := ⟨number, true, []⟩

namespace Emitter

open History

/-- A channel that was just opened is open. -/
theorem filter_isOpen_fresh {α : Type} (numbers : List Nat) :
    ((numbers.map Channel.fresh).filter (·.isOpen) : List (Channel α)) = numbers.map Channel.fresh := by
  rw [List.filter_eq_self]
  intro c hc
  obtain ⟨number, -, rfl⟩ := List.mem_map.1 hc
  rfl

/-! ## Calls that change the emitter -/

/-- What a listener can do to the emitter while it is called. -/
inductive Change (L : Type) where
  | on (listener : L)
  | off (id : ListenerId)
  | subscribe

/-- What is asked of the emitter. -/
def Change.operation {L : Type} (α : Type) : Change L → Operation L α
  | .on listener => .on listener
  | .off id => .off id
  | .subscribe => .subscribe

/-- What the listeners do with an event: any changes, which may depend on the emitter and on everything else. The
answers they get are determined by the emitter, so that a listener that looks at them chooses its changes so too. -/
abbrev Reaction (L α σ : Type) := L → α → Emitter L α × σ → List (Change L) × σ

/-- What happens while an event is emitted. -/
structure Emission (L α σ : Type) where
  /-- Which listeners were called, and with which event. -/
  calls : List (L × α)
  /-- What they asked of the emitter, and the answers. -/
  meanwhile : History L α
  /-- Everything else. -/
  rest : σ

variable {L α σ : Type}

/-- A change, which is written down. -/
def change (s : History L α × Emitter L α) (c : Change L) : History L α × Emitter L α :=
  (s.1 ++ [(c.operation α, (s.2.perform (c.operation α)).2)], (s.2.perform (c.operation α)).1)

/-- A call of a listener. -/
def react (reaction : Reaction L α σ) (l : L) (event : α) (s : Emitter L α × Emission L α σ) :
    Emitter L α × Emission L α σ :=
  let reacted := reaction l event (s.1, s.2.rest)
  let changed := reacted.1.foldl change (s.2.meanwhile, s.1)
  (changed.2, ⟨note l event s.2.calls, changed.1, reacted.2⟩)

/-- An event is emitted to listeners that change the emitter. -/
def emission (reaction : Reaction L α σ) (event : α) (s : Emitter L α × σ) : Emitter L α × Emission L α σ :=
  emit (react reaction) event (s.1, ⟨[], [], s.2⟩)

/-! ## What the listeners have changed -/

/-- The listeners of `e` that were not removed meanwhile, then those registered meanwhile and not removed since. -/
def listenersAfter (e : Emitter L α) (meanwhile : History L α) : List (ListenerId × L) :=
  e.listeners.filter (fun l => !isRemoved l.1 meanwhile) ++ registered meanwhile

/-- The channels of `e`, then those opened meanwhile. -/
def channelsAfter (e : Emitter L α) (meanwhile : History L α) : List (Channel α) :=
  e.channels ++ (opened meanwhile).map Channel.fresh

/-- The channels of `e` with the event in the open ones, then those opened meanwhile, which wait for the next event. -/
def channelsGiven (e : Emitter L α) (event : α) (meanwhile : History L α) : List (Channel α) :=
  (e.channels.filter (·.isOpen)).map (·.put [event]) ++ (opened meanwhile).map Channel.fresh

/-- The emitter `now` is `e` after the changes in `meanwhile`. -/
structure Reacted (e : Emitter L α) (meanwhile : History L α) (now : Emitter L α) : Prop where
  listeners_eq : now.listeners = e.listenersAfter meanwhile
  channels_eq : now.channels = e.channelsAfter meanwhile

namespace Reacted

variable {e now : Emitter L α} {meanwhile : History L α}

theorem refl (e : Emitter L α) : Reacted e [] e where
  listeners_eq := by simp [listenersAfter, isRemoved, registered]
  channels_eq := by simp [channelsAfter, opened]

theorem listeners_change (h : Reacted e meanwhile now) (c : Change L) :
    (change (meanwhile, now) c).2.listeners = e.listenersAfter (change (meanwhile, now) c).1 := by
  have hnow : (change (meanwhile, now) c).2.listeners =
      now.listeners.filter (fun l => !isOff l.1 (c.operation α)) ++
        (listener? (c.operation α, (now.perform (c.operation α)).2)).toList := by
    cases c with
    | on listener => simp [change, Change.operation, perform, isOff, listener?, on]
    | off id => simp [change, Change.operation, perform, isOff, listener?, eq_comm]
    | subscribe => simp [change, Change.operation, perform, isOff, listener?, subscribe]
  rw [hnow, h.listeners_eq, listenersAfter, List.filter_append, List.filter_filter, List.append_assoc]
  simp only [listenersAfter, change, isRemoved_concat, registered_concat, Bool.not_or, Bool.and_comm]

theorem channels_change (h : Reacted e meanwhile now) (c : Change L) :
    (change (meanwhile, now) c).2.channels = e.channelsAfter (change (meanwhile, now) c).1 := by
  have hnow : (change (meanwhile, now) c).2.channels =
      now.channels ++ (opened? (now.perform (c.operation α)).2).toList.map Channel.fresh := by
    cases c with
    | subscribe => rfl
    | _ => exact (List.append_nil _).symm
  rw [hnow, h.channels_eq]
  simp only [channelsAfter, change, opened_concat, List.map_append, List.append_assoc]

theorem foldl_change (changes : List (Change L)) (h : Reacted e meanwhile now) :
    Reacted e (changes.foldl change (meanwhile, now)).1 (changes.foldl change (meanwhile, now)).2 := by
  induction changes generalizing meanwhile now with
  | nil => exact h
  | cons c rest ih => exact ih ⟨h.listeners_change c, h.channels_change c⟩

/-- One call is a row of changes, so the calls of any listeners are. -/
theorem foldl_react (reaction : Reaction L α σ) (event : α) (listeners : List (ListenerId × L))
    {s : Emitter L α × Emission L α σ} (h : Reacted e s.2.meanwhile s.1) :
    Reacted e (listeners.foldl (fun s l => react reaction l.2 event s) s).2.meanwhile
      (listeners.foldl (fun s l => react reaction l.2 event s) s).1 := by
  induction listeners generalizing s with
  | nil => exact h
  | cons l rest ih => exact ih (h.foldl_change (reaction l.2 event (s.1, s.2.rest)).1)

end Reacted

/-! ## One event -/

/-- Listeners are called once each, in order, whatever those before them have changed. -/
theorem calls_foldl_react (reaction : Reaction L α σ) (event : α) (listeners : List (ListenerId × L))
    (s : Emitter L α × Emission L α σ) :
    (listeners.foldl (fun s l => react reaction l.2 event s) s).2.calls =
      s.2.calls ++ listeners.map fun l => (l.2, event) := by
  induction listeners generalizing s with
  | nil => exact (List.append_nil _).symm
  | cons l rest ih =>
    rw [List.foldl_cons, ih, List.map_cons]
    exact List.append_assoc s.2.calls [(l.2, event)] _

theorem calls_emission (reaction : Reaction L α σ) (event : α) (s : Emitter L α × σ) :
    (emission reaction event s).2.calls = s.1.listeners.map fun l => (l.2, event) :=
  calls_foldl_react reaction event s.1.listeners _

/-- The event is put into channels when all listeners were called. -/
theorem exists_reacted_emission (reaction : Reaction L α σ) (event : α) (s : Emitter L α × σ) :
    ∃ now, Reacted s.1 (emission reaction event s).2.meanwhile now ∧
      (emission reaction event s).1 = now.deliver event := by
  have hstart : Reacted s.1 (⟨[], [], s.2⟩ : Emission L α σ).meanwhile s.1 := Reacted.refl s.1
  exact ⟨_, hstart.foldl_react reaction event s.1.listeners, rfl⟩

theorem listeners_emission (reaction : Reaction L α σ) (event : α) (s : Emitter L α × σ) :
    (emission reaction event s).1.listeners = s.1.listenersAfter (emission reaction event s).2.meanwhile := by
  obtain ⟨now, hreacted, hnow⟩ := exists_reacted_emission reaction event s
  rw [hnow, listeners_deliver, hreacted.listeners_eq]

theorem channels_emission (reaction : Reaction L α σ) (event : α) (s : Emitter L α × σ) :
    (emission reaction event s).1.channels =
      ((s.1.channelsAfter (emission reaction event s).2.meanwhile).filter (·.isOpen)).map (·.put [event]) := by
  obtain ⟨now, hreacted, hnow⟩ := exists_reacted_emission reaction event s
  rw [hnow, channels_deliver, hreacted.channels_eq]

/-- The channels opened meanwhile have the event in them, so they do not wait for the next one. -/
theorem channels_emission_eq_given_iff (reaction : Reaction L α σ) (event : α) (s : Emitter L α × σ) :
    (emission reaction event s).1.channels = s.1.channelsGiven event (emission reaction event s).2.meanwhile ↔
      opened (emission reaction event s).2.meanwhile = [] := by
  rw [channels_emission]
  generalize (emission reaction event s).2.meanwhile = meanwhile
  rw [channelsAfter, channelsGiven, List.filter_append, List.map_append, filter_isOpen_fresh,
    List.append_cancel_left_eq]
  cases opened meanwhile with
  | nil => simp
  | cons number rest => simp [Channel.fresh, Channel.put]

/-! ## Two events in a row -/

/-- What two events in a row, the second given out right after the first, do to the emitter `e`. -/
structure AffectsLaterEvents (e : Emitter L α) (event next : α) (first second : Emitter L α × Emission L α σ) :
    Prop where
  /-- An event goes to those who are registered when it is emitted, once each and in order, -/
  calls_eq : first.2.calls = e.listeners.map fun l => (l.2, event)
  /-- and what they change decides whom the next one goes to. -/
  next_calls_eq : second.2.calls = (e.listenersAfter first.2.meanwhile).map fun l => (l.2, next)
  /-- An event is put into every open channel, those opened meanwhile included, -/
  channels_eq : first.1.channels =
    ((e.channelsAfter first.2.meanwhile).filter (·.isOpen)).map (·.put [event])
  /-- so that it is given to the channels opened before it and no others only if no channel is opened meanwhile, -/
  channels_eq_given_iff : first.1.channels = e.channelsGiven event first.2.meanwhile ↔ opened first.2.meanwhile = []
  /-- and all of these channels are given the next one too. -/
  next_channels_eq : second.1.channels = (first.1.channelsAfter second.2.meanwhile).map (·.put [next])

theorem isOpen_of_mem_emission (reaction : Reaction L α σ) (event : α) (s : Emitter L α × σ) :
    ∀ c ∈ (emission reaction event s).1.channels, c.isOpen = true := by
  rw [channels_emission]
  intro c hc
  obtain ⟨before, hbefore, rfl⟩ := List.mem_map.1 hc
  exact (List.mem_filter.1 hbefore).2

/-- Channels are only forgotten when their receivers are gone. -/
theorem filter_channelsAfter {e : Emitter L α} (h : ∀ c ∈ e.channels, c.isOpen = true) (meanwhile : History L α) :
    (e.channelsAfter meanwhile).filter (·.isOpen) = e.channelsAfter meanwhile := by
  rw [channelsAfter, List.filter_append, List.filter_eq_self.2 h, filter_isOpen_fresh]

/-- **What listeners register and remove while they are called only affects later events**, whatever they do and
whatever the emitter is like. A channel that is opened meanwhile is given all events from this one on, so channels too
are only affected later exactly if none is opened. -/
theorem reentry_affects_later_events (reaction : Reaction L α σ) (event next : α) (s : Emitter L α × σ) :
    AffectsLaterEvents s.1 event next (emission reaction event s)
      (emission reaction next ((emission reaction event s).1, (emission reaction event s).2.rest)) where
  calls_eq := calls_emission reaction event s
  next_calls_eq := by rw [calls_emission, listeners_emission]
  channels_eq := channels_emission reaction event s
  channels_eq_given_iff := channels_emission_eq_given_iff reaction event s
  next_channels_eq := by
    rw [channels_emission, filter_channelsAfter (isOpen_of_mem_emission reaction event s)]

/-- A listener that opens a channel, and one that registers another listener and removes it again. -/
def tapAndSwap : Reaction String Nat Unit
  | "tap", _, s => ([.subscribe], s.2)
  | "swap", _, s => ([.on "late", .off ⟨2⟩], s.2)
  | _, _, s => ([], s.2)

/-- The channel is opened while the first event is emitted and gets it; the listener registered meanwhile is not
called with the second event. -/
theorem reentry_reaches_the_same_event :
    let first := emission tapAndSwap 1 ((run [.on "tap", .on "swap"]).2, ())
    let second := emission tapAndSwap 2 (first.1, first.2.rest)
    first.2.meanwhile =
        [(.subscribe, .opened 0), (.on "late", .registered ⟨2⟩), (.off ⟨2⟩, .removed true)] ∧
      first.1.pending 0 = [1] ∧ second.2.calls = [("tap", 2), ("swap", 2)] :=
  ⟨rfl, rfl, rfl⟩

end Emitter
end WalletSession
