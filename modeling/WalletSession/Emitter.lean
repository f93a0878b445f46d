import WalletSession.Numeral

set_option autoImplicit false

/-! # Event emitters

An emitter calls its listeners with every event, in the order they were registered, and then puts the event
into its open channels. The listeners of an event are those registered when it is emitted: a listener may
change the emitter while it is called, and whom it registers or removes only matters for later events. A channel it
opens is given the event as well, although channels are opened for the events to come. -/

namespace WalletSession

/-- What a registered listener is known by; numbers are given out in order and never again. -/
structure ListenerId where
  number : Nat
deriving DecidableEq, Repr

/-- The text of an id. -/
def ListenerId.text (id : ListenerId) : String := "ListenerId(" ++ Numeral.decimal id.number ++ ")"

/-- A queue of events for one receiver. -/
structure Channel (α : Type) where
  number : Nat
  /-- Whether its receiver is still there. -/
  isOpen : Bool
  events : List α

/-- Listeners and channels for events of type `α`; `L` says what a listener is. -/
structure Emitter (L α : Type) where
  /-- The number of the next listener. It stands for a counter of 64 bits that starts over when it is full; the two
  agree as long as fewer than `2 ^ 64` listeners were registered. -/
  nextListener : Nat := 0
  listeners : List (ListenerId × L) := []
  nextChannel : Nat := 0
  channels : List (Channel α) := []

namespace Emitter

variable {L α σ : Type}

/-! ## Listeners -/

/-- Register a listener. -/
def on (listener : L) (e : Emitter L α) : Emitter L α × ListenerId :=
  ({ e with nextListener := e.nextListener + 1, listeners := e.listeners ++ [(⟨e.nextListener⟩, listener)] },
    ⟨e.nextListener⟩)

@[simp] theorem listeners_on (listener : L) (e : Emitter L α) :
    (e.on listener).1.listeners = e.listeners ++ [((e.on listener).2, listener)] := rfl

/-- Whether an id belongs to a registered listener. -/
def isRegistered (e : Emitter L α) (id : ListenerId) : Bool := e.listeners.any (·.1 = id)

/-- Remove a listener. -/
def off (id : ListenerId) (e : Emitter L α) : Emitter L α :=
  { e with listeners := e.listeners.filter (·.1 ≠ id) }

@[simp] theorem listeners_off (id : ListenerId) (e : Emitter L α) :
    (e.off id).listeners = e.listeners.filter (·.1 ≠ id) := rfl

/-- The number of registered listeners. -/
def listenerCount (e : Emitter L α) : Nat := e.listeners.length

/-! ## Channels -/

/-- Open a channel for the events to come. -/
def subscribe (e : Emitter L α) : Emitter L α × Nat :=
  ({ e with nextChannel := e.nextChannel + 1, channels := e.channels ++ [⟨e.nextChannel, true, []⟩] },
    e.nextChannel)

/-- The events that wait in a channel. -/
def pending (e : Emitter L α) (channel : Nat) : List α :=
  match e.channels.find? (·.number = channel) with
  | some c => c.events
  | none => []

/-- Take the waiting events out of a channel. -/
def drain (channel : Nat) (e : Emitter L α) : Emitter L α :=
  { e with channels := e.channels.map fun c => if c.number = channel then { c with events := [] } else c }

/-- Close a channel; it is forgotten with the next event. -/
def close (channel : Nat) (e : Emitter L α) : Emitter L α :=
  { e with channels := e.channels.map fun c => if c.number = channel then { c with isOpen := false } else c }

/-! ## Events -/

/-- Put an event into the open channels and forget the others. -/
def deliver (event : α) (e : Emitter L α) : Emitter L α :=
  { e with channels := (e.channels.filter (·.isOpen)).map fun c => { c with events := c.events ++ [event] } }

@[simp] theorem listeners_deliver (event : α) (e : Emitter L α) :
    (e.deliver event).listeners = e.listeners := rfl

/-- Emit an event: `call` says what a listener does to the emitter and to whatever else there is. -/
def emit (call : L → α → Emitter L α × σ → Emitter L α × σ) (event : α) (s : Emitter L α × σ) :
    Emitter L α × σ :=
  let s := s.1.listeners.foldl (fun s l => call l.2 event s) s
  (s.1.deliver event, s.2)

/-- A short description. -/
def text (e : Emitter L α) : String :=
  "EventEmitter \x7b listeners: " ++ Numeral.decimal e.listenerCount ++ ", senders: " ++
    Numeral.decimal e.channels.length ++ " \x7d"

end Emitter
end WalletSession
