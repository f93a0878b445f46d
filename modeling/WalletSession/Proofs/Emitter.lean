import Mathlib.Data.List.Basic
import WalletSession.Emitter

set_option autoImplicit false

/-! # Channels and calls

A channel is found by its number, and what each change of an emitter does to it is said here once. Listeners that
leave the emitter alone are called in order and are otherwise only known by what they do to everything else
(`Emitter.emit_beside`). -/

namespace WalletSession

/-- A channel with more events at its end. -/
def Channel.put {α : Type} (c : Channel α) (events : List α) : Channel α := { c with events := c.events ++ events }

namespace Emitter

variable {L α σ : Type} {e : Emitter L α} {n : Nat} {c : Channel α}

/-! ## Channels by number -/

/-- The channel of a number. -/
def channel? (e : Emitter L α) (n : Nat) : Option (Channel α) := e.channels.find? (·.number = n)

theorem pending_of_channel? (h : e.channel? n = some c) : e.pending n = c.events := by
  rw [channel?] at h
  rw [pending, h]

/-- A change of every channel that keeps their numbers. -/
theorem find?_map_channel (channels : List (Channel α)) {f : Channel α → Channel α}
    (hf : ∀ c, (f c).number = c.number) :
    (channels.map f).find? (·.number = n) = (channels.find? (·.number = n)).map f := by
  rw [List.find?_map]
  simp only [Function.comp_def, hf]

theorem channel?_drain (e : Emitter L α) (m n : Nat) :
    (e.drain m).channel? n = (e.channel? n).map fun c => if c.number = m then { c with events := [] } else c := by
  refine find?_map_channel e.channels fun c => ?_
  split <;> rfl

theorem channel?_close (e : Emitter L α) (m n : Nat) :
    (e.close m).channel? n = (e.channel? n).map fun c => if c.number = m then { c with isOpen := false } else c := by
  refine find?_map_channel e.channels fun c => ?_
  split <;> rfl

theorem channels_deliver (event : α) (e : Emitter L α) :
    (e.deliver event).channels = (e.channels.filter (·.isOpen)).map (·.put [event]) := rfl

/-- An event is put into every open channel. -/
theorem channel?_deliver (h : e.channel? n = some c) (hopen : c.isOpen = true) (event : α) :
    (e.deliver event).channel? n = some (c.put [event]) := by
  have hmap : (e.deliver event).channel? n =
      ((e.channels.filter (·.isOpen)).find? (·.number = n)).map (·.put [event]) :=
    find?_map_channel (e.channels.filter (·.isOpen)) fun _ => rfl
  have hkept : (e.channels.filter (·.isOpen)).find? (·.number = n) = some c := by
    rw [channel?, List.find?_eq_some_iff_append] at h
    obtain ⟨hn, before, after, hchannels, hbefore⟩ := h
    rw [List.find?_eq_some_iff_append]
    refine ⟨hn, before.filter (·.isOpen), after.filter (·.isOpen), ?_, ?_⟩
    · rw [hchannels, List.filter_append, List.filter_cons_of_pos hopen]
    · exact fun other hother => hbefore other (List.mem_of_mem_filter hother)
  rw [hmap, hkept]
  rfl

theorem channel?_subscribe_of_some (h : e.channel? n = some c) : e.subscribe.1.channel? n = some c := by
  rw [channel?] at h
  simp only [channel?, subscribe, List.find?_append, h, Option.some_or]

/-- The number of a new channel is that of no other. -/
theorem channel?_subscribe_new (h : ∀ c ∈ e.channels, c.number < e.nextChannel) :
    e.subscribe.1.channel? e.subscribe.2 = some ⟨e.nextChannel, true, []⟩ := by
  have hnone : e.channels.find? (·.number = e.nextChannel) = none := by
    rw [List.find?_eq_none]
    intro c hc
    have := h c hc
    simp only [decide_eq_true_eq]
    omega
  show List.find? (fun c : Channel α => c.number = e.nextChannel) (e.channels ++ [⟨e.nextChannel, true, []⟩]) = _
  rw [List.find?_append, hnone]
  simp

/-! ## Calls -/

/-- Listeners that leave the emitter alone are called once each, in the order they were registered. -/
theorem emit_beside (f : L → α → σ → σ) (event : α) (e : Emitter L α) (x : σ) :
    emit (fun l event s => (s.1, f l event s.2)) event (e, x) =
      (e.deliver event, e.listeners.foldl (fun x l => f l.2 event x) x) := by
  have hcalled : ∀ (listeners : List (ListenerId × L)) (x : σ),
      listeners.foldl (fun s l => (s.1, f l.2 event s.2)) (e, x) =
        (e, listeners.foldl (fun x l => f l.2 event x) x) := by
    intro listeners
    induction listeners with
    | nil => exact fun _ => rfl
    | cons l rest ih => exact fun x => ih (f l.2 event x)
  simp only [emit, hcalled]

end Emitter
end WalletSession
