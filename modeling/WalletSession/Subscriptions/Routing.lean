import WalletSession.Subscriptions.Change

set_option autoImplicit false

/-! # Routing notifications

What a feed announces is sent on along every route that listens on it, as messages of the subscriptions' own
emitter. -/

namespace WalletSession
namespace Subscriptions

variable {σ : Type}

/-- Send a message through the emitter; `call` says what a listener does to whatever else there is. -/
def send (call : String → DomainNotification → σ → σ) (s : Subscriptions × σ) (message : DomainNotification) :
    Subscriptions × σ :=
  let emitted := Emitter.emit (fun l m (e, rest) => (e, call l m rest)) message (s.1.messages, s.2)
  ({ s.1 with messages := emitted.1 }, emitted.2)

/-- What a listener on a feed does with a notification. -/
def hear (call : String → DomainNotification → σ → σ) (n : Notification) (s : Subscriptions × σ) :
    FeedListener → Subscriptions × σ
  | .forward route => send call s (route.message n)
  | .other _ => s

/-- A feed announces a notification. -/
def announce (call : String → DomainNotification → σ → σ) (feed : Nat) (n : Notification)
    (s : Subscriptions × σ) : Subscriptions × σ :=
  let emitted := Emitter.emit (fun l n (e, s) => (e, hear call n s l)) n (s.1.feedEvents feed, s)
  (emitted.2.1.updateFeed feed fun _ => emitted.1, emitted.2.2)

end Subscriptions
end WalletSession
