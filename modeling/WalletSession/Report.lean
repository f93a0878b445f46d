import WalletSession.Json.Printer
import WalletSession.Text.Blank
import WalletSession.Text.Infix

set_option autoImplicit false

/-! # Error reports

An error may have been caused by another one, and so on. A report gives the messages of such a chain, the
outermost first, but leaves out what the message before it says already. -/

namespace WalletSession

/-- A chain of errors by their messages: an error and what it was caused by, one after the other. -/
structure Report where
  headline : String
  causedBy : List String := []
deriving DecidableEq, Repr

namespace Report

/-- The messages of the chain, without blanks around them. -/
def trimmed (r : Report) : List String := (r.headline :: r.causedBy).map Text.trim

/-- Keep the messages that do not occur in the message kept before them. -/
def dedup (kept : String) : List String → List String
  | [] => []
  | message :: rest =>
    if Text.occursIn message.toList kept.toList then dedup kept rest else message :: dedup message rest

/-- The messages that say something new. -/
def causes (r : Report) : List String :=
  match r.trimmed with
  | [] => []
  | first :: rest => first :: dedup first rest

/-- The messages on one line. -/
def oneLine (r : Report) : String := Json.joined "; " r.causes

/-- Causes on numbered lines. -/
def numbered (causes : List String) : String :=
  Json.joined "" (causes.mapIdx fun i cause => "\n  " ++ Numeral.decimal i ++ ": " ++ cause)

/-- The first message, and the others as a numbered list below it. -/
def text (r : Report) : String :=
  match r.causes with
  | [] => ""
  | [headline] => headline
  | headline :: causes => headline ++ "\n\nCaused by:" ++ numbered causes

end Report
end WalletSession
