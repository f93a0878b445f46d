import WalletSession.Text.Blank
import WalletSession.Web.Host

set_option autoImplicit false

/-! # Addresses of web services

Which texts are URLs with the scheme `http` or `https` (WHATWG): blanks at the ends and tabs and line breaks
anywhere are passed over, any number of slashes of either kind may stand behind the scheme, and what follows up
to the next slash, question mark or number sign is a host with optional credentials and port. The program gives this
predicate to its commands; nothing that is proved about them depends on it. -/

namespace WalletSession
namespace Web

/-- Whether a character is cut off both ends of a URL. -/
def isOuterBlank (c : Char) : Bool := c.toNat ≤ 0x20

/-- Whether a character is passed over anywhere in a URL. -/
def isPassedOver (c : Char) : Bool := c == '\t' || c == '\n' || c == '\r'

/-- The characters of a URL that count. -/
def significant (s : String) : List Char := (Text.strip isOuterBlank s.toList).filter (!isPassedOver ·)

/-- Whether a character is a slash of either kind. -/
def isSlash (c : Char) : Bool := c == '/' || c == '\\'

/-- Whether a character ends the host part of a URL. -/
def endsAuthority (c : Char) : Bool := isSlash c || c == '?' || c == '#'

/-- The text behind the last `@`, or the whole text. -/
def withoutCredentials (cs : List Char) : List Char := (cs.reverse.takeWhile (· != '@')).reverse

/-- The host and the text behind it; colons between brackets belong to the host. -/
def splitHost (bracketed : Bool) : List Char → List Char × List Char
  | [] => ([], [])
  | c :: rest =>
    if c = ':' ∧ bracketed = false then ([], c :: rest)
    else
      let parts := splitHost (c == '[' || (bracketed && c != ']')) rest
      (c :: parts.1, parts.2)

/-- Whether a text is a port with its colon, or nothing; the port may be left out. -/
def isPort : List Char → Bool
  | [] | [':'] => true
  | ':' :: digits => (Numeral.value? 10 digits).any (· < 65536)
  | _ => false

/-- Whether a text names a host, with optional credentials and port. -/
def isAuthority (cs : List Char) : Bool :=
  let parts := splitHost false (withoutCredentials cs)
  isHost parts.1 && isPort parts.2

/-- Whether a text is a URL with the scheme `http` or `https`. -/
def isHttpAddress (s : String) : Bool :=
  match Text.splitFirst ':' (significant s) with
  | some (scheme, rest) =>
    ["http", "https"].contains (String.ofList (scheme.map Char.toLower)) &&
      isAuthority ((rest.dropWhile isSlash).takeWhile (!endsAuthority ·))
  | none => false

end Web
end WalletSession
