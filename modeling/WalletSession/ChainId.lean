import WalletSession.Text.Quoted
import WalletSession.Text.Split

set_option autoImplicit false

/-! # Chain ids

CAIP-2 names a chain by a namespace, three to eight of `-`, `a` to `z` and `0` to `9`, and a reference, one to
thirty-two of `-`, `_`, letters and digits, joined by a colon. -/

namespace WalletSession

/-! ## Grammar -/

/-- Whether `c` is an ASCII digit. -/
def isAsciiDigit (c : Char) : Bool := '0' ≤ c ∧ c ≤ '9'

/-- Whether `c` is a lower-case ASCII letter. -/
def isAsciiLower (c : Char) : Bool := 'a' ≤ c ∧ c ≤ 'z'

/-- Whether `c` is an ASCII letter. -/
def isAsciiLetter (c : Char) : Bool := isAsciiLower c || ('A' ≤ c ∧ c ≤ 'Z')

/-- Whether a text has `least` to `most` characters, all of them in a class. -/
def isWordOf (ofClass : Char → Bool) (least most : Nat) (cs : List Char) : Bool :=
  least ≤ cs.length && cs.length ≤ most && cs.all ofClass

/-- A namespace character. -/
def isNamespaceChar (c : Char) : Bool := c == '-' || isAsciiLower c || isAsciiDigit c

/-- A reference character. -/
def isReferenceChar (c : Char) : Bool := c == '-' || c == '_' || isAsciiLetter c || isAsciiDigit c

/-- Whether a text is a namespace. -/
def isNamespace (s : String) : Bool := isWordOf isNamespaceChar 3 8 s.toList

/-- Whether a text is a reference. -/
def isReference (s : String) : Bool := isWordOf isReferenceChar 1 32 s.toList

/-! ## Chain ids -/

/-- A chain, by namespace and reference. -/
structure ChainId where
  ns : String
  reference : String
deriving DecidableEq, Repr

namespace ChainId

/-- The chain a text names. -/
def parse? (s : String) : Option ChainId :=
  match Text.splitFirst ':' s.toList with
  | some (ns, reference) =>
    if isWordOf isNamespaceChar 3 8 ns && isWordOf isReferenceChar 1 32 reference then
      some ⟨String.ofList ns, String.ofList reference⟩
    else none
  | none => none

/-- The text of a chain id. -/
def text (c : ChainId) : String := c.ns ++ ":" ++ c.reference

/-- A chain id is written as the text it was read from. -/
theorem text_eq_of_parse? {s : String} {c : ChainId} (h : parse? s = some c) : c.text = s := by
  unfold parse? at h
  split at h
  · next ns reference hsplit =>
    split at h
    · cases h
      rw [← String.toList_inj]
      simpa [text] using (Text.splitFirst_eq_some_iff.1 hsplit).1.symm
    · cases h
  · cases h

/-- Whether a text is a chain id. -/
def isValid (s : String) : Bool := (parse? s).isSome

/-- Chain ids are ordered by namespace, then by reference. -/
def le (a b : ChainId) : Bool := a.ns < b.ns || (a.ns == b.ns && a.reference ≤ b.reference)

end ChainId

/-- An identifier that is not one. -/
inductive IdentifierError where
  | chainId (text : String)
  | accountId (text : String)
  | eip155Reference (text : String)
deriving DecidableEq, Repr

/-- The reason in words. -/
def IdentifierError.message : IdentifierError → String
  | .chainId text => "invalid CAIP-2 chain id: " ++ Text.quoted text
  | .accountId text => "invalid CAIP-10 account id: " ++ Text.quoted text
  | .eip155Reference text => "invalid eip155 chain reference: " ++ Text.quoted text

/-- The chain a text names, or why it names none. -/
def ChainId.parse (s : String) : Except IdentifierError ChainId :=
  match parse? s with
  | some c => .ok c
  | none => .error (.chainId s)

end WalletSession
