import WalletSession.ChainId

set_option autoImplicit false

/-! # Account ids

CAIP-10 names an account by a chain id and an address on that chain, one to a hundred and twenty-eight of `-`,
`.`, `%`, letters and digits, joined by a colon. -/

namespace WalletSession

/-- An address character. -/
def isAddressChar (c : Char) : Bool :=
  c == '-' || c == '.' || c == '%' || isAsciiLetter c || isAsciiDigit c

/-- An account, by chain and address. -/
structure AccountId where
  chain : ChainId
  address : String
deriving DecidableEq, Repr

namespace AccountId

/-- The account a text names. -/
def parse? (s : String) : Option AccountId :=
  match Text.splitFirst ':' s.toList with
  | some (ns, rest) =>
    match Text.splitFirst ':' rest with
    | some (reference, address) =>
      if isWordOf isNamespaceChar 3 8 ns && isWordOf isReferenceChar 1 32 reference &&
          isWordOf isAddressChar 1 128 address then
        some ⟨⟨String.ofList ns, String.ofList reference⟩, String.ofList address⟩
      else none
    | none => none
  | none => none

/-- The account a text names, or why it names none. -/
def parse (s : String) : Except IdentifierError AccountId :=
  match parse? s with
  | some a => .ok a
  | none => .error (.accountId s)

/-- The text of an account id. -/
def text (a : AccountId) : String := a.chain.text ++ ":" ++ a.address

/-- Whether a text is an account id. -/
def isValid (s : String) : Bool := (parse? s).isSome

/-- Account ids are ordered by chain, then by address. -/
def le (a b : AccountId) : Bool :=
  if a.chain = b.chain then a.address ≤ b.address else a.chain.le b.chain

end AccountId
end WalletSession
