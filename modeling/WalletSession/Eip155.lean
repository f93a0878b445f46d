import WalletSession.ChainId
import WalletSession.Numeral

set_option autoImplicit false

/-! # Chains of the namespace eip155

A chain of the namespace `eip155` is known by a 64-bit number. Its reference is the decimal numeral of that
number, without sign and leading zeros; elsewhere it is written in hexadecimal after `0x`. -/

namespace WalletSession

/-- The number of an eip155 chain. -/
abbrev ChainNumber := UInt64

namespace Eip155

/-- The namespace of these chains. -/
def namespaceName : String := "eip155"

/-! ## Decimal references -/

/-- The number that a reference stands for. -/
def number? (reference : String) : Option ChainNumber :=
  let cs := reference.toList
  if cs.all isAsciiDigit && (cs == ['0'] || cs.head? != some '0') then
    (Numeral.value? 10 cs).bind Numeral.word?
  else none

/-- The number that a reference stands for, or why there is none. -/
def number (reference : String) : Except IdentifierError ChainNumber :=
  match number? reference with
  | some n => .ok n
  | none => .error (.eip155Reference reference)

/-- The reference of a number. -/
def reference (n : ChainNumber) : String := Numeral.decimal n.toNat

/-- The chain id of a number. -/
def chainId (n : ChainNumber) : ChainId := ⟨namespaceName, reference n⟩

/-! ## Hexadecimal texts -/

/-- A number in hexadecimal. -/
def hex (n : ChainNumber) : String := "0x" ++ Numeral.hex n.toNat

/-- The number that a hexadecimal text stands for; leading zeros, upper case and one plus sign are fine. -/
def ofHex? (s : String) : Option ChainNumber :=
  match s.toList with
  | '0' :: 'x' :: digits => Numeral.signedWord? 16 digits
  | _ => none

/-- The number that a hexadecimal text stands for, in the one spelling that `hex` gives. -/
def ofCanonicalHex? (s : String) : Option ChainNumber :=
  match s.toList with
  | '0' :: 'x' :: digits =>
    if digits.head? != some '0' && digits.all fun c => isAsciiDigit c || ('a' ≤ c ∧ c ≤ 'f') then ofHex? s
    else none
  | _ => none

end Eip155

/-- The number of a chain id, if it names an eip155 chain. -/
def ChainId.eip155? (c : ChainId) : Option ChainNumber :=
  if c.ns = Eip155.namespaceName then Eip155.number? c.reference else none

end WalletSession
