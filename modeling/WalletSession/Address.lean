import WalletSession.Keccak
import WalletSession.Numeral

set_option autoImplicit false

/-! # Addresses

An address is a number of 160 bits, read from forty hexadecimal digits of either case, with or without `0x` in
front, and written with `0x` and the case of the letters as a checksum (EIP-55). -/

namespace WalletSession

/-- An account address of an eip155 chain. -/
structure Address where
  value : BitVec 160
deriving DecidableEq

namespace Address

/-- The address that a text stands for. -/
def parse? (s : String) : Option Address :=
  let digits := match s.toList with
    | '0' :: 'x' :: rest => rest
    | '0' :: 'X' :: rest => rest
    | cs => cs
  if digits.length = 40 then
    (Numeral.value? 16 digits).map fun n => ⟨BitVec.ofNat 160 n⟩
  else none

/-- The forty digits of an address, in lower case. -/
def digits (a : Address) : List Char :=
  let significant := Numeral.digits 16 a.value.toNat
  List.replicate (40 - significant.length) '0' ++ significant

/-- The hexadecimal digits of the hash that decides the case of each digit. -/
def checksum (digits : List Char) : List Nat :=
  (Keccak.hash (digits.map fun c => UInt8.ofNat c.toNat)).flatMap fun b => [b.toNat / 16, b.toNat % 16]

/-- An address with its checksum: a letter is in upper case where the digit of the checksum is eight or
more. -/
def text (a : Address) : String :=
  let check := checksum a.digits
  String.ofList ('0' :: 'x' :: a.digits.mapIdx fun i c => if 8 ≤ check.getD i 0 then c.toUpper else c)

end Address
end WalletSession
