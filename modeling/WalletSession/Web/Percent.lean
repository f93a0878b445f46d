import WalletSession.Numeral

set_option autoImplicit false

/-! # Percent encoding

A text may give any byte of its UTF-8 form as a percent sign and two hexadecimal digits. -/

namespace WalletSession
namespace Percent

/-- The bytes that an encoded text stands for; a percent sign without two digits behind it stands for itself. -/
def bytes : List Char → List UInt8
  | [] => []
  | '%' :: h :: l :: rest =>
    match Numeral.digitValue? h, Numeral.digitValue? l with
    | some high, some low => UInt8.ofNat (16 * high + low) :: bytes rest
    | _, _ => '%'.toUInt8 :: bytes (h :: l :: rest)
  | c :: rest => String.utf8EncodeChar c ++ bytes rest

/-- The text that an encoded text stands for, if its bytes are UTF-8. -/
def decode? (cs : List Char) : Option String := String.fromUTF8? (ByteArray.mk (bytes cs).toArray)

end Percent
end WalletSession
