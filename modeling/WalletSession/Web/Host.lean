import WalletSession.Web.DomainName
import WalletSession.Web.Percent

set_option autoImplicit false

/-! # Hosts

A host is an IPv6 address between brackets, an IPv4 address, or a domain name. A name whose last label is a
number is taken for an IPv4 address. -/

namespace WalletSession
namespace Web

/-! ## IPv4 -/

/-- One number of an IPv4 address: hexadecimal after `0x`, octal after `0`, decimal otherwise. -/
def ipv4Number? (cs : List Char) : Option Nat :=
  match cs with
  | [] => none
  | '0' :: 'x' :: digits | '0' :: 'X' :: digits => if digits.isEmpty then some 0 else Numeral.value? 16 digits
  | '0' :: c :: digits => Numeral.value? 8 (c :: digits)
  | digits => Numeral.value? 10 digits

/-- The labels of a name without an empty one at its end. -/
def withoutRoot (labels : List (List Char)) : List (List Char) :=
  if labels.getLast? = some [] then labels.dropLast else labels

/-- Whether a name ends in a number. -/
def endsInNumber (labels : List (List Char)) : Bool :=
  (withoutRoot labels).getLast?.any fun last =>
    (!last.isEmpty && last.all isAsciiDigit) || (ipv4Number? last).isSome

/-- Whether numbers make up an IPv4 address: the last one fills the bytes that the others leave. -/
def isIpv4 (labels : List (List Char)) : Bool :=
  let parts := withoutRoot labels
  match parts.mapM ipv4Number? with
  | some numbers =>
    parts.length ≤ 4 && numbers.dropLast.all (· ≤ 255) &&
      numbers.getLast?.any fun last => last < Nat.pow 256 (5 - parts.length)
  | none => false

/-! ## IPv6 -/

/-- Whether a text is a group of one to four hexadecimal digits. -/
def isIpv6Group (cs : List Char) : Bool := isWordOf (Numeral.isDigit 16) 1 4 cs

/-- Whether a text is an IPv4 address in four decimal numbers. -/
def isDottedQuad (cs : List Char) : Bool :=
  let parts := Text.splitAll '.' cs
  parts.length == 4 && parts.all fun part =>
    (part == ['0'] || part.head? != some '0') && (Numeral.value? 10 part).any (· ≤ 255)

/-- The number of groups between single colons; an IPv4 address at the end counts for two. -/
def ipv6Groups? (cs : List Char) : Option Nat :=
  if cs.isEmpty then some 0
  else
    let parts := Text.splitAll ':' cs
    if parts.all isIpv6Group then some parts.length
    else if parts.dropLast.all isIpv6Group && parts.getLast?.any isDottedQuad then some (parts.length + 1)
    else none

/-- The texts before and after the first double colon. -/
def splitDoubleColon : List Char → Option (List Char × List Char)
  | ':' :: ':' :: rest => some ([], rest)
  | c :: rest => (splitDoubleColon rest).map fun parts => (c :: parts.1, parts.2)
  | [] => none

/-- Whether a text is an IPv6 address: eight groups, or fewer with a double colon for those left out. -/
def isIpv6 (cs : List Char) : Bool :=
  match splitDoubleColon cs with
  | none => ipv6Groups? cs == some 8
  | some (before, after) =>
    match ipv6Groups? before, ipv6Groups? after with
    | some m, some n => m + n ≤ 7 && !before.contains '.'
    | _, _ => false

/-! ## Hosts -/

/-- Whether a text is a host. -/
def isHost (cs : List Char) : Bool :=
  match cs with
  | '[' :: rest => rest.getLast? == some ']' && isIpv6 rest.dropLast
  | _ =>
    match (Percent.decode? cs).bind fun name => labels? name.toList with
    | none => false
    | some labels => labels != [[]] && (!endsInNumber labels || isIpv4 labels)

end Web
end WalletSession
