import WalletSession.ChainName
import WalletSession.Proofs.Eip155

set_option autoImplicit false

/-! # Chains are read back from their names

A name belongs to one chain, and no name or alias is a numeral. What is written for a chain, its name or its number,
is therefore read as this chain (`ChainName.parse?_text`). -/

namespace WalletSession
namespace ChainName

variable {n : ChainNumber} {s : String}

/-- Every name is read as the chain it belongs to. -/
theorem named?_of_name? (h : name? n = some s) : named? s = some n := by
  have hnames : ∀ e ∈ names, named? e.2 = some e.1 := by decide +kernel
  obtain ⟨before, after, hsplit, -⟩ := List.lookup_eq_some_iff.1 h
  exact hnames (n, s) (hsplit ▸ List.mem_append_right before List.mem_cons_self)

theorem parse?_of_name? (h : name? n = some s) : parse? s = some n := by
  rw [parse?, named?_of_name? h]

/-- A numeral is not the name of another chain. -/
theorem named?_of_numeral {m : Nat} (h : Numeral.value? 10 s.toList = some m) : named? s = none := by
  have hwords : ∀ e ∈ names ++ aliases, Numeral.value? 10 e.2.toList = none := by decide +kernel
  rw [named?, Option.map_eq_none_iff, List.find?_eq_none]
  intro e he hs
  rw [← eq_of_beq hs, hwords e he] at h
  cases h

theorem parse?_reference (n : ChainNumber) : parse? (Eip155.reference n) = some n := by
  have hdigits : (Eip155.reference n).toList = Numeral.digits 10 n.toNat := String.toList_ofList
  have hvalue : Numeral.value? 10 (Eip155.reference n).toList = some n.toNat := by
    rw [hdigits, Numeral.value?_digits (by omega) (by omega)]
  have hsign : '+' ∉ (Eip155.reference n).toList := by
    intro h
    cases Eip155.isAsciiDigit_of_mem_reference h
  simp only [parse?, named?_of_numeral hvalue]
  exact (Numeral.signedWord?_eq_some_iff hsign).2 hvalue

/-- **A chain is read back from its text**, which is its name if it has one and its number otherwise. -/
theorem parse?_text (n : ChainNumber) : parse? (text n) = some n := by
  cases h : name? n with
  | some name =>
    rw [text, h]
    exact parse?_of_name? h
  | none =>
    rw [text, h]
    exact parse?_reference n

end ChainName
end WalletSession
