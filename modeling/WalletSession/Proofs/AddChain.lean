import WalletSession.AddChain.Check
import WalletSession.Proofs.Eip155
import WalletSession.Proofs.Session.RoundTrip

set_option autoImplicit false

/-! # Which parameters for adding a chain are accepted

Parameters are accepted for the scope of an eip155 chain if they are complete and give the number of this chain in
its canonical spelling (`AddChain.check_eq_ok_iff`). So the scope decides how the chain id is spelled, and parameters
that are accepted for one scope are not accepted for another. All of this holds whatever texts are taken for URLs. -/

namespace WalletSession
namespace AddChain

open Json (bind_eq_ok_iff)

/-! ## One check after the other -/

section

variable {ε : Type} {c : Prop} [Decidable c] {e : ε} {x y : Except ε Unit} {f : Unit → Except ε Unit}

theorem error_bind : (.error e >>= f) = .error e := rfl

theorem ok_bind : (.ok () >>= f) = f () := rfl

theorem bind_unit_eq_ok_iff : (x >>= f) = .ok () ↔ x = .ok () ∧ f () = .ok () := by
  cases x <;> simp [bind, Except.bind]

theorem mapError_eq_ok_iff {ε' α : Type} {x : Except ε α} {g : ε → ε'} {a : α} :
    x.mapError g = .ok a ↔ x = .ok a := by
  cases x <;> simp [Except.mapError]

theorem ite_error_eq_ok_iff : (if c then .error e else x) = .ok () ↔ ¬ c ∧ x = .ok () := by
  by_cases hc : c <;> simp [hc]

theorem ite_else_error_eq_ok_iff : (if c then x else .error e) = .ok () ↔ c ∧ x = .ok () := by
  by_cases hc : c <;> simp [hc]

end

/-- A number is read from its canonical spelling, from one to the largest safe number. -/
theorem chainNumber?_eq_some_iff {chainId : String} {n : ChainNumber} :
    chainNumber? chainId = some n ↔ chainId = Eip155.hex n ∧ 1 ≤ n.toNat ∧ n.toNat ≤ maxSafeChainId := by
  simp only [chainNumber?, Option.filter_eq_some_iff, Eip155.ofCanonicalHex?_eq_some_iff, decide_eq_true_eq]
  constructor
  · rintro ⟨⟨hid, -⟩, hrange⟩
    exact ⟨hid, hrange⟩
  · rintro ⟨hid, hrange⟩
    refine ⟨⟨hid, ?_⟩, hrange⟩
    rintro rfl
    exact absurd hrange.1 (by decide)

variable {isHttpUrl : String → Bool}

theorem checkUrls_eq_ok_iff {kind : UrlKind} {urls : List String} :
    checkUrls isHttpUrl kind urls = .ok () ↔ ∀ url ∈ urls, isHttpUrl url = true := by
  unfold checkUrls
  cases hfind : urls.find? (!isHttpUrl ·) with
  | none => simpa using hfind
  | some url =>
    simp only [reduceCtorEq, false_iff]
    intro hall
    have hbad := List.find?_some hfind
    simp [hall url (List.mem_of_find?_eq_some hfind)] at hbad

/-- A text with something to see in it. -/
def IsNonblank (s : String) : Prop := ∃ c ∈ s.toList, Text.isBlank c = false

theorem isNonblank_iff {s : String} : IsNonblank s ↔ ¬ Text.isBlankText s = true := by
  simp [IsNonblank, Text.isBlankText]

/-- A currency with a name, a symbol of two to six characters and eighteen decimal places. -/
structure IsCurrency (c : NativeCurrency) : Prop where
  name : IsNonblank c.name
  symbol : 2 ≤ c.symbol.length ∧ c.symbol.length ≤ 6
  decimals : c.decimals = 18

theorem checkCurrency_eq_ok_iff {c : NativeCurrency} : checkCurrency c = .ok () ↔ IsCurrency c := by
  simp only [checkCurrency, ite_error_eq_ok_iff, ← isNonblank_iff, Bool.not_eq_true', Bool.not_eq_false,
    Bool.and_eq_true, decide_eq_true_eq, ne_eq, not_not, and_true]
  constructor
  · rintro ⟨hname, hsymbol, hdecimals⟩
    exact ⟨hname, hsymbol, hdecimals⟩
  · rintro ⟨hname, hsymbol, hdecimals⟩
    exact ⟨hname, hsymbol, hdecimals⟩

/-- Parameters that say all there is to say about the chain `n`. -/
structure Describes (isHttpUrl : String → Bool) (n : ChainNumber) (p : AddChainParameters) : Prop where
  chainId : p.chainId = Eip155.hex n
  chainName : IsNonblank p.chainName
  rpcUrls : p.rpcUrls ≠ []
  urls : ∀ url ∈ p.rpcUrls ++ p.blockExplorerUrls.getD [] ++ p.iconUrls.getD [], isHttpUrl url = true
  currency : IsCurrency p.nativeCurrency

theorem checkParameters_eq_ok_iff {scope : String} {n : ChainNumber} {p : AddChainParameters} :
    checkParameters isHttpUrl scope n p = .ok () ↔
      (1 ≤ n.toNat ∧ n.toNat ≤ maxSafeChainId) ∧ Describes isHttpUrl n p := by
  have hnumber : chainNumber? p.chainId = some n ↔
      (1 ≤ n.toNat ∧ n.toNat ≤ maxSafeChainId) ∧ p.chainId = Eip155.hex n := by
    rw [chainNumber?_eq_some_iff, and_comm]
  unfold checkParameters
  cases hid : chainNumber? p.chainId with
  | none =>
    simp only [error_bind, reduceCtorEq, false_iff]
    rintro ⟨hrange, hdescribes⟩
    rw [hnumber.2 ⟨hrange, hdescribes.chainId⟩] at hid
    cases hid
  | some m =>
    simp only [error_bind, ok_bind, ite_error_eq_ok_iff, ite_else_error_eq_ok_iff, bind_unit_eq_ok_iff,
      checkUrls_eq_ok_iff, checkCurrency_eq_ok_iff, ← isNonblank_iff, List.isEmpty_iff]
    constructor
    · rintro ⟨rfl, hname, hrpc, hurls, hexplorers, hicons, hcurrency⟩
      obtain ⟨hrange, hid⟩ := hnumber.1 hid
      refine ⟨hrange, hid, hname, hrpc, ?_, hcurrency⟩
      rw [List.forall_mem_append, List.forall_mem_append]
      exact ⟨⟨hurls, hexplorers⟩, hicons⟩
    · rintro ⟨hrange, hdescribes⟩
      have hm : m = n := Option.some.inj (hid.symm.trans (hnumber.2 ⟨hrange, hdescribes.chainId⟩))
      have hurls := hdescribes.urls
      rw [List.forall_mem_append, List.forall_mem_append] at hurls
      exact ⟨hm, hdescribes.chainName, hdescribes.rpcUrls, hurls.1.1, hurls.1.2, hurls.2, hdescribes.currency⟩

/-! ## The whole check -/

/-- The number of a chain that can be added, and the scope of this chain. -/
structure Addable (n : ChainNumber) (scope : String) : Prop where
  positive : 1 ≤ n.toNat
  safe : n.toNat ≤ 4503599627370476
  scope : scope = "eip155:" ++ Nat.repr n.toNat

variable {scope : String} {value : Json} {p : AddChainParameters}

theorem check_eq_ok_iff : check isHttpUrl scope value = .ok p ↔
    ∃ n, Addable n scope ∧ AddChainParameters.decode value = .ok p ∧ Describes isHttpUrl n p := by
  unfold check
  cases hn : (ScopeName.parse scope).eip155? with
  | none =>
    simp only [reduceCtorEq, false_iff]
    rintro ⟨n, hadd, -⟩
    rw [ScopeName.eip155?_eq_some_iff_repr.2 hadd.scope] at hn
    cases hn
  | some m =>
    simp only [bind_eq_ok_iff, mapError_eq_ok_iff]
    constructor
    · rintro ⟨q, hdecode, ⟨⟩, hcheck, hq⟩
      cases hq
      obtain ⟨⟨hpositive, hsafe⟩, hdescribes⟩ := checkParameters_eq_ok_iff.1 hcheck
      exact ⟨m, ⟨hpositive, hsafe, ScopeName.eip155?_eq_some_iff_repr.1 hn⟩, hdecode, hdescribes⟩
    · rintro ⟨n, hadd, hdecode, hdescribes⟩
      obtain rfl : m = n :=
        Option.some.inj (hn.symm.trans (ScopeName.eip155?_eq_some_iff_repr.2 hadd.scope))
      exact ⟨p, hdecode, ⟨⟩, checkParameters_eq_ok_iff.2 ⟨⟨hadd.positive, hadd.safe⟩, hdescribes⟩, rfl⟩

theorem Addable.unique {n m : ChainNumber} (hn : Addable n scope) (hm : Addable m scope) : n = m := by
  have hscope := ScopeName.eip155?_eq_some_iff_repr.2 hn.scope
  rw [ScopeName.eip155?_eq_some_iff_repr.2 hm.scope] at hscope
  exact (Option.some.inj hscope).symm

/-- The least that has to be said about a chain with an RPC at `url`. -/
def plainParameters (url : String) (n : ChainNumber) : AddChainParameters where
  chainId := Eip155.hex n
  chainName := "Chain"
  rpcUrls := [url]
  nativeCurrency := ⟨"Ether", "ETH", 18⟩
  blockExplorerUrls := none
  iconUrls := none

theorem describes_plainParameters {url : String} (hurl : isHttpUrl url = true) (n : ChainNumber) :
    Describes isHttpUrl n (plainParameters url n) where
  chainId := rfl
  chainName := ⟨'C', by simp [plainParameters], by decide⟩
  rpcUrls := by simp [plainParameters]
  urls := by simpa [plainParameters] using hurl
  currency := {
    name := ⟨'E', by simp [plainParameters], by decide⟩
    symbol := by
      show 2 ≤ "ETH".length ∧ "ETH".length ≤ 6
      decide
    decimals := rfl }

/-- **Parameters are accepted exactly if they describe the chain that the scope names**, whatever is a URL. So there is
one spelling of the chain id for every scope that a chain can be added under, which parameters with any URL come to,
and no parameters serve two scopes. -/
theorem check_accepts (isHttpUrl : String → Bool) :
    (∀ scope value p, check isHttpUrl scope value = .ok p ↔
      ∃ n, Addable n scope ∧ AddChainParameters.decode value = .ok p ∧ Describes isHttpUrl n p) ∧
    (∀ n scope, Addable n scope → ∀ url, isHttpUrl url = true →
      ∃! chainId, ∃ value p, check isHttpUrl scope value = .ok p ∧ p.chainId = chainId) ∧
    ∀ scope value p, check isHttpUrl scope value = .ok p →
      ∀ other ≠ scope, ∀ q, check isHttpUrl other value ≠ .ok q := by
  refine ⟨fun scope value p => check_eq_ok_iff, fun n scope hn url hurl => ?_,
    fun scope value p hp other hother q hq => ?_⟩
  · have hplain : check isHttpUrl scope (plainParameters url n).toJson = .ok (plainParameters url n) :=
      check_eq_ok_iff.2 ⟨n, hn, AddChainParameters.decode_toJson _, describes_plainParameters hurl n⟩
    refine ⟨Eip155.hex n, ⟨_, _, hplain, rfl⟩, ?_⟩
    rintro chainId ⟨value, p, hp, rfl⟩
    obtain ⟨m, hm, -, hdescribes⟩ := check_eq_ok_iff.1 hp
    rw [hn.unique hm, hdescribes.chainId]
  · obtain ⟨n, hn, hdecode, hdescribes⟩ := check_eq_ok_iff.1 hp
    obtain ⟨m, hm, hdecode', hdescribes'⟩ := check_eq_ok_iff.1 hq
    obtain rfl : p = q := Except.ok.inj (hdecode.symm.trans hdecode')
    -- One spelling is read as one number, which belongs to one scope.
    have hread := chainNumber?_eq_some_iff.2 ⟨hdescribes.chainId, hn.positive, hn.safe⟩
    rw [chainNumber?_eq_some_iff.2 ⟨hdescribes'.chainId, hm.positive, hm.safe⟩] at hread
    obtain rfl := Option.some.inj hread
    exact hother (hm.scope.trans hn.scope.symm)

/-- A chain can be added, and by one spelling of its id only, even if there is a single URL. -/
theorem check_accepts_mainnet :
    ∃! chainId, ∃ value p, check (· == "https://rpc.example") "eip155:1" value = .ok p ∧ p.chainId = chainId := by
  have hmainnet : Addable 1 "eip155:1" := ⟨by decide, by decide, by decide +kernel⟩
  exact (check_accepts (· == "https://rpc.example")).2.1 1 "eip155:1" hmainnet "https://rpc.example" (by decide)

end AddChain
end WalletSession
