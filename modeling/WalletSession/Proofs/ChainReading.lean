import WalletSession.AddChain.Check
import WalletSession.Caveat.PermittedChains
import WalletSession.Proofs.Eip155
import WalletSession.Proofs.Json.RoundTrip
import WalletSession.Proofs.Scope.Support
import WalletSession.Proofs.Subscriptions.Step
import WalletSession.ScopeInfo

set_option autoImplicit false

/-! # One reading of chain numbers

Permitted chains, supported scopes, parameters for adding a chain, subscriptions and descriptions of scopes all
depend on which eip155 chain a scope names. They read the same number out of every text, or none
(`existsUnique_readsChains`), and a number is read out of one text only, so that no chain goes by two keys. -/

namespace WalletSession

/-! ## Parameters for adding a chain -/

namespace AddChain

variable {isHttpUrl : String → Bool}

theorem checkUrls_ne_notAnEip155Chain (kind : UrlKind) (urls : List String) (name : String) :
    checkUrls isHttpUrl kind urls ≠ .error (.notAnEip155Chain name) := by
  unfold checkUrls
  split <;> simp

theorem checkCurrency_ne_notAnEip155Chain (c : NativeCurrency) (name : String) :
    checkCurrency c ≠ .error (.notAnEip155Chain name) := by
  unfold checkCurrency
  repeat' split
  all_goals simp

/-- Nothing in the parameters is blamed on the scope's name. -/
theorem checkParameters_ne_notAnEip155Chain (scope : String) (number : ChainNumber) (p : AddChainParameters)
    (name : String) : checkParameters isHttpUrl scope number p ≠ .error (.notAnEip155Chain name) := by
  have hurls (kind : UrlKind) (urls : List String) {e : Problem} (h : checkUrls isHttpUrl kind urls = .error e) :
      (.error e : Except Problem Unit) ≠ .error (.notAnEip155Chain name) :=
    h ▸ checkUrls_ne_notAnEip155Chain kind urls name
  unfold checkParameters
  simp only [bind, Except.bind]
  split
  · simp
  split
  case isFalse => simp
  split
  · simp
  split
  · simp
  -- What is left are the three lists of URLs, in turn, and the currency.
  split
  · next h => exact hurls _ _ h
  split
  · next h => exact hurls _ _ h
  split
  · next h => exact hurls _ _ h
  exact checkCurrency_ne_notAnEip155Chain _ _

theorem check_eq_notAnEip155Chain_iff {scope name : String} {value : Json} :
    check isHttpUrl scope value = .error (.notAnEip155Chain name) ↔
      name = scope ∧ (ScopeName.parse scope).eip155? = none := by
  unfold check
  cases hn : (ScopeName.parse scope).eip155? with
  | none => simp [eq_comm]
  | some n =>
    simp only [reduceCtorEq, and_false, iff_false]
    cases AddChainParameters.decode value with
    | error e => simp [Except.mapError, bind, Except.bind]
    | ok p =>
      have hne : checkParameters isHttpUrl scope n p ≠ .error (.notAnEip155Chain name) :=
        checkParameters_ne_notAnEip155Chain scope n p name
      cases hp : checkParameters isHttpUrl scope n p with
      | error e => simpa [Except.mapError, bind, Except.bind, hp] using hne
      | ok => simp [Except.mapError, bind, Except.bind, hp, pure, Except.pure]

end AddChain

/-! ## Subscriptions -/

/-- The chain that the registry is asked about. -/
def RegistryCall.chain? : RegistryCall → Option String
  | .find chain => some chain
  | _ => none

theorem Registry.resolve_eq_unsupportedScope_iff {registry : Registry} {scope name : String} :
    (registry.resolve scope).1 = .error (.unsupportedScope name) ↔
      name = scope ∧ (ScopeName.parse scope).eip155? = none := by
  unfold resolve
  cases (ScopeName.parse scope).eip155? with
  | none => simp [eq_comm]
  | some n =>
    simp only [reduceCtorEq, and_false, iff_false]
    cases registry.clientOf (Eip155.hex n) with
    | none => simp
    | some client => cases h : registry.isAvailable client <;> simp [h]

theorem Registry.chains_resolve (registry : Registry) (scope : String) :
    (registry.resolve scope).2.filterMap RegistryCall.chain? =
      ((ScopeName.parse scope).eip155?.map Eip155.hex).toList := by
  unfold resolve
  cases (ScopeName.parse scope).eip155? with
  | none => rfl
  | some n =>
    simp only
    cases registry.clientOf (Eip155.hex n) with
    | none => rfl
    | some client => cases h : registry.isAvailable client <;> simp [h, RegistryCall.chain?]

namespace Subscriptions

variable {s : Subscriptions} {scope : String}

/-- The first subscription to a scope is only made if the scope has a number. -/
theorem subscribe_eq_unsupportedScope_iff (registry : Registry) (domain : String)
    (hidle : s.scopes.get? scope = none) (name : String) :
    (s.subscribe registry scope domain).result = .error (.unsupportedScope name) ↔
      name = scope ∧ (ScopeName.parse scope).eip155? = none := by
  rw [← registry.resolve_eq_unsupportedScope_iff]
  have hstep := subscribing registry scope domain s
  generalize s.subscribe registry scope domain = change at hstep ⊢
  cases hstep with
  | repeated hsubs => simp [hidle] at hsubs
  | added hsubs => simp [hidle] at hsubs
  | refused _ hresolve => simp [hresolve]
  | created _ hresolve => simp [hresolve]

theorem chains_subscribe (registry : Registry) (domain : String) (hidle : s.scopes.get? scope = none) :
    (s.subscribe registry scope domain).calls.filterMap RegistryCall.chain? =
      ((ScopeName.parse scope).eip155?.map Eip155.hex).toList := by
  rw [← registry.chains_resolve]
  have hstep := subscribing registry scope domain s
  generalize s.subscribe registry scope domain = change at hstep ⊢
  cases hstep with
  | repeated hsubs => simp [hidle] at hsubs
  | added hsubs => simp [hidle] at hsubs
  | refused _ hresolve => rw [hresolve]
  | created _ hresolve => simp [hresolve, RegistryCall.chain?]

end Subscriptions

/-! ## Descriptions of scopes -/

theorem ScopeInfo.hexChainId_toJson (scope : String) :
    (ofText scope).toJson.field? "hexChainId" =
      (ScopeName.parse scope).eip155?.map fun n => .string (Eip155.hex n) :=
  Json.field?_ofFields (by simp) (by simp [ofText])

/-! ## Everywhere -/

/-- `c` is what all who look for a chain number read out of a text. -/
structure ReadsChains (c : String → Option ChainNumber) : Prop where
  /-- A text has a number if it is `eip155:` and the digits of this number. -/
  eq_some_iff : ∀ s n, c s = some n ↔ s = "eip155:" ++ Nat.repr n.toNat
  text_chainId : ∀ n, c (Eip155.chainId n).text = some n
  chainId : ∀ s, (ChainId.parse s).toOption.bind ChainId.eip155? = c s
  isEthScope_iff : ∀ s, isEthScope s = true ↔ (c s).isSome = true ∨ s = "wallet:eip155"
  permittedChains : ∀ v : CaveatValue, v.permittedChains = (v.scopes.filterMap fun e => c e.1).eraseDups
  isSupportedScope : ∀ (serves : ChainNumber → Bool) s id, ScopeName.parse s = .chain id → id.ns = "eip155" →
    isSupportedScope serves s = (c s).any serves
  addChain : ∀ (isHttpUrl : String → Bool) s value name,
    AddChain.check isHttpUrl s value = .error (.notAnEip155Chain name) ↔ name = s ∧ c s = none
  subscribe : ∀ (registry : Registry) (subscriptions : Subscriptions) s domain, s ∉ subscriptions.scopeNames →
    (∀ name, (subscriptions.subscribe registry s domain).result = .error (.unsupportedScope name) ↔
      name = s ∧ c s = none) ∧
    (subscriptions.subscribe registry s domain).calls.filterMap RegistryCall.chain? =
      ((c s).map Eip155.hex).toList
  hexChainId : ∀ s, (ScopeInfo.ofText s).toJson.field? "hexChainId" =
    (c s).map fun n => .string (Eip155.hex n)

/-- **Chain numbers are read alike everywhere**, each out of one text. -/
theorem existsUnique_readsChains : ∃! c, ReadsChains c := by
  have hsome (s : String) (n : ChainNumber) :
      (ScopeName.parse s).eip155? = some n ↔ s = "eip155:" ++ Nat.repr n.toNat := by
    rw [ScopeName.eip155?_eq_some_iff, Eip155.text_chainId]
  refine ⟨fun s => (ScopeName.parse s).eip155?, ?_, fun c hc => ?_⟩
  · constructor
    case eq_some_iff => exact hsome
    case text_chainId => exact fun n => ScopeName.eip155?_eq_some_iff.2 rfl
    case chainId =>
      intro s
      simp only [ScopeName.eip155?_parse, ChainId.parse]
      cases ChainId.parse? s <;> rfl
    case isEthScope_iff =>
      intro s
      rw [isEthScope, Bool.or_eq_true, beq_iff_eq, or_comm, walletEip155Scope]
    case permittedChains => exact fun v => rfl
    case isSupportedScope => exact fun serves s id hs hns => isSupportedScope_of_chain serves hs hns
    case addChain => exact fun isHttpUrl s value name => AddChain.check_eq_notAnEip155Chain_iff
    case subscribe =>
      intro registry subscriptions s domain hidle
      have hnone : subscriptions.scopes.get? s = none := KeyMap.get?_eq_none_of_not_mem_keys hidle
      exact ⟨Subscriptions.subscribe_eq_unsupportedScope_iff registry domain hnone,
        Subscriptions.chains_subscribe registry domain hnone⟩
    case hexChainId => exact ScopeInfo.hexChainId_toJson
  · funext s
    ext n
    rw [hc.eq_some_iff, ← hsome]

end WalletSession
