import WalletSession.Caveat.Removal
import WalletSession.Proofs.Address
import WalletSession.Proofs.Distinct
import WalletSession.Proofs.Eip155
import WalletSession.Proofs.Identifiers
import WalletSession.Proofs.KeyMap

set_option autoImplicit false

/-! # Ethereum accounts of a value, scope by scope

The accounts of a caveat value are those that its scopes list, joined in the order of the scopes and without
repetition (`CaveatValue.ethAccounts_eq`). What a scope lists is read from account ids: every id that is written for an
address is read as this address again (`filterMap_accountIds`), and an id is read as an address if it spells it
(`ethAddress?_eq_some_iff`). -/

namespace WalletSession

/-! ## Account ids -/

/-- `account` is an account id whose address part spells the address. -/
def Address.NamedBy (a : Address) (account : String) : Prop :=
  ∃ id : AccountId, id.SpelledBy account ∧ a.SpelledBy id.address

theorem ethAddress?_eq_some_iff {account : String} {a : Address} :
    ethAddress? account = some a ↔ a.NamedBy account := by
  simp only [ethAddress?, Address.NamedBy, Option.bind_eq_some_iff, ← AccountId.parse_eq_ok_iff,
    AccountId.parse_eq_ok_iff_parse?, Address.parse?_eq_some_iff]

instance (a : Address) (account : String) : Decidable (a.NamedBy account) :=
  decidable_of_iff _ ethAddress?_eq_some_iff

/-- The text of an address is a word that an account id may end in. -/
theorem Address.isWordOf_text (a : Address) : isWordOf isAddressChar 1 128 a.text.toList = true := by
  have hdigit : ∀ d : Fin 16, isAddressChar (Numeral.digit d) = true ∧
      isAddressChar (Numeral.digit d).toUpper = true := by decide
  have hlength : a.text.toList.length = 42 := by
    have := congrArg List.length a.toLower_text
    simpa [a.length_digits] using this
  have hall : ∀ c ∈ a.text.toList, isAddressChar c = true := by
    intro c hc
    rw [text, String.toList_ofList, List.mem_cons, List.mem_cons, List.mem_mapIdx] at hc
    rcases hc with rfl | rfl | ⟨i, hi, rfl⟩
    · decide
    · decide
    · obtain ⟨d, hd, hdigits⟩ := isWritten_of_mem_digits (List.getElem_mem hi)
      rw [hdigits]
      split
      · exact (hdigit ⟨d, hd⟩).2
      · exact (hdigit ⟨d, hd⟩).1
  simp only [isWordOf, hlength, List.all_eq_true.2 hall]
  decide

/-- The id of an address on a chain is read as this address on this chain. -/
theorem parse?_accountId_of_chain {name : String} {c : ChainId} (h : ScopeName.parse name = .chain c) (a : Address) :
    AccountId.parse? (name ++ ":" ++ a.text) = some ⟨c, a.text⟩ := by
  obtain ⟨rfl, hns, href⟩ := ChainId.parse?_eq_some_iff.1 (ScopeName.parse_eq_chain_iff.1 h)
  exact AccountId.parse?_eq_some_iff.2 ⟨rfl, hns, href, a.isWordOf_text⟩

theorem parse?_accountId (n : ChainNumber) (a : Address) :
    AccountId.parse? ((Eip155.chainId n).text ++ ":" ++ a.text) = some ⟨Eip155.chainId n, a.text⟩ :=
  parse?_accountId_of_chain (ScopeName.parse_text_chainId n) a

/-! ## Scopes that have Ethereum accounts -/

theorem isEthScope_iff {name : String} :
    isEthScope name = true ↔ name = walletEip155Scope ∨ ∃ n, name = (Eip155.chainId n).text := by
  simp only [isEthScope, Bool.or_eq_true, beq_iff_eq, Option.isSome_iff_exists, ScopeName.eip155?_eq_some_iff]

theorem isEthScope_chainId (n : ChainNumber) : isEthScope (Eip155.chainId n).text = true :=
  isEthScope_iff.2 (.inr ⟨n, rfl⟩)

/-- Such a scope is a chain of the namespace `eip155`, or the chain `eip155` of the namespace `wallet`. -/
theorem exists_chain_of_isEthScope {name : String} (h : isEthScope name = true) : ∃ c, ScopeName.parse name = .chain c ∧
    (c = ⟨"wallet", Eip155.namespaceName⟩ ∨ c.ns = Eip155.namespaceName) := by
  rcases isEthScope_iff.1 h with rfl | ⟨n, rfl⟩
  · exact ⟨_, by decide +kernel, .inl rfl⟩
  · exact ⟨_, ScopeName.parse_text_chainId n, .inr rfl⟩

variable {name : String}

theorem ethAddress?_accountId (h : isEthScope name = true) (a : Address) :
    ethAddress? (name ++ ":" ++ a.text) = some a := by
  obtain ⟨c, hname, -⟩ := exists_chain_of_isEthScope h
  rw [ethAddress?, parse?_accountId_of_chain hname, Option.bind_some, Address.parse?_text]

/-- **The accounts that are written for some addresses are read as these addresses.** -/
theorem filterMap_accountIds (h : isEthScope name = true) (addresses : List Address) :
    (accountIds name addresses).filterMap ethAddress? = addresses := by
  have hread : (ethAddress? ∘ fun a => name ++ ":" ++ a.text) = some := funext (ethAddress?_accountId h)
  rw [accountIds, List.filterMap_map, hread, List.filterMap_some]

/-! ## What a scope lists -/

/-- The Ethereum accounts that a scope object lists under its name, as often as it does. -/
def ScopeObject.ethAccounts (o : ScopeObject) (name : String) : List Address :=
  if isEthScope name then o.accounts.filterMap ethAddress? else []

theorem ScopeObject.ethAccounts_accountIds (n : ChainNumber) (addresses : List Address) :
    ({ accounts := accountIds (Eip155.chainId n).text addresses } : ScopeObject).ethAccounts (Eip155.chainId n).text =
      addresses := by
  rw [ethAccounts, if_pos (isEthScope_chainId n), filterMap_accountIds (isEthScope_chainId n)]

/-! ## Changed scopes of a map -/

/-- `after` is `before` with other accounts under the scopes that have Ethereum accounts, as `change` says by name. -/
structure ScopeMap.ChangesAccounts (change : String → List String → List String) (before after : ScopeMap) : Prop where
  keys_eq : after.keys = before.keys
  /-- Other scopes are unchanged. -/
  other : ∀ name o, before.get? name = some o → isEthScope name = false → after.get? name = some o
  /-- Of the scopes that have Ethereum accounts, nothing else changes. -/
  eth : ∀ name o, before.get? name = some o → isEthScope name = true →
    after.get? name = some { o with accounts := change name o.accounts }

theorem ScopeMap.changesAccounts_map (change : String → List String → List String) (m : ScopeMap) :
    m.ChangesAccounts change (m.map fun name o =>
      if isEthScope name then { o with accounts := change name o.accounts } else o) := by
  constructor
  case keys_eq => exact KeyMap.keys_map _ m
  case other =>
    intro name o ho heth
    simp [KeyMap.get?_map, ho, heth]
  case eth =>
    intro name o ho heth
    simp only [KeyMap.get?_map, ho, heth, if_true, Option.map_some]

namespace CaveatValue

variable {v : CaveatValue}

/-- The accounts of a value, scope by scope. -/
theorem ethAccounts_eq (v : CaveatValue) :
    v.ethAccounts = (v.scopes.flatMap fun e => e.2.ethAccounts e.1).eraseDups := by
  have hlist (l : List (String × ScopeObject)) :
      ((l.filter fun e => isEthScope e.1).flatMap fun e => e.2.accounts.filterMap ethAddress?) =
        l.flatMap fun e => e.2.ethAccounts e.1 := by
    induction l with
    | nil => rfl
    | cons e rest ih =>
      rw [List.filter_cons, List.flatMap_cons, ← ih, ScopeObject.ethAccounts]
      split <;> simp
  rw [ethAccounts, hlist]

theorem nodup_ethAccounts (v : CaveatValue) : v.ethAccounts.Nodup := nodup_eraseDups _

theorem mem_ethAccounts_iff {a : Address} : a ∈ v.ethAccounts ↔
    ∃ name o, (name, o) ∈ v.scopes ∧ isEthScope name = true ∧ ∃ account ∈ o.accounts, ethAddress? account = some a := by
  simp only [ethAccounts, List.mem_eraseDups, List.mem_flatMap, List.mem_filter, List.mem_filterMap, Prod.exists,
    and_assoc]

theorem listsEthAccount_iff {a : Address} : v.listsEthAccount a = true ↔ a ∈ v.ethAccounts := by
  simp only [mem_ethAccounts_iff, listsEthAccount, List.any_eq_true, Bool.and_eq_true, beq_iff_eq, Prod.exists]

/-! ## Changed scopes of a value -/

theorem scopes_mapScopes (f : String → ScopeObject → ScopeObject) (v : CaveatValue) :
    (v.mapScopes f).scopes = v.scopes.map fun e => (e.1, f e.1 e.2) := by
  simp only [scopes, mapScopes, KeyMap.toList_map, List.map_append]

theorem mapScopes_eq_self {f : String → ScopeObject → ScopeObject}
    (h : ∀ name o, (name, o) ∈ v.scopes → f name o = o) : v.mapScopes f = v := by
  unfold mapScopes
  rw [KeyMap.map_eq_self fun name o ho => h name o (List.mem_append_left _ (KeyMap.mem_toList.2 ho)),
    KeyMap.map_eq_self fun name o ho => h name o (List.mem_append_right _ (KeyMap.mem_toList.2 ho))]

theorem mapScopes_mapScopes (f g : String → ScopeObject → ScopeObject) (v : CaveatValue) :
    (v.mapScopes f).mapScopes g = v.mapScopes fun name o => g name (f name o) := by
  simp only [mapScopes, KeyMap.map_map]

/-- The value with those Ethereum accounts that satisfy `keep`. -/
def keepingEthAccounts (keep : String → Bool) (v : CaveatValue) : CaveatValue :=
  v.mapScopes fun name o => if isEthScope name then { o with accounts := o.accounts.filter keep } else o

/-- Ids that are kept by their addresses leave these addresses, in the same order. -/
theorem ethAccounts_keepingEthAccounts (p : Address → Bool) (v : CaveatValue) :
    (v.keepingEthAccounts fun account => (ethAddress? account).all p).ethAccounts = v.ethAccounts.filter p := by
  have hids (ids : List String) : (ids.filter fun account => (ethAddress? account).all p).filterMap ethAddress? =
      (ids.filterMap ethAddress?).filter p := by
    rw [List.filterMap_filter, List.filter_filterMap]
    congr 1
    funext account
    cases ethAddress? account with
    | none => rfl
    | some a => simp [Option.filter]
  have hobject (name : String) (o : ScopeObject) :
      ScopeObject.ethAccounts (if isEthScope name then
        { o with accounts := o.accounts.filter fun account => (ethAddress? account).all p } else o) name =
      (o.ethAccounts name).filter p := by
    unfold ScopeObject.ethAccounts
    split
    · exact hids o.accounts
    · rfl
  rw [ethAccounts_eq, ethAccounts_eq, ← eraseDups_filter, keepingEthAccounts, scopes_mapScopes, List.flatMap_map,
    List.filter_flatMap]
  simp only [hobject]

/-- A new scope that lists the accounts of the value does not change them, nor their order. -/
theorem ethAccounts_insert_optional {name : String} {o : ScopeObject} (hnew : v.optional.get? name = none)
    (ho : o.ethAccounts name = v.ethAccounts) :
    ({ v with optional := v.optional.insert name o } : CaveatValue).ethAccounts = v.ethAccounts := by
  obtain ⟨before, after, hlist, hinsert⟩ := KeyMap.exists_toList_insert o hnew
  -- The new scope stands somewhere among the optional ones.
  have hsplit := v.ethAccounts_eq
  rw [scopes, hlist, ← List.append_assoc, List.flatMap_append] at hsplit
  rw [ethAccounts_eq, scopes, hinsert, ← List.append_assoc, List.flatMap_append, List.flatMap_cons, ho,
    ← List.append_assoc, hsplit, eraseDups_splice]

end CaveatValue
end WalletSession
