import WalletSession.Proofs.Caveat
import WalletSession.Proofs.Caveat.EthAccounts
import WalletSession.Scope.Support

set_option autoImplicit false

/-! # Accounts stay in their scopes

An account belongs to a scope that has Ethereum accounts if it is an account of the chain that the scope is named after
and a wallet can hold it. The account ids that are written for some addresses do (`belongsTo_accountId`), under the
scope of a chain as under `wallet:eip155`, and no account is ever moved to another scope. So once every listed account
belongs to its scope, this stays so whatever is done to the value (`CaveatValue.clean_of_changes`). -/

namespace WalletSession

/-! ## Accounts of a scope -/

/-- A wallet can hold the account, and it is one of the chain that `name` names. -/
def BelongsTo (account name : String) : Prop :=
  isSupportedAccount account = true ∧ ∃ id, AccountId.parse account = .ok id ∧ id.chain.text = name

theorem isPrefixedAddress_text (a : Address) : isPrefixedAddress a.text = true := by
  obtain ⟨digits, htext⟩ : ∃ digits, a.text.toList = '0' :: 'x' :: digits := ⟨_, String.toList_ofList⟩
  simp only [isPrefixedAddress, htext, Address.parse?_text, Option.isSome_some]

variable {name : String}

theorem isSupportedAccount_accountId (h : isEthScope name = true) (a : Address) :
    isSupportedAccount (name ++ ":" ++ a.text) = true := by
  have hwallet : KnownNamespace.ofText? "wallet" = some .wallet := by decide
  have heip155 : KnownNamespace.ofText? Eip155.namespaceName = some .eip155 := by decide
  obtain ⟨c, hname, rfl | hns⟩ := exists_chain_of_isEthScope h
  · simp [isSupportedAccount, parse?_accountId_of_chain hname, hwallet, isPrefixedAddress_text]
  · simp [isSupportedAccount, parse?_accountId_of_chain hname, hns, heip155, isPrefixedAddress_text]

/-- The id of an address under a scope that has Ethereum accounts belongs to this scope. -/
theorem belongsTo_accountId (h : isEthScope name = true) (a : Address) : BelongsTo (name ++ ":" ++ a.text) name := by
  obtain ⟨c, hname, -⟩ := exists_chain_of_isEthScope h
  have htext : name = c.text := (ChainId.parse?_eq_some_iff.1 (ScopeName.parse_eq_chain_iff.1 hname)).1
  refine ⟨isSupportedAccount_accountId h a, ⟨c, a.text⟩, ?_, htext.symm⟩
  exact AccountId.parse_eq_ok_iff_parse?.2 (parse?_accountId_of_chain hname a)

namespace ScopeObject

/-- If the scope has Ethereum accounts, those that it lists belong to it. -/
def CleanFor (o : ScopeObject) (name : String) : Prop :=
  isEthScope name = true → ∀ account ∈ o.accounts, BelongsTo account name

theorem cleanFor_accountIds (o : ScopeObject) (name : String) (addresses : List Address) :
    { o with accounts := accountIds name addresses }.CleanFor name := by
  intro heth account haccount
  obtain ⟨a, -, rfl⟩ := List.mem_map.1 haccount
  exact belongsTo_accountId heth a

theorem keptByChanges_cleanFor : KeptByChanges fun name o => o.CleanFor name where
  merge _ _ _ ha hb heth := forall_mem_distinctUnion.2 ⟨ha heth, hb heth⟩
  written name o addresses _ _ := o.cleanFor_accountIds name addresses
  dropped _ _ _ _ ho heth account haccount := ho heth account (List.mem_of_mem_filter haccount)
  granted n addresses := cleanFor_accountIds {} (Eip155.chainId n).text addresses

end ScopeObject

/-! ## Values -/

namespace CaveatValue

/-- Every account under a scope that has Ethereum accounts belongs to it. -/
def Clean (v : CaveatValue) : Prop := v.AllScopes fun name o => o.CleanFor name

/-- What was listed before does not matter. -/
theorem clean_withEthAccounts (addresses : List Address) (v : CaveatValue) : (v.withEthAccounts addresses).Clean := by
  have hany : v.AllScopes fun _ _ => True := ⟨fun _ _ _ => trivial, fun _ _ _ => trivial⟩
  refine hany.mapScopes fun name o _ => ?_
  split
  · exact o.cleanFor_accountIds name addresses
  · next heth => exact fun heth' => absurd heth' heth

/-- **No change brings an account into a scope that it does not belong to.** Writing accounts makes any value clean, and
what is granted, removed or merged leaves a clean value clean, as is what a session is told about it. -/
theorem clean_of_changes :
    (∀ (v : CaveatValue) (addresses : List Address), (v.withEthAccounts addresses).Clean) ∧
    ∀ v : CaveatValue, v.Clean →
      (∀ n, (v.addPermittedChain n).Clean) ∧
      (∀ chains, (v.setPermittedChains chains).Clean) ∧
      (∀ kind target w, v.remove kind target = .updated w → w.Clean) ∧
      (∀ w : CaveatValue, w.Clean → (v.merge w).Clean) ∧
      v.session.All (fun name o => o.CleanFor name) ∧
      ∀ edits : List Edit, (∀ edit ∈ edits, edit.Merges Clean) → ∀ w ∈ edits.scanl Edit.apply v, w.Clean := by
  have hkept := ScopeObject.keptByChanges_cleanFor
  refine ⟨fun v addresses => clean_withEthAccounts addresses v, fun v hv => ⟨?_, ?_, ?_, ?_, ?_, ?_⟩⟩
  · exact fun n => AllScopes.grantChain hkept hv v.ethAccounts n
  · exact fun chains => AllScopes.setPermittedChains hkept hv chains
  · exact fun kind target w hw => AllScopes.of_remove hkept hv hw
  · exact fun w hw => AllScopes.merge hkept hv hw
  · exact AllScopes.session hkept hv
  · exact fun edits hedits => AllScopes.of_changes hkept hv hedits

end CaveatValue
end WalletSession
