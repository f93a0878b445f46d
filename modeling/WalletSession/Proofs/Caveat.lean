import WalletSession.Proofs.Caveat.AllScopes
import WalletSession.Proofs.Eip155
import WalletSession.Proofs.Permission

set_option autoImplicit false

/-! # Accepted caveat values

A caveat value is accepted if the session permission with this value passes its check, which means that both of its
sides are in normal form (`CaveatValue.accepted_iff`). Whatever is taken from an accepted value, granted in it or
merged into it, the result is accepted again (`CaveatValue.accepted_of_changes`), under any scope names. -/

namespace WalletSession

/-! ## Normal forms under changes -/

/-- An entry as a scope map in normal form has it under `name`. -/
def ScopeObject.IsNormalFor (o : ScopeObject) (name : String) : Prop :=
  o.isValidFor name = true ∧ (ScopeName.parse name = .bare name → o.scopes = none)

namespace ScopeObject

variable {a b o : ScopeObject} {name : String}

theorem IsNormalFor.merge (ha : a.IsNormalFor name) (hb : b.IsNormalFor name) : (a.merge b).IsNormalFor name := by
  have hname : ScopeName.parse name ≠ .unrecognized := by
    rcases parse_of_isValidFor ha.1 with hbare | ⟨c, hchain⟩
    · simp [hbare]
    · simp [hchain]
  have hnames := (namesAll_of_isValidFor ha.1).merge (namesAll_of_isValidFor hb.1)
  exact ⟨isValidFor_of_scopes_none hname rfl hnames, fun _ => rfl⟩

/-- The accounts do not matter. -/
theorem IsNormalFor.withAccounts (h : o.IsNormalFor name) (accounts : List String) :
    { o with accounts }.IsNormalFor name := h

theorem isNormalFor_chainId (n : ChainNumber) (accounts : List String) :
    ({ accounts } : ScopeObject).IsNormalFor (Eip155.chainId n).text := by
  have hname : ScopeName.parse (Eip155.chainId n).text ≠ .unrecognized := by
    simp [ScopeName.parse_text_chainId]
  exact ⟨isValidFor_of_scopes_none hname rfl (by simp [NamesAll]), fun _ => rfl⟩

theorem keptByChanges_isNormalFor : KeptByChanges fun name o => o.IsNormalFor name where
  merge _ _ _ ha hb := ha.merge hb
  written _ _ _ _ ho := ho.withAccounts _
  dropped _ _ _ _ ho := ho.withAccounts _
  granted n _ := isNormalFor_chainId n _

end ScopeObject

instance (o : ScopeObject) (name : String) : Decidable (o.IsNormalFor name) :=
  inferInstanceAs (Decidable (o.isValidFor name = true ∧ (ScopeName.parse name = .bare name → o.scopes = none)))

namespace ScopeMap.IsNormal

variable {a b m : ScopeMap}

theorem iff_forall_mem : m.IsNormal ↔ ∀ e ∈ m.toList, e.2.IsNormalFor e.1 := by
  constructor
  · rintro hm ⟨name, o⟩ he
    exact hm name o (KeyMap.mem_toList.1 he)
  · intro hm name o ho
    exact hm (name, o) (KeyMap.mem_toList.2 ho)

theorem merge (ha : a.IsNormal) (hb : b.IsNormal) : (a.merge b).IsNormal :=
  KeyMap.All.unionWith ha hb ScopeObject.keptByChanges_isNormalFor.merge

end ScopeMap.IsNormal

instance (m : ScopeMap) : Decidable m.IsNormal := decidable_of_iff _ ScopeMap.IsNormal.iff_forall_mem.symm

/-- Negotiation leaves the map as it is: on either side, whatever is on the other one, as scope objects or in
writing. -/
def ScopeMap.IsSettled (m : ScopeMap) : Prop :=
  (∀ other : ScopeMap,
    (ScopeSides.mk m other).renegotiate.required = m ∧ (ScopeSides.mk other m).renegotiate.optional = m) ∧
  ∀ other : RawScopes,
    (ScopeSides.mk m.toRaw other).negotiate.required = m ∧ (ScopeSides.mk other m.toRaw).negotiate.optional = m

theorem ScopeMap.IsNormal.isSettled {m : ScopeMap} (hm : m.IsNormal) : m.IsSettled := by
  have htyped : m.valid.flatten = m := by rw [hm.valid_eq, hm.flatten_eq]
  have hraw : m.toRaw.valid.flatten = m := by rw [valid_toRaw, htyped]
  exact ⟨fun other => ⟨htyped, htyped⟩, fun other => ⟨hraw, hraw⟩⟩

/-! ## Accepted values -/

theorem RemovalOutcome.value?_eq_some_iff {outcome : RemovalOutcome} {w : CaveatValue} :
    outcome.value? = some w ↔ outcome = .updated w := by
  cases outcome <;> simp [value?]

namespace CaveatValue

/-- The session permission of `invoker` with this value. -/
def permission (invoker : String) (v : CaveatValue) : Permission :=
  ⟨SessionPermission.targetName, invoker, some [⟨SessionPermission.caveatType, v.toJson⟩]⟩

/-- The session permission with this value passes its check. -/
def Accepted (v : CaveatValue) : Prop := ∀ invoker, SessionPermission.check (v.permission invoker) = .ok ()

/-- Both sides are in normal form. -/
def IsNormal (v : CaveatValue) : Prop := v.toScopeSides.IsNormal

variable {v w : CaveatValue}

theorem accepted_iff : v.Accepted ↔ v.IsNormal := by
  have hholds : SessionPermission.Holds v.toJson v.toScopeSides.toRaw :=
    SessionPermission.declared?_eq_some_iff.1 v.declared?_toJson
  have hnormal (m : ScopeMap) : m.toRaw.IsNormal ↔ m.IsNormal :=
    RawScopes.isNormal_iff_of_traverse m.traverse_decode_toRaw
  constructor
  · intro h
    rcases SessionPermission.check_of_holds (p := v.permission "") rfl hholds with ⟨hraw, -⟩ | ⟨-, hcheck⟩
    · exact ⟨(hnormal _).1 hraw.1, (hnormal _).1 hraw.2⟩
    · rw [h ""] at hcheck
      cases hcheck
  · exact fun h invoker => SessionPermission.check_of_isNormal _ invoker h

theorem isNormal_iff : v.IsNormal ↔ v.AllScopes fun name o => o.IsNormalFor name := Iff.rfl

theorem IsNormal.of_remove (h : v.IsNormal) {kind : RemovalKind} {target : String}
    (hw : v.remove kind target = .updated w) : w.IsNormal :=
  isNormal_iff.2 ((isNormal_iff.1 h).of_remove ScopeObject.keptByChanges_isNormalFor hw)

/-! ## Changes -/

/-- A change of a caveat value. -/
inductive Edit where
  | remove (kind : RemovalKind) (target : String)
  | setEthAccounts (addresses : List Address)
  | addPermittedChain (n : ChainNumber)
  | setPermittedChains (chains : List ChainNumber)
  | merge (other : CaveatValue)
  | mergeInto (other : CaveatValue)

/-- The value after a change; a removal that gives no new value leaves it as it is. -/
def Edit.apply (v : CaveatValue) : Edit → CaveatValue
  | .remove kind target => (v.remove kind target).value?.getD v
  | .setEthAccounts addresses => v.withEthAccounts addresses
  | .addPermittedChain n => v.addPermittedChain n
  | .setPermittedChains chains => v.setPermittedChains chains
  | .merge other => v.merge other
  | .mergeInto other => other.merge v

/-- What is merged satisfies `q`. -/
def Edit.Merges (q : CaveatValue → Prop) : Edit → Prop
  | .merge other => q other
  | .mergeInto other => q other
  | _ => True

theorem Edit.Merges.imp {q r : CaveatValue → Prop} {edit : Edit} (h : edit.Merges q) (hqr : ∀ v, q v → r v) :
    edit.Merges r := by
  cases edit
  case merge other => exact hqr other h
  case mergeInto other => exact hqr other h
  all_goals trivial

section AllScopes

variable {p : String → ScopeObject → Prop} (hp : KeptByChanges p)
include hp

theorem AllScopes.apply (hv : v.AllScopes p) {edit : Edit} (hedit : edit.Merges (AllScopes p)) :
    (edit.apply v).AllScopes p := by
  cases edit with
  | remove kind target =>
    simp only [Edit.apply]
    cases hvalue : (v.remove kind target).value? with
    | none => exact hv
    | some w => exact hv.of_remove hp (RemovalOutcome.value?_eq_some_iff.1 hvalue)
  | setEthAccounts addresses => exact hv.withEthAccounts hp addresses
  | addPermittedChain n => exact hv.grantChain hp _ n
  | setPermittedChains chains => exact hv.setPermittedChains hp chains
  | merge other => exact hv.merge hp hedit
  | mergeInto other => exact AllScopes.merge hp hedit hv

/-- What the steps of changes keep holds after every one of many changes. -/
theorem AllScopes.of_changes (hv : v.AllScopes p) {edits : List Edit}
    (hedits : ∀ edit ∈ edits, edit.Merges (AllScopes p)) : ∀ w ∈ edits.scanl Edit.apply v, w.AllScopes p := by
  induction edits generalizing v with
  | nil =>
    intro w hw
    rw [List.scanl_nil, List.mem_singleton] at hw
    exact hw ▸ hv
  | cons edit rest ih =>
    rw [List.forall_mem_cons] at hedits
    intro w hw
    rw [List.scanl_cons, List.mem_cons] at hw
    rcases hw with rfl | hw
    · exact hv
    · exact ih (hv.apply hp hedits.1) hedits.2 w hw

end AllScopes

theorem Accepted.isSettled_session (hv : v.Accepted) : v.session.IsSettled := by
  have hnormal := accepted_iff.1 hv
  exact (hnormal.1.merge hnormal.2).isSettled

/-- **No change makes an accepted value unacceptable**, nor is there anything left to negotiate about the session. -/
theorem accepted_of_changes (hv : v.Accepted) {edits : List Edit} (hedits : ∀ edit ∈ edits, edit.Merges Accepted) :
    ∀ w ∈ edits.scanl Edit.apply v, w.Accepted ∧ w.session.IsSettled := by
  intro w hw
  have hnormal (edit : Edit) (hedit : edit ∈ edits) : edit.Merges IsNormal :=
    (hedits edit hedit).imp fun _ => accepted_iff.1
  have hw : w.Accepted :=
    accepted_iff.2 (AllScopes.of_changes ScopeObject.keptByChanges_isNormalFor (accepted_iff.1 hv) hnormal w hw)
  exact ⟨hw, hw.isSettled_session⟩

/-- Neither the namespace nor the chain without a number is in the way. -/
theorem accepted_of_chain_changes :
    let v : CaveatValue := {
      required := .ofList [("wallet", {}), ("eip155:01", { methods := ["eth_call"] })]
      optional := .ofList [("eip155:1", { methods := ["eth_call"] }), ("eip155:10", {})] }
    let edits : List Edit := [.remove .scope "eip155:10", .addPermittedChain 137, .setPermittedChains [1, 5],
      .remove .scope "wallet", .merge v]
    (v.Accepted ∧ ∀ edit ∈ edits, edit.Merges Accepted) ∧
    (edits.scanl Edit.apply v).map (·.session.keys) = [
      ["eip155:01", "eip155:1", "eip155:10", "wallet"],
      ["eip155:01", "eip155:1", "wallet"],
      ["eip155:01", "eip155:1", "eip155:137", "wallet"],
      ["eip155:01", "eip155:1", "eip155:5", "wallet"],
      ["eip155:01", "eip155:1", "eip155:5", "wallet"],
      ["eip155:01", "eip155:1", "eip155:10", "eip155:5", "wallet"]] ∧
    ∀ w ∈ edits.scanl Edit.apply v, w.Accepted ∧ w.session.IsSettled := by
  intro v edits
  have hv : v.Accepted := accepted_iff.2 ⟨by decide +kernel, by decide +kernel⟩
  have hedits : ∀ edit ∈ edits, edit.Merges Accepted := by
    simp [edits, Edit.Merges, hv]
  exact ⟨⟨hv, hedits⟩, by decide +kernel, accepted_of_changes hv hedits⟩

end CaveatValue
end WalletSession
