import WalletSession.Proofs.Scope.Granted
import WalletSession.Proofs.Scope.RoundTrip

set_option autoImplicit false

/-! # What becomes of a valid declaration

Merging only ever adds to what a name is granted, so that whatever a declaration hands on arrives
(`ScopeMap.exists_flatten_covers`). A valid declaration is therefore granted to its own name or to every chain that
it names. The one that is granted to no one is that of a namespace with an empty list of chains: it is valid, but
leaving it out makes no difference (`ScopeMap.flatten_erase`). -/

namespace WalletSession

/-! ## Scope objects that list more -/

namespace ScopeObject

/-- `g` lists every method, notification and account that `o` lists. -/
structure Covers (g o : ScopeObject) : Prop where
  methods : o.methods ⊆ g.methods
  notifications : o.notifications ⊆ g.notifications
  accounts : o.accounts ⊆ g.accounts

theorem Covers.refl (o : ScopeObject) : o.Covers o := ⟨List.Subset.refl _, List.Subset.refl _, List.Subset.refl _⟩

theorem Covers.trans {a b c : ScopeObject} (hab : a.Covers b) (hbc : b.Covers c) : a.Covers c where
  methods := List.Subset.trans hbc.methods hab.methods
  notifications := List.Subset.trans hbc.notifications hab.notifications
  accounts := List.Subset.trans hbc.accounts hab.accounts

theorem subset_distinctUnion_left (a b : List String) : a ⊆ distinctUnion a b :=
  fun _ h => mem_distinctUnion.2 (Or.inl h)

theorem subset_distinctUnion_right (a b : List String) : b ⊆ distinctUnion a b :=
  fun _ h => mem_distinctUnion.2 (Or.inr h)

theorem merge_covers_left (a b : ScopeObject) : (a.merge b).Covers a where
  methods := subset_distinctUnion_left a.methods b.methods
  notifications := subset_distinctUnion_left a.notifications b.notifications
  accounts := subset_distinctUnion_left a.accounts b.accounts

theorem merge_covers_right (a b : ScopeObject) : (a.merge b).Covers b where
  methods := subset_distinctUnion_right a.methods b.methods
  notifications := subset_distinctUnion_right a.notifications b.notifications
  accounts := subset_distinctUnion_right a.accounts b.accounts

theorem foldl_merge_covers (first : ScopeObject) (rest : List ScopeObject) :
    (rest.foldl merge first).Covers first ∧ ∀ o ∈ rest, (rest.foldl merge first).Covers o := by
  induction rest generalizing first with
  | nil => exact ⟨.refl first, List.forall_mem_nil _⟩
  | cons next rest ih =>
    obtain ⟨hstart, hrest⟩ := ih (first.merge next)
    rw [List.foldl_cons, List.forall_mem_cons]
    exact ⟨hstart.trans (merge_covers_left first next), hstart.trans (merge_covers_right first next), hrest⟩

/-- What several scope objects grant together covers each of them. -/
theorem exists_mergeAll_covers {all : List ScopeObject} {o : ScopeObject} (h : o ∈ all) :
    ∃ g, mergeAll all = some g ∧ g.Covers o := by
  cases all with
  | nil => cases h
  | cons first rest =>
    obtain ⟨hfirst, hrest⟩ := foldl_merge_covers first rest
    refine ⟨_, rfl, ?_⟩
    rcases List.mem_cons.1 h with rfl | h
    · exact hfirst
    · exact hrest o h

/-! ## Declarations for no chain -/

/-- `o` is declared under a namespace, for an empty list of chains. -/
def NamesNoChain (o : ScopeObject) (name : String) : Prop := ScopeName.parse name = .bare name ∧ o.scopes = some []

theorem NamesNoChain.get?_flatten {o : ScopeObject} {name : String} (h : o.NamesNoChain name) (other : String) :
    (o.flatten name).get? other = none := by
  rw [get?_flatten_chains h.1 h.2, if_neg List.not_mem_nil]

end ScopeObject

/-! ## Flattened maps -/

namespace ScopeMap

variable {m : ScopeMap} {name other : String} {o g : ScopeObject}

/-- A name is granted all that a declaration hands on to it. -/
theorem exists_flatten_covers (ho : m.get? name = some o) (hg : (o.flatten name).get? other = some g) :
    ∃ granted, m.flatten.get? other = some granted ∧ granted.Covers g := by
  rw [get?_flatten]
  exact ScopeObject.exists_mergeAll_covers (List.mem_filterMap.2 ⟨(name, o), KeyMap.mem_toList.2 ho, hg⟩)

/-- Every chain that is named under a namespace is granted what is declared there. -/
theorem exists_flatten_covers_of_mem (ho : m.get? name = some o) (hname : ScopeName.parse name = .bare name)
    {chains : List String} (hchains : o.scopes = some chains) {chain : String} (hchain : chain ∈ chains) :
    ∃ granted, m.flatten.get? chain = some granted ∧ granted.Covers o := by
  have hg : (o.flatten name).get? chain = some { o with scopes := none } := by
    rw [ScopeObject.get?_flatten_chains hname hchains, if_pos hchain]
  obtain ⟨granted, hgranted, hcovers⟩ := exists_flatten_covers ho hg
  exact ⟨granted, hgranted, hcovers.methods, hcovers.notifications, hcovers.accounts⟩

/-- A valid declaration that is not for no chain is granted to some name of its namespace. -/
theorem exists_heir (hvalid : o.isValidFor name = true) (ho : m.get? name = some o) (hsome : ¬ o.NamesNoChain name) :
    ∃ heir granted, (ScopeName.parse heir).ns? = (ScopeName.parse name).ns? ∧
      m.flatten.get? heir = some granted ∧ granted.Covers o := by
  by_cases hitself : ScopeName.parse name ≠ .bare name ∨ o.scopes = none
  · have hg : (o.flatten name).get? name = some o := by
      rw [ScopeObject.get?_flatten_itself hitself, if_pos rfl]
    obtain ⟨granted, hgranted, hcovers⟩ := exists_flatten_covers ho hg
    exact ⟨name, granted, rfl, hgranted, hcovers⟩
  · rw [not_or, not_not] at hitself
    obtain ⟨hname, hlist⟩ := hitself
    obtain ⟨chains, hchains⟩ := Option.ne_none_iff_exists'.1 hlist
    -- The list is not empty, and its first chain is as good as any.
    cases chains with
    | nil => exact absurd ⟨hname, hchains⟩ hsome
    | cons chain rest =>
      have hchain : chain ∈ chain :: rest := List.mem_cons_self
      obtain ⟨c, hc, hns⟩ := ScopeObject.chain_of_mem_scopes hvalid hname hchains hchain
      obtain ⟨granted, hgranted, hcovers⟩ := exists_flatten_covers_of_mem ho hname hchains hchain
      refine ⟨chain, granted, ?_, hgranted, hcovers⟩
      rw [hc, hname, ScopeName.ns?, ScopeName.ns?, hns]

/-- What is declared for no chain may as well be left out. -/
theorem flatten_erase (h : ∀ o, m.get? name = some o → o.NamesNoChain name) :
    ScopeMap.flatten (m.erase name) = m.flatten := by
  refine KeyMap.ext_get? fun other => ?_
  rw [get?_flatten, get?_flatten, KeyMap.erase, KeyMap.toList_filter, List.filterMap_filter]
  congr 1
  refine List.filterMap_congr fun e he => ?_
  by_cases hname : e.1 = name
  · obtain ⟨_, o⟩ := e
    subst hname
    simpa using ((h o (KeyMap.mem_toList.1 he)).get?_flatten other).symm
  · simp [hname]

theorem allValid_valid (m : ScopeMap) : m.valid.AllValid := by
  rw [← valid_toRaw]
  exact m.toRaw.allValid_valid

theorem get?_valid_eq_some_iff : m.valid.get? name = some o ↔ m.get? name = some o ∧ o.isValidFor name = true := by
  rw [get?_valid, Option.filter_eq_some_iff]

theorem valid_erase (m : ScopeMap) (name : String) : ScopeMap.valid (m.erase name) = m.valid.erase name := by
  refine KeyMap.ext_get? fun other => ?_
  rw [get?_valid, KeyMap.get?_erase, KeyMap.get?_erase, get?_valid]
  split <;> rfl

end ScopeMap

theorem RawScopes.valid_erase (raw : RawScopes) (name : String) : valid (raw.erase name) = raw.valid.erase name := by
  refine KeyMap.ext_get? fun other => ?_
  rw [get?_valid, KeyMap.get?_erase, KeyMap.get?_erase, get?_valid]
  split <;> rfl

/-! ## Negotiation -/

/-- What becomes of valid declarations: `declares` says which there are, `granted` is what is granted, and `without`
what would be granted without the entry of a name. -/
structure Accounted (declares : String → ScopeObject → Prop) (granted : ScopeMap) (without : String → ScopeMap) :
    Prop where
  /-- Every declaration is granted to a name of its namespace, unless it is for no chain. -/
  granted_to_heir : ∀ name o, declares name o → ¬ o.NamesNoChain name →
    ∃ heir g, (ScopeName.parse heir).ns? = (ScopeName.parse name).ns? ∧ granted.get? heir = some g ∧ g.Covers o
  /-- If it names chains under a namespace, it is granted to all of them. -/
  granted_to_chains : ∀ name o chains, declares name o → ScopeName.parse name = .bare name → o.scopes = some chains →
    ∀ chain ∈ chains, ∃ g, granted.get? chain = some g ∧ g.Covers o
  /-- An entry that is no declaration, or one for no chain, makes no difference. -/
  lost : ∀ name, (∀ o, declares name o → o.NamesNoChain name) → without name = granted

theorem ScopeMap.AllValid.accounted {m : ScopeMap} (hm : m.AllValid) :
    Accounted (fun name o => m.get? name = some o) m.flatten fun name => flatten (m.erase name) where
  granted_to_heir name o ho hsome := exists_heir (hm name o ho) ho hsome
  granted_to_chains _ _ _ ho hname hchains _ hchain := exists_flatten_covers_of_mem ho hname hchains hchain
  lost _ h := flatten_erase h

theorem RawScopes.accounted_valid (raw : RawScopes) :
    Accounted raw.Declares raw.valid.flatten fun name => (valid (raw.erase name)).flatten := by
  have h := raw.allValid_valid.accounted
  simp only [get?_valid_eq_some_iff] at h
  simpa only [valid_erase] using h

theorem ScopeMap.accounted_valid (m : ScopeMap) :
    Accounted (fun name o => m.get? name = some o ∧ o.isValidFor name = true) m.valid.flatten
      fun name => (valid (m.erase name)).flatten := by
  have h := m.allValid_valid.accounted
  simp only [get?_valid_eq_some_iff] at h
  simpa only [valid_erase] using h

/-- Both sides without what is there under a name. -/
def ScopeSides.without {α : Type} (sides : ScopeSides (KeyMap α)) (name : String) : ScopeSides (KeyMap α) :=
  ⟨sides.required.erase name, sides.optional.erase name⟩

/-- **A valid declaration is granted, unless it is for no chain**, on each side by itself, whether declarations are
received or are scope objects already. -/
theorem valid_declarations_accounted (raw : ScopeSides RawScopes) (sides : ScopeSides ScopeMap) :
    (Accounted raw.required.Declares raw.negotiate.required (fun name => (raw.without name).negotiate.required) ∧
      Accounted raw.optional.Declares raw.negotiate.optional fun name => (raw.without name).negotiate.optional) ∧
    Accounted (fun name o => sides.required.get? name = some o ∧ o.isValidFor name = true)
      sides.renegotiate.required (fun name => (sides.without name).renegotiate.required) ∧
    Accounted (fun name o => sides.optional.get? name = some o ∧ o.isValidFor name = true)
      sides.renegotiate.optional fun name => (sides.without name).renegotiate.optional :=
  ⟨⟨raw.required.accounted_valid, raw.optional.accounted_valid⟩,
    sides.required.accounted_valid, sides.optional.accounted_valid⟩

/-- A valid declaration under a namespace that lists no chains is lost, and its methods with it. -/
theorem valid_declaration_lost :
    let declared : Json := .object
      [("scopes", .array []), ("methods", .array [.string "eth_call"]), ("notifications", .array [])]
    let raw : ScopeSides RawScopes := ⟨.ofList [("eip155", declared)], .empty⟩
    isValidDeclaration "eip155" declared = true ∧ raw.negotiate.required = .empty := by
  decide +kernel

end WalletSession
