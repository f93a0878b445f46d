import WalletSession.Caveat.PermittedChains
import WalletSession.Proofs.Caveat.EthAccounts

set_option autoImplicit false

/-! # Granting and restricting chains

A chain that is granted gets an optional scope with the accounts of the value, unless it has a scope already. One such
step adds at most one entry (`CaveatValue.extends_grantChain`), so a row of them adds one entry for every new chain,
whatever the order (`CaveatValue.extends_foldl`). The new entries list the accounts that are there, so the accounts
stay as they are, in the same order (`CaveatValue.addPermittedChain_keeps_accounts`). To restrict a value to some chains
is to drop the scopes of the others first (`CaveatValue.setPermittedChains_exact`). -/

namespace WalletSession

/-! ## The scope of a new chain -/

/-- The scope object that grants some addresses under a scope name, and nothing else. -/
def ScopeObject.ofAddresses (addresses : List Address) (name : String) : ScopeObject :=
  { accounts := accountIds name addresses }

/-- `o` asks for nothing and lists some addresses, in order, as accounts of the chain `name`. -/
structure ScopeObject.ListsOnly (o : ScopeObject) (name : String) (addresses : List Address) : Prop where
  methods_eq : o.methods = []
  notifications_eq : o.notifications = []
  accounts_eq : o.accounts = addresses.map fun a => name ++ ":" ++ a.text
  /-- Every account id is read as it was written. -/
  reads : o.accounts.map (fun account => (AccountId.parse account).toOption.map fun id =>
    (id.chain.text, Address.parse? id.address)) = addresses.map fun a => some (name, some a)

theorem ScopeObject.listsOnly_ofAddresses (addresses : List Address) (n : ChainNumber) :
    (ofAddresses addresses (Eip155.chainId n).text).ListsOnly (Eip155.chainId n).text addresses where
  methods_eq := rfl
  notifications_eq := rfl
  accounts_eq := rfl
  reads := by
    rw [ofAddresses, accountIds, List.map_map]
    refine List.map_congr_left fun a _ => ?_
    rw [Function.comp_apply, AccountId.parse_eq_ok_iff_parse?.2 (parse?_accountId n a)]
    simp only [Except.toOption, Option.map_some, Address.parse?_text]

/-- The scope is no other eip155 chain than one of `chains`. -/
def StaysWith (chains : List ChainNumber) (name : String) : Prop :=
  ∀ n : ChainNumber, name = "eip155:" ++ Nat.repr n.toNat → n ∈ chains

theorem all_contains_iff {chains : List ChainNumber} {name : String} :
    (ScopeName.parse name).eip155?.all chains.contains = true ↔ StaysWith chains name := by
  have hnumber (n : ChainNumber) : name = "eip155:" ++ Nat.repr n.toNat ↔ (ScopeName.parse name).eip155? = some n := by
    rw [ScopeName.eip155?_eq_some_iff, Eip155.text_chainId]
  simp only [StaysWith, hnumber, Option.all_eq_true, List.contains_iff_mem]

theorem staysWith_chainId {chains : List ChainNumber} {n : ChainNumber} :
    StaysWith chains (Eip155.chainId n).text ↔ n ∈ chains := by
  rw [← all_contains_iff, ScopeName.eip155?_eq_some_iff.2 rfl, Option.all_some, List.contains_iff_mem]

namespace CaveatValue

variable {v w : CaveatValue} {accounts : List Address} {chains more : List ChainNumber} {n : ChainNumber}

/-! ## Permitted chains -/

theorem mem_scopes_iff {name : String} {o : ScopeObject} :
    (name, o) ∈ v.scopes ↔ v.required.get? name = some o ∨ v.optional.get? name = some o := by
  rw [scopes, List.mem_append, KeyMap.mem_toList, KeyMap.mem_toList]

theorem contains_eq_false_iff {name : String} :
    v.contains name = false ↔ v.required.get? name = none ∧ v.optional.get? name = none := by
  rw [contains, Bool.or_eq_false_iff, KeyMap.contains_eq_false_iff, KeyMap.contains_eq_false_iff]

/-- A chain is permitted if it has a scope of its own. -/
theorem nodup_permittedChains (v : CaveatValue) : v.permittedChains.Nodup := nodup_eraseDups _

theorem mem_permittedChains_iff : n ∈ v.permittedChains ↔ v.contains (Eip155.chainId n).text = true := by
  simp only [permittedChains, List.mem_eraseDups, List.mem_filterMap, ScopeName.eip155?_eq_some_iff, contains_iff,
    Prod.exists]
  constructor
  · rintro ⟨name, o, ho, rfl⟩
    exact ⟨o, ho⟩
  · rintro ⟨o, ho⟩
    exact ⟨_, o, ho, rfl⟩

/-! ## One more chain -/

theorem grantChain_of_contains (h : v.contains (Eip155.chainId n).text = true) : v.grantChain accounts n = v := by
  simp only [grantChain, h, if_true]

theorem grantChain_of_not_contains (h : v.contains (Eip155.chainId n).text = false) :
    v.grantChain accounts n =
      { v with optional := v.optional.insert (Eip155.chainId n).text (.ofAddresses accounts (Eip155.chainId n).text) } := by
  simp only [grantChain, h, Bool.false_eq_true, if_false]
  rfl

/-- A chain granted with the accounts of the value leaves them as they are, in the same order. -/
theorem ethAccounts_addPermittedChain (n : ChainNumber) (v : CaveatValue) :
    (v.addPermittedChain n).ethAccounts = v.ethAccounts := by
  rw [addPermittedChain]
  cases h : v.contains (Eip155.chainId n).text with
  | true => rw [grantChain_of_contains h]
  | false =>
    rw [grantChain_of_not_contains h]
    exact ethAccounts_insert_optional (contains_eq_false_iff.1 h).2 (ScopeObject.ethAccounts_accountIds n _)

/-! ## A row of chains -/

/-- `w` is `v` with the scopes of some chains, each with the same accounts unless `v` has the scope already. -/
structure Extends (accounts : List Address) (chains : List ChainNumber) (v w : CaveatValue) : Prop where
  sessionProperties_eq : w.sessionProperties = v.sessionProperties
  required_eq : w.required = v.required
  get?_optional : ∀ name, w.optional.get? name =
    if v.contains name = false ∧ ∃ n ∈ chains, name = (Eip155.chainId n).text then some (.ofAddresses accounts name)
    else v.optional.get? name

namespace Extends

theorem contains_iff (h : Extends accounts chains v w) {name : String} : w.contains name = true ↔
    v.contains name = true ∨ ∃ n ∈ chains, name = (Eip155.chainId n).text := by
  cases hv : v.contains name with
  | true =>
    have hold := h.get?_optional name
    simp only [hv, Bool.true_eq_false, false_and, if_false] at hold
    simp only [contains, KeyMap.contains, h.required_eq, hold, true_or, iff_true]
    exact hv
  | false =>
    have hnew := h.get?_optional name
    obtain ⟨hrequired, hoptional⟩ := contains_eq_false_iff.1 hv
    simp only [hv, true_and, hoptional] at hnew
    simp only [contains, KeyMap.contains, h.required_eq, hrequired, hnew, Bool.false_eq_true, false_or]
    split <;> simp_all

theorem mem_permittedChains_iff (h : Extends accounts chains v w) :
    n ∈ w.permittedChains ↔ n ∈ v.permittedChains ∨ n ∈ chains := by
  have hchain (m : ChainNumber) : (Eip155.chainId n).text = (Eip155.chainId m).text ↔ n = m := by
    rw [← ScopeName.eip155?_eq_some_iff, ScopeName.eip155?_eq_some_iff.2 rfl, Option.some.injEq]
  rw [CaveatValue.mem_permittedChains_iff, h.contains_iff, CaveatValue.mem_permittedChains_iff]
  simp only [hchain, exists_eq_right']

/-- Chains that are there already change nothing. -/
theorem refl (h : ∀ n ∈ chains, v.contains (Eip155.chainId n).text = true) : Extends accounts chains v v where
  sessionProperties_eq := rfl
  required_eq := rfl
  get?_optional name := by
    rw [if_neg]
    rintro ⟨hnew, n, hn, rfl⟩
    rw [h n hn] at hnew
    cases hnew

/-- One row after the other. -/
theorem trans {u : CaveatValue} (h : Extends accounts chains v u) (h' : Extends accounts more u w) :
    Extends accounts (chains ++ more) v w where
  sessionProperties_eq := h'.sessionProperties_eq.trans h.sessionProperties_eq
  required_eq := h'.required_eq.trans h.required_eq
  get?_optional name := by
    have hu : u.contains name = false ↔
        v.contains name = false ∧ ¬ ∃ n ∈ chains, name = (Eip155.chainId n).text := by
      rw [← Bool.not_eq_true, h.contains_iff, not_or, Bool.not_eq_true]
    have hboth : (∃ n ∈ chains ++ more, name = (Eip155.chainId n).text) ↔
        (∃ n ∈ chains, name = (Eip155.chainId n).text) ∨ ∃ n ∈ more, name = (Eip155.chainId n).text := by
      simp only [List.mem_append, or_and_right, exists_or]
    rw [h'.get?_optional, h.get?_optional]
    simp only [hu, hboth]
    by_cases hearly : ∃ n ∈ chains, name = (Eip155.chainId n).text
    · simp only [hearly, not_true_eq_false, and_false, false_and, if_false, true_or]
    · simp only [hearly, not_false_eq_true, and_true, and_false, if_false, false_or]

/-- What a row of chains comes to depends on which chains there are. -/
theorem unique {w' : CaveatValue} (h : Extends accounts chains v w) (h' : Extends accounts more v w')
    (hsame : ∀ n, n ∈ chains ↔ n ∈ more) : w = w' := by
  have hoptional : w.optional = w'.optional := KeyMap.ext_get? fun name => by
    rw [h.get?_optional, h'.get?_optional]
    simp only [hsame]
  obtain ⟨⟨required, optional⟩, sessionProperties⟩ := w
  obtain ⟨⟨required', optional'⟩, sessionProperties'⟩ := w'
  have hrequired : required = required' := h.required_eq.trans h'.required_eq.symm
  have hsession : sessionProperties = sessionProperties' := h.sessionProperties_eq.trans h'.sessionProperties_eq.symm
  cases hrequired
  cases hsession
  cases hoptional
  rfl

end Extends

theorem extends_grantChain (accounts : List Address) (n : ChainNumber) (v : CaveatValue) :
    Extends accounts [n] v (v.grantChain accounts n) := by
  cases h : v.contains (Eip155.chainId n).text with
  | true =>
    rw [grantChain_of_contains h]
    exact .refl fun m hm => by rw [List.mem_singleton.1 hm, h]
  | false =>
    rw [grantChain_of_not_contains h]
    refine ⟨rfl, rfl, fun name => ?_⟩
    rw [KeyMap.get?_insert]
    by_cases hname : name = (Eip155.chainId n).text
    · subst hname
      simp [h]
    · simp [hname, Ne.symm hname]

/-- A row of chains adds one entry for every chain that is new. -/
theorem extends_foldl (accounts : List Address) (chains : List ChainNumber) (v : CaveatValue) :
    Extends accounts chains v (chains.foldl (·.grantChain accounts) v) := by
  induction chains generalizing v with
  | nil => exact .refl fun n hn => absurd hn List.not_mem_nil
  | cons n rest ih => exact (extends_grantChain accounts n v).trans (ih (v.grantChain accounts n))

/-- Two chains may be granted in either order. -/
theorem grantChain_comm (accounts : List Address) (m n : ChainNumber) (v : CaveatValue) :
    (v.grantChain accounts m).grantChain accounts n = (v.grantChain accounts n).grantChain accounts m :=
  (extends_foldl accounts [m, n] v).unique (extends_foldl accounts [n, m] v) fun k => by
    rw [List.mem_pair, List.mem_pair, or_comm]

/-- **A chain that is granted gets the accounts that are there, and nothing else changes.** -/
theorem addPermittedChain_keeps_accounts (v : CaveatValue) (n : ChainNumber) :
    (n ∈ v.permittedChains → v.addPermittedChain n = v) ∧
    (n ∉ v.permittedChains → ∃ o : ScopeObject,
      v.contains ("eip155:" ++ Nat.repr n.toNat) = false ∧
      v.addPermittedChain n = { v with optional := v.optional.insert ("eip155:" ++ Nat.repr n.toNat) o } ∧
      (∀ m, m ∈ (v.addPermittedChain n).permittedChains ↔ m ∈ v.permittedChains ∨ m = n) ∧
      (v.addPermittedChain n).ethAccounts = v.ethAccounts ∧
      ethAccounts { required := .empty, optional := .ofList [("eip155:" ++ Nat.repr n.toNat, o)] } = v.ethAccounts) ∧
    ∀ m, (v.addPermittedChain m).addPermittedChain n = (v.addPermittedChain n).addPermittedChain m := by
  refine ⟨fun h => ?_, fun h => ?_, fun m => ?_⟩
  · exact grantChain_of_contains (mem_permittedChains_iff.1 h)
  · rw [mem_permittedChains_iff, Bool.not_eq_true] at h
    refine ⟨.ofAddresses v.ethAccounts (Eip155.chainId n).text, ?_⟩
    rw [← Eip155.text_chainId]
    refine ⟨h, grantChain_of_not_contains h, fun m => ?_, ethAccounts_addPermittedChain n v, ?_⟩
    · rw [addPermittedChain, (extends_grantChain _ n v).mem_permittedChains_iff, List.mem_singleton]
    · have hlist : (KeyMap.ofList [((Eip155.chainId n).text,
          ScopeObject.ofAddresses v.ethAccounts (Eip155.chainId n).text)]).toList =
          [((Eip155.chainId n).text, ScopeObject.ofAddresses v.ethAccounts (Eip155.chainId n).text)] := rfl
      rw [ethAccounts_eq, scopes, hlist]
      show (List.flatMap _ [_]).eraseDups = _
      rw [List.flatMap_singleton, ScopeObject.ofAddresses, ScopeObject.ethAccounts_accountIds,
        eraseDups_eq_self v.nodup_ethAccounts]
  · have haccounts (k : ChainNumber) (u : CaveatValue) (hu : u.ethAccounts = v.ethAccounts) :
        u.addPermittedChain k = u.grantChain v.ethAccounts k := by rw [addPermittedChain, hu]
    rw [haccounts n _ (ethAccounts_addPermittedChain m v), haccounts m _ (ethAccounts_addPermittedChain n v),
      haccounts m v rfl, haccounts n v rfl, grantChain_comm]

/-! ## A value restricted to some chains -/

theorem filterScopes_eq_self {p : String → Bool} (h : ∀ name, v.contains name = true → p name = true) :
    v.filterScopes p = v := by
  have hside (m : ScopeMap) (hm : ∀ name, m.contains name = true → v.contains name = true) :
      (m.filter fun name _ => p name) = m :=
    KeyMap.filter_eq_self fun name o ho => h name (hm name (KeyMap.contains_iff_exists.2 ⟨o, ho⟩))
  rw [filterScopes, hside v.required fun name hname => by rw [contains, hname, Bool.true_or],
    hside v.optional fun name hname => by rw [contains, hname, Bool.or_true]]

/-- What is left of a value that is restricted to some chains, before new ones are added. -/
def keepingChains (chains : List ChainNumber) (v : CaveatValue) : CaveatValue :=
  v.filterScopes fun name => (ScopeName.parse name).eip155?.all chains.contains

theorem get?_required_keepingChains {name : String} {o : ScopeObject} :
    (v.keepingChains chains).required.get? name = some o ↔ v.required.get? name = some o ∧ StaysWith chains name := by
  rw [keepingChains, filterScopes, KeyMap.get?_filter, Option.filter_eq_some_iff, all_contains_iff]

theorem get?_optional_keepingChains {name : String} {o : ScopeObject} :
    (v.keepingChains chains).optional.get? name = some o ↔ v.optional.get? name = some o ∧ StaysWith chains name := by
  rw [keepingChains, filterScopes, KeyMap.get?_filter, Option.filter_eq_some_iff, all_contains_iff]

theorem contains_keepingChains {name : String} :
    (v.keepingChains chains).contains name = true ↔ v.contains name = true ∧ StaysWith chains name := by
  simp only [contains_iff, mem_scopes_iff, get?_required_keepingChains, get?_optional_keepingChains, ← or_and_right,
    exists_and_right]

theorem mem_permittedChains_keepingChains :
    n ∈ (v.keepingChains chains).permittedChains ↔ n ∈ v.permittedChains ∧ n ∈ chains := by
  rw [mem_permittedChains_iff, mem_permittedChains_iff, contains_keepingChains, staysWith_chainId]

theorem extends_setPermittedChains (chains : List ChainNumber) (v : CaveatValue) :
    Extends v.ethAccounts chains (v.keepingChains chains) (v.setPermittedChains chains) :=
  extends_foldl v.ethAccounts chains (v.keepingChains chains)

theorem mem_permittedChains_setPermittedChains : n ∈ (v.setPermittedChains chains).permittedChains ↔ n ∈ chains := by
  rw [(extends_setPermittedChains chains v).mem_permittedChains_iff, mem_permittedChains_keepingChains]
  exact or_iff_right_of_imp And.right

/-- A required scope of the restricted value was required before. -/
theorem get?_required_setPermittedChains {name : String} {o : ScopeObject} :
    (v.setPermittedChains chains).required.get? name = some o ↔
      v.required.get? name = some o ∧ StaysWith chains name := by
  rw [(extends_setPermittedChains chains v).required_eq, get?_required_keepingChains]

/-- An optional scope of the restricted value was there before, or it is the scope of a new chain. -/
theorem get?_optional_setPermittedChains {name : String} {o : ScopeObject} :
    (v.setPermittedChains chains).optional.get? name = some o ↔
      v.optional.get? name = some o ∧ StaysWith chains name ∨
      v.contains name = false ∧ (∃ n ∈ chains, name = (Eip155.chainId n).text) ∧ .ofAddresses v.ethAccounts name = o := by
  -- The scope of a chain that is permitted is kept, so it is new exactly if it was not there.
  have hnew : (v.keepingChains chains).contains name = false ∧ (∃ n ∈ chains, name = (Eip155.chainId n).text) ↔
      v.contains name = false ∧ ∃ n ∈ chains, name = (Eip155.chainId n).text := by
    refine and_congr_left ?_
    rintro ⟨n, hn, rfl⟩
    rw [← Bool.not_eq_true, ← Bool.not_eq_true, contains_keepingChains, staysWith_chainId, and_iff_left hn]
  rw [(extends_setPermittedChains chains v).get?_optional]
  simp only [hnew]
  split
  · next h =>
    have hnone := (contains_eq_false_iff.1 h.1).2
    simp [h, hnone]
  · next h =>
    rw [get?_optional_keepingChains]
    refine (or_iff_left ?_).symm
    rintro ⟨hno, hchain, -⟩
    exact h ⟨hno, hchain⟩

/-- A value that permits some chains is not changed when it is restricted to them. -/
theorem setPermittedChains_eq_self (h : ∀ n, n ∈ v.permittedChains ↔ n ∈ chains) : v.setPermittedChains chains = v := by
  have hkept : v.keepingChains chains = v := by
    refine filterScopes_eq_self fun name hname => all_contains_iff.2 ?_
    rintro n rfl
    rw [← Eip155.text_chainId] at hname
    exact (h n).1 (mem_permittedChains_iff.2 hname)
  have hextends := extends_setPermittedChains chains v
  rw [hkept] at hextends
  exact hextends.unique (.refl fun n hn => mem_permittedChains_iff.1 ((h n).2 hn)) fun _ => Iff.rfl

theorem setPermittedChains_congr (h : ∀ n, n ∈ chains ↔ n ∈ more) :
    v.setPermittedChains chains = v.setPermittedChains more := by
  have hcontains : chains.contains = more.contains := by
    funext n
    rw [Bool.eq_iff_iff, List.contains_iff_mem, List.contains_iff_mem, h]
  have hkept : v.keepingChains chains = v.keepingChains more := by rw [keepingChains, keepingChains, hcontains]
  have hextends := extends_setPermittedChains chains v
  rw [hkept] at hextends
  exact hextends.unique (extends_setPermittedChains more v) h

theorem mem_ethAccounts_of_setPermittedChains {a : Address} (h : a ∈ (v.setPermittedChains chains).ethAccounts) :
    a ∈ v.ethAccounts := by
  obtain ⟨name, o, ho, heth, account, haccount, ha⟩ := mem_ethAccounts_iff.1 h
  rw [mem_scopes_iff, get?_required_setPermittedChains, get?_optional_setPermittedChains] at ho
  rcases ho with ⟨ho, -⟩ | ⟨ho, -⟩ | ⟨-, ⟨n, -, rfl⟩, rfl⟩
  · exact mem_ethAccounts_iff.2 ⟨name, o, mem_scopes_iff.2 (.inl ho), heth, account, haccount, ha⟩
  · exact mem_ethAccounts_iff.2 ⟨name, o, mem_scopes_iff.2 (.inr ho), heth, account, haccount, ha⟩
  · have hlisted := ScopeObject.ethAccounts_accountIds n v.ethAccounts
    rw [ScopeObject.ethAccounts, if_pos heth] at hlisted
    rw [← hlisted]
    exact List.mem_filterMap.2 ⟨account, haccount, ha⟩

/-- The scope of a new chain has all accounts. -/
theorem mem_ethAccounts_setPermittedChains {a : Address} (hn : n ∈ chains) (hnew : n ∉ v.permittedChains)
    (ha : a ∈ v.ethAccounts) : a ∈ (v.setPermittedChains chains).ethAccounts := by
  rw [mem_permittedChains_iff, Bool.not_eq_true] at hnew
  have hgranted := get?_optional_setPermittedChains.2 (.inr ⟨hnew, ⟨n, hn, rfl⟩, rfl⟩)
  refine mem_ethAccounts_iff.2 ⟨_, _, mem_scopes_iff.2 (.inr hgranted), isEthScope_chainId n, _, ?_,
    ethAddress?_accountId (isEthScope_chainId n) a⟩
  exact List.mem_map.2 ⟨a, ha, rfl⟩

/-- **A value restricted to some chains permits these chains.** What does not belong to another chain stays where it
is, and the chains that are new get the accounts that were there before, and nothing else. -/
theorem setPermittedChains_exact (v : CaveatValue) (chains : List ChainNumber) :
    let u := v.setPermittedChains chains
    (u.permittedChains.Nodup ∧ ∀ n, n ∈ u.permittedChains ↔ n ∈ chains) ∧
    u.sessionProperties = v.sessionProperties ∧
    (∀ name, StaysWith chains name → ∀ o,
      (v.required.get? name = some o → u.required.get? name = some o) ∧
      (v.optional.get? name = some o → u.optional.get? name = some o)) ∧
    (∀ name o, u.required.get? name = some o → v.required.get? name = some o) ∧
    (∀ name o, u.optional.get? name = some o → v.optional.get? name ≠ some o → o.ListsOnly name v.ethAccounts) ∧
    (∀ a ∈ u.ethAccounts, a ∈ v.ethAccounts) ∧
    ((∃ n ∈ chains, n ∉ v.permittedChains) → ∀ a ∈ v.ethAccounts, a ∈ u.ethAccounts) ∧
    u.setPermittedChains chains = u ∧
    ∀ more, (∀ n, n ∈ chains ↔ n ∈ more) → v.setPermittedChains more = u := by
  intro u
  refine ⟨⟨nodup_eraseDups _, fun n => mem_permittedChains_setPermittedChains⟩,
    (extends_setPermittedChains chains v).sessionProperties_eq, fun name hstays o => ⟨fun ho => ?_, fun ho => ?_⟩,
    fun name o ho => ?_, fun name o ho hnew => ?_, fun a ha => mem_ethAccounts_of_setPermittedChains ha,
    fun ⟨n, hn, hnew⟩ a ha => mem_ethAccounts_setPermittedChains hn hnew ha,
    setPermittedChains_eq_self fun n => mem_permittedChains_setPermittedChains,
    fun more hsame => (setPermittedChains_congr hsame).symm⟩
  · exact get?_required_setPermittedChains.2 ⟨ho, hstays⟩
  · exact get?_optional_setPermittedChains.2 (.inl ⟨ho, hstays⟩)
  · exact (get?_required_setPermittedChains.1 ho).1
  · rcases get?_optional_setPermittedChains.1 ho with ⟨hold, -⟩ | ⟨-, ⟨n, -, rfl⟩, rfl⟩
    · exact absurd hold hnew
    · exact ScopeObject.listsOnly_ofAddresses v.ethAccounts n

end CaveatValue
end WalletSession
