import WalletSession.Proofs.Scope.Flatten

set_option autoImplicit false

/-! # What a negotiation grants

A declaration that is received and valid contributes to its own name, if that is a chain or if it names no
chains, and otherwise to the chains it names. `Grants` says, from the received declarations alone, which names
are granted and with which lists; `negotiate_grants` is the statement that negotiation grants exactly that, on
each side by itself. -/

namespace WalletSession
namespace RawScopes

/-! ## Contributions -/

/-- `o` is received under `name` and is a valid declaration for it. -/
def Declares (raw : RawScopes) (name : String) (o : ScopeObject) : Prop :=
  ∃ v, raw.get? name = some v ∧ ScopeObject.decode v = .ok o ∧ o.isValidFor name = true

/-- `o` is declared under `name` and stays there: `name` is a chain, or `o` has no list of chains. -/
def Keeps (raw : RawScopes) (name : String) (o : ScopeObject) : Prop :=
  raw.Declares name o ∧ ((∃ c, ScopeName.parse name = .chain c) ∨ o.scopes = none)

/-- `o` is declared under the namespace of the chain `name`, and its list of chains has `name`. -/
def HandsOn (raw : RawScopes) (name : String) (o : ScopeObject) : Prop :=
  ∃ c chains, ScopeName.parse name = .chain c ∧ raw.Declares c.ns o ∧ o.scopes = some chains ∧ name ∈ chains

/-- `o` is a declaration that `name` gets something from. -/
def Contributes (raw : RawScopes) (name : String) (o : ScopeObject) : Prop :=
  raw.Keeps name o ∨ raw.HandsOn name o

variable {raw : RawScopes} {name : String} {o o' : ScopeObject}

theorem get?_valid_eq_some_iff : raw.valid.get? name = some o ↔ raw.Declares name o := by
  rw [get?_valid]
  simp only [Declares, ScopeObject.validOfJson?, ScopeObject.ofJson?, Option.bind_eq_some_iff,
    Option.filter_eq_some_iff]
  constructor
  · rintro ⟨v, hv, hdecode, hvalid⟩
    refine ⟨v, hv, ?_, hvalid⟩
    cases hd : ScopeObject.decode v with
    | error e => simp [hd, Except.toOption] at hdecode
    | ok o' => simpa [hd, Except.toOption] using hdecode
  · rintro ⟨v, hv, hdecode, hvalid⟩
    exact ⟨v, hv, by simp [hdecode, Except.toOption], hvalid⟩

theorem allValid_valid (raw : RawScopes) : ScopeMap.AllValid raw.valid := by
  intro name o h
  obtain ⟨_, _, _, hvalid⟩ := get?_valid_eq_some_iff.1 h
  exact hvalid

theorem Declares.unique (h : raw.Declares name o) (h' : raw.Declares name o') : o = o' := by
  rw [← get?_valid_eq_some_iff] at h h'
  exact Option.some.inj (h.symm.trans h')

theorem HandsOn.unique (h : raw.HandsOn name o) (h' : raw.HandsOn name o') : o = o' := by
  obtain ⟨c, _, hc, ho, _⟩ := h
  obtain ⟨c', _, hc', ho', _⟩ := h'
  rw [hc] at hc'
  cases hc'
  exact ho.unique ho'

theorem keeps_iff_of_chain {c : ChainId} (hname : ScopeName.parse name = .chain c) :
    raw.Keeps name o ↔ raw.valid.get? name = some o := by
  rw [get?_valid_eq_some_iff]
  exact ⟨fun h => h.1, fun h => ⟨h, Or.inl ⟨c, hname⟩⟩⟩

/-- What the namespace of a chain hands on to it. -/
theorem handed_eq_some_iff {c : ChainId} (hname : ScopeName.parse name = .chain c) {g : ScopeObject} :
    ((raw.valid.get? c.ns).bind fun o => (o.flatten c.ns).get? name) = some g ↔
      ∃ o, raw.HandsOn name o ∧ g = { o with scopes := none } := by
  have hns : ScopeName.parse c.ns = .bare c.ns := ScopeName.parse_ns hname
  rw [Option.bind_eq_some_iff]
  constructor
  · rintro ⟨o, ho, hg⟩
    rw [get?_valid_eq_some_iff] at ho
    cases hscopes : o.scopes with
    | none =>
      rw [ScopeObject.get?_flatten_itself (Or.inr hscopes)] at hg
      simp [String.ne_of_lt (ScopeName.ns_lt hname)] at hg
    | some chains =>
      rw [ScopeObject.get?_flatten_chains hns hscopes] at hg
      split at hg
      · next hmem =>
        cases hg
        exact ⟨o, ⟨c, chains, hname, ho, hscopes, hmem⟩, rfl⟩
      · cases hg
  · rintro ⟨o, ⟨c', chains, hc', ho, hscopes, hmem⟩, rfl⟩
    rw [hname] at hc'
    cases hc'
    refine ⟨o, get?_valid_eq_some_iff.2 ho, ?_⟩
    rw [ScopeObject.get?_flatten_chains hns hscopes, if_pos hmem]

/-! ## What a name is granted -/

/-- What those who contribute to `name` grant it. -/
inductive Share (raw : RawScopes) (name : String) : Option ScopeObject → Prop where
  /-- The namespace comes first, the chain's own declaration second. -/
  | both {n o : ScopeObject} (hn : raw.HandsOn name n) (ho : raw.Keeps name o) :
      Share raw name (some (ScopeObject.merge { n with scopes := none } o))
  | handed {n : ScopeObject} (hn : raw.HandsOn name n) (ho : ∀ o, ¬ raw.Keeps name o) :
      Share raw name (some { n with scopes := none })
  | kept {o : ScopeObject} (ho : raw.Keeps name o) (hn : ∀ n, ¬ raw.HandsOn name n) :
      Share raw name (some o)
  | nothing (h : ∀ o, ¬ raw.Contributes name o) : Share raw name none

theorem share_flatten_of_chain {c : ChainId} (hname : ScopeName.parse name = .chain c) :
    raw.Share name (raw.valid.flatten.get? name) := by
  have hkeeps : ∀ o, raw.Keeps name o ↔ raw.valid.get? name = some o := fun o => keeps_iff_of_chain hname
  have hhands : ∀ g, ((raw.valid.get? c.ns).bind fun o => (o.flatten c.ns).get? name) = some g ↔
      ∃ o, raw.HandsOn name o ∧ g = { o with scopes := none } := fun g => handed_eq_some_iff hname
  rw [ScopeMap.get?_flatten_chain raw.allValid_valid hname]
  -- Four cases: the namespace hands something on or not, and the chain declares something itself or not.
  cases hn : (raw.valid.get? c.ns).bind fun o => (o.flatten c.ns).get? name with
  | none =>
    have hnone : ∀ n, ¬ raw.HandsOn name n := fun n hn' => by
      have := (hhands _).2 ⟨n, hn', rfl⟩
      rw [hn] at this
      cases this
    cases ho : raw.valid.get? name with
    | none =>
      refine .nothing fun o hcontrib => ?_
      rcases hcontrib with hkept | hhanded
      · rw [hkeeps, ho] at hkept
        cases hkept
      · exact hnone o hhanded
    | some o => exact .kept ((hkeeps o).2 ho) hnone
  | some g =>
    obtain ⟨n, hhanded, rfl⟩ := (hhands g).1 hn
    cases ho : raw.valid.get? name with
    | none =>
      refine .handed hhanded fun o hkept => ?_
      rw [hkeeps, ho] at hkept
      cases hkept
    | some o => exact .both hhanded ((hkeeps o).2 ho)

theorem share_flatten_of_not_chain (hname : ∀ c, ScopeName.parse name ≠ .chain c) :
    raw.Share name (raw.valid.flatten.get? name) := by
  have hnone : ∀ n, ¬ raw.HandsOn name n := fun n ⟨c, _, hc, _⟩ => hname c hc
  have hkeeps : ∀ o, raw.Keeps name o ↔ raw.valid.get? name = some o ∧ o.scopes = none := by
    intro o
    rw [get?_valid_eq_some_iff]
    exact ⟨fun h => ⟨h.1, h.2.resolve_left fun ⟨c, hc⟩ => hname c hc⟩, fun h => ⟨h.1, Or.inr h.2⟩⟩
  rw [ScopeMap.get?_flatten_of_not_chain raw.allValid_valid hname]
  cases hg : (raw.valid.get? name).filter (·.scopes.isNone) with
  | none =>
    refine .nothing fun o hcontrib => ?_
    have hkept := (hkeeps o).1 (hcontrib.resolve_right (hnone o))
    rw [hkept.1] at hg
    simp [hkept.2] at hg
  | some o =>
    rw [Option.filter_eq_some_iff, Option.isNone_iff_eq_none] at hg
    exact .kept ((hkeeps o).2 hg) hnone

/-- Flattening grants every name what those who contribute to it grant. -/
theorem share_flatten (raw : RawScopes) (name : String) :
    raw.Share name (raw.valid.flatten.get? name) := by
  by_cases hchain : ∃ c, ScopeName.parse name = .chain c
  · obtain ⟨c, hname⟩ := hchain
    exact share_flatten_of_chain hname
  · exact share_flatten_of_not_chain (not_exists.1 hchain)

/-- A property that a merge has if one of its parts has it, and that the list of chains does not matter for. -/
structure Additive (p : ScopeObject → Prop) : Prop where
  merge : ∀ a b : ScopeObject, p (a.merge b) ↔ p a ∨ p b
  scopes : ∀ o : ScopeObject, p { o with scopes := none } ↔ p o

/-- A granted scope has such a property exactly if one of those who contribute to it has it. -/
theorem Share.iff_contributes {p : ScopeObject → Prop} (hp : Additive p) {g : ScopeObject}
    (h : raw.Share name (some g)) : p g ↔ ∃ o, raw.Contributes name o ∧ p o := by
  cases h with
  | @both n o hn ho =>
    rw [hp.merge, hp.scopes]
    constructor
    · rintro (hpn | hpo)
      · exact ⟨n, Or.inr hn, hpn⟩
      · exact ⟨o, Or.inl ho, hpo⟩
    · rintro ⟨o', hkept | hhanded, hpo⟩
      · exact Or.inr (ho.1.unique hkept.1 ▸ hpo)
      · exact Or.inl (hn.unique hhanded ▸ hpo)
  | @handed n hn ho =>
    rw [hp.scopes]
    constructor
    · intro hpn
      exact ⟨n, Or.inr hn, hpn⟩
    · rintro ⟨o', hkept | hhanded, hpo⟩
      · exact absurd hkept (ho o')
      · exact hn.unique hhanded ▸ hpo
  | kept ho hn =>
    constructor
    · intro hpg
      exact ⟨g, Or.inl ho, hpg⟩
    · rintro ⟨o', hkept | hhanded, hpo⟩
      · exact ho.1.unique hkept.1 ▸ hpo
      · exact absurd hhanded (hn o')

theorem Share.isSome_iff {g? : Option ScopeObject} (h : raw.Share name g?) :
    g?.isSome = true ↔ ∃ o, raw.Contributes name o := by
  cases h with
  | both hn _ => exact iff_of_true rfl ⟨_, Or.inr hn⟩
  | handed hn _ => exact iff_of_true rfl ⟨_, Or.inr hn⟩
  | kept ho _ => exact iff_of_true rfl ⟨_, Or.inl ho⟩
  | nothing hno => exact iff_of_false (by simp) (not_exists.2 hno)

theorem additive_mem {items : ScopeObject → List String} (item : String)
    (hmerge : ∀ a b : ScopeObject, items (a.merge b) = distinctUnion (items a) (items b))
    (hscopes : ∀ o : ScopeObject, items { o with scopes := none } = items o) :
    Additive fun o => item ∈ items o where
  merge a b := by rw [hmerge, mem_distinctUnion]
  scopes o := by rw [hscopes]

theorem additive_isSome {items : ScopeObject → Option (List String)}
    (hmerge : ∀ a b : ScopeObject, items (a.merge b) = distinctUnion? (items a) (items b))
    (hscopes : ∀ o : ScopeObject, items { o with scopes := none } = items o) :
    Additive fun o => (items o).isSome = true where
  merge a b := by rw [hmerge, isSome_distinctUnion?, Bool.or_eq_true]
  scopes o := by rw [hscopes]

end RawScopes

/-! ## The whole map -/

/-- `granted` is what those who contribute to the names in `raw` grant. -/
structure Grants (raw : RawScopes) (granted : ScopeMap) : Prop where
  contains_iff : ∀ name, granted.contains name = true ↔ ∃ o, raw.Contributes name o
  mem_methods : ∀ name g, granted.get? name = some g → ∀ item,
    (item ∈ g.methods ↔ ∃ o, raw.Contributes name o ∧ item ∈ o.methods)
  mem_notifications : ∀ name g, granted.get? name = some g → ∀ item,
    (item ∈ g.notifications ↔ ∃ o, raw.Contributes name o ∧ item ∈ o.notifications)
  mem_accounts : ∀ name g, granted.get? name = some g → ∀ item,
    (item ∈ g.accounts ↔ ∃ o, raw.Contributes name o ∧ item ∈ o.accounts)
  rpcDocuments_isSome : ∀ name g, granted.get? name = some g →
    (g.rpcDocuments.isSome = true ↔ ∃ o, raw.Contributes name o ∧ o.rpcDocuments.isSome = true)
  mem_rpcDocuments : ∀ name g, granted.get? name = some g → ∀ item,
    (item ∈ g.rpcDocuments.getD [] ↔ ∃ o, raw.Contributes name o ∧ item ∈ o.rpcDocuments.getD [])
  rpcEndpoints_isSome : ∀ name g, granted.get? name = some g →
    (g.rpcEndpoints.isSome = true ↔ ∃ o, raw.Contributes name o ∧ o.rpcEndpoints.isSome = true)
  mem_rpcEndpoints : ∀ name g, granted.get? name = some g → ∀ item,
    (item ∈ g.rpcEndpoints.getD [] ↔ ∃ o, raw.Contributes name o ∧ item ∈ o.rpcEndpoints.getD [])
  /-- Of two who contribute, the namespace's items come first and the chain's new ones follow. -/
  both : ∀ name n o, raw.HandsOn name n → raw.Keeps name o → ∃ g, granted.get? name = some g ∧
    g.scopes = none ∧
    IsJoin n.methods o.methods g.methods ∧
    IsJoin n.notifications o.notifications g.notifications ∧
    IsJoin n.accounts o.accounts g.accounts ∧
    IsJoin (n.rpcDocuments.getD []) (o.rpcDocuments.getD []) (g.rpcDocuments.getD []) ∧
    IsJoin (n.rpcEndpoints.getD []) (o.rpcEndpoints.getD []) (g.rpcEndpoints.getD [])
  /-- What only the namespace hands on is unchanged. -/
  handed : ∀ name n, raw.HandsOn name n → (∀ o, ¬ raw.Keeps name o) →
    granted.get? name = some { n with scopes := none }
  /-- What is only declared under the name itself is unchanged. -/
  kept : ∀ name o, raw.Keeps name o → (∀ n, ¬ raw.HandsOn name n) → granted.get? name = some o

theorem grants_flatten_valid (raw : RawScopes) : Grants raw raw.valid.flatten := by
  have hshare : ∀ {name g}, raw.valid.flatten.get? name = some g → raw.Share name (some g) :=
    fun {name g} hg => hg ▸ raw.share_flatten name
  have hmem : ∀ {items : ScopeObject → List String},
      (∀ a b : ScopeObject, items (a.merge b) = distinctUnion (items a) (items b)) →
      (∀ o : ScopeObject, items { o with scopes := none } = items o) →
      ∀ name g, raw.valid.flatten.get? name = some g → ∀ item,
        (item ∈ items g ↔ ∃ o, raw.Contributes name o ∧ item ∈ items o) :=
    fun hmerge hscopes name g hg item =>
      (hshare hg).iff_contributes (RawScopes.additive_mem item hmerge hscopes)
  refine {
    contains_iff := fun name => (raw.share_flatten name).isSome_iff
    mem_methods := hmem (fun _ _ => rfl) fun _ => rfl
    mem_notifications := hmem (fun _ _ => rfl) fun _ => rfl
    mem_accounts := hmem (fun _ _ => rfl) fun _ => rfl
    rpcDocuments_isSome := fun name g hg =>
      (hshare hg).iff_contributes (RawScopes.additive_isSome (fun _ _ => rfl) fun _ => rfl)
    mem_rpcDocuments := hmem (fun _ _ => getD_distinctUnion? _ _) fun _ => rfl
    rpcEndpoints_isSome := fun name g hg =>
      (hshare hg).iff_contributes (RawScopes.additive_isSome (fun _ _ => rfl) fun _ => rfl)
    mem_rpcEndpoints := hmem (fun _ _ => getD_distinctUnion? _ _) fun _ => rfl
    both := ?_
    handed := ?_
    kept := ?_ }
  · intro name n o hn ho
    have h := raw.share_flatten name
    generalize raw.valid.flatten.get? name = g? at h ⊢
    cases h with
    | @both n' o' hn' ho' =>
      rw [hn.unique hn', ho.1.unique ho'.1]
      refine ⟨_, rfl, rfl, ?_, ?_, ?_, ?_, ?_⟩
      · exact isJoin_distinctUnion n'.methods o'.methods
      · exact isJoin_distinctUnion n'.notifications o'.notifications
      · exact isJoin_distinctUnion n'.accounts o'.accounts
      · exact getD_distinctUnion? n'.rpcDocuments o'.rpcDocuments ▸ isJoin_distinctUnion _ _
      · exact getD_distinctUnion? n'.rpcEndpoints o'.rpcEndpoints ▸ isJoin_distinctUnion _ _
    | handed _ hno => exact absurd ho (hno o)
    | kept _ hno => exact absurd hn (hno n)
    | nothing hno => exact absurd (Or.inl ho) (hno o)
  · intro name n hn hno
    have h := raw.share_flatten name
    generalize raw.valid.flatten.get? name = g? at h ⊢
    cases h with
    | both _ ho' => exact absurd ho' (hno _)
    | handed hn' _ => rw [hn.unique hn']
    | kept ho' _ => exact absurd ho' (hno _)
    | nothing hno' => exact absurd (Or.inr hn) (hno' n)
  · intro name o ho hno
    have h := raw.share_flatten name
    generalize raw.valid.flatten.get? name = g? at h ⊢
    cases h with
    | both hn' _ => exact absurd hn' (hno _)
    | handed hn' _ => exact absurd hn' (hno _)
    | kept ho' _ => rw [ho.1.unique ho'.1]
    | nothing hno' => exact absurd (Or.inl ho) (hno' o)

/-- **Negotiation grants exactly what was validly requested**, on each side by itself. -/
theorem negotiate_grants (raw : ScopeSides RawScopes) :
    Grants raw.required raw.negotiate.required ∧ Grants raw.optional raw.negotiate.optional :=
  ⟨grants_flatten_valid raw.required, grants_flatten_valid raw.optional⟩

end WalletSession
