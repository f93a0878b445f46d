import WalletSession.Proofs.KeyMap
import WalletSession.Proofs.Scope.Merge
import WalletSession.Proofs.ScopeName
import WalletSession.Scope.Negotiation

set_option autoImplicit false

/-! # Looking up flattened scopes

What a name is granted after flattening is the merge of what each declaration hands on to it, in the order of
the declarations' names (`ScopeMap.get?_flatten`). Among valid declarations only two can reach a chain: that of
its namespace and its own (`ScopeMap.get?_flatten_chain`); a namespace is only reached by its own. -/

namespace WalletSession

/-! ## One declaration -/

namespace ScopeObject

variable {o : ScopeObject} {name : String}

/-- A declaration under a namespace that names chains is handed on to each of them. -/
theorem get?_flatten_chains {chains : List String} (hname : ScopeName.parse name = .bare name)
    (ho : o.scopes = some chains) (other : String) :
    (o.flatten name).get? other = if other ∈ chains then some { o with scopes := none } else none := by
  unfold flatten
  rw [ho]
  simp only [hname, ScopeName.isBare, if_true]
  exact KeyMap.get?_ofList_const chains _ other

/-- Any other declaration stays where it is. -/
theorem get?_flatten_itself (h : ScopeName.parse name ≠ .bare name ∨ o.scopes = none) (other : String) :
    (o.flatten name).get? other = if name = other then some o else none := by
  have hitself : o.flatten name = KeyMap.ofList [(name, o)] := by
    unfold flatten
    cases ho : o.scopes with
    | none => rfl
    | some chains =>
      have hbare : (ScopeName.parse name).isBare = false := by
        rw [Bool.eq_false_iff, ne_eq, ScopeName.isBare_iff]
        exact h.resolve_right (by simp [ho])
      simp [hbare]
  rw [hitself]
  exact KeyMap.get?_insert .empty name other o

/-! ### Valid declarations -/

theorem parse_of_isValidFor (h : o.isValidFor name = true) :
    ScopeName.parse name = .bare name ∨ ∃ c, ScopeName.parse name = .chain c := by
  cases hp : ScopeName.parse name with
  | bare ns => exact Or.inl (by rw [(ScopeName.parse_eq_bare_iff.1 hp).1])
  | chain c => exact Or.inr ⟨c, rfl⟩
  | unrecognized => simp [isValidFor, hp] at h

/-- The chains that a valid declaration names under a namespace belong to this namespace. -/
theorem chain_of_mem_scopes (h : o.isValidFor name = true) (hname : ScopeName.parse name = .bare name)
    {chains : List String} (ho : o.scopes = some chains) {other : String} (hmem : other ∈ chains) :
    ∃ c, ScopeName.parse other = .chain c ∧ c.ns = name := by
  simp only [isValidFor, hname, nested, ho, Option.getD_some, Bool.and_eq_true, List.all_eq_true] at h
  have hchain : isChainOf name other = true := h.1.1 other hmem
  unfold isChainOf at hchain
  split at hchain
  · next c hc => exact ⟨c, hc, by simpa using hchain⟩
  · cases hchain

/-- A valid declaration reaches its own name or a chain of its namespace. -/
theorem reaches_of_get?_flatten (h : o.isValidFor name = true) {other : String} {g : ScopeObject}
    (hg : (o.flatten name).get? other = some g) :
    name = other ∨ ∃ c, ScopeName.parse other = .chain c ∧ c.ns = name := by
  -- A declaration stays where it is, or it is handed on to the chains it names.
  by_cases hitself : ScopeName.parse name ≠ .bare name ∨ o.scopes = none
  · rw [get?_flatten_itself hitself] at hg
    split at hg
    · next heq => exact Or.inl heq
    · cases hg
  · rw [not_or, not_not] at hitself
    obtain ⟨chains, ho⟩ := Option.ne_none_iff_exists'.1 hitself.2
    rw [get?_flatten_chains hitself.1 ho] at hg
    split at hg
    · next hmem => exact Or.inr (chain_of_mem_scopes h hitself.1 ho hmem)
    · cases hg

end ScopeObject

/-! ## All declarations -/

namespace ScopeMap

theorem get?_foldl_merge (entries : List (String × ScopeObject)) (acc : ScopeMap) (name : String) :
    (entries.foldl (fun acc e => acc.merge (e.2.flatten e.1)) acc).get? name =
      ScopeObject.mergeAll
        ((acc.get? name).toList ++ entries.filterMap fun e => (e.2.flatten e.1).get? name) := by
  -- What was merged so far counts as one more declaration, before those to come.
  induction entries generalizing acc with
  | nil =>
    rw [List.foldl_nil, List.filterMap_nil, List.append_nil]
    cases acc.get? name <;> rfl
  | cons e rest ih =>
    rw [List.foldl_cons, ih, get?_merge, List.filterMap_cons]
    cases acc.get? name <;> cases (e.2.flatten e.1).get? name <;> rfl

/-- What a name is granted, declaration by declaration. -/
theorem get?_flatten (m : ScopeMap) (name : String) :
    m.flatten.get? name =
      ScopeObject.mergeAll (m.toList.filterMap fun e => (e.2.flatten e.1).get? name) := by
  rw [flatten, get?_foldl_merge]
  rfl

/-- Every entry is a valid declaration for its name. -/
def AllValid (m : ScopeMap) : Prop := ∀ name o, m.get? name = some o → o.isValidFor name = true

variable {m : ScopeMap}

/-- A declaration that reaches `name` belongs to `name` or to the namespace of the chain `name`. -/
theorem reaches_of_mem (hm : m.AllValid) {e : String × ScopeObject} (he : e ∈ m.toList) {name : String}
    {g : ScopeObject} (hg : (e.2.flatten e.1).get? name = some g) :
    e.1 = name ∨ ∃ c, ScopeName.parse name = .chain c ∧ c.ns = e.1 :=
  ScopeObject.reaches_of_get?_flatten (hm e.1 e.2 (KeyMap.mem_toList.1 he)) hg

/-- **A chain gets what its namespace hands on to it, then what it declares itself.** -/
theorem get?_flatten_chain (hm : m.AllValid) {name : String} {c : ChainId}
    (hname : ScopeName.parse name = .chain c) :
    m.flatten.get? name = ScopeObject.mergeAll
      (((m.get? c.ns).bind fun o => (o.flatten c.ns).get? name).toList ++ (m.get? name).toList) := by
  have hown : ∀ o : ScopeObject, (o.flatten name).get? name = some o := fun o => by
    rw [ScopeObject.get?_flatten_itself (Or.inl (by simp [hname])), if_pos rfl]
  -- What is declared elsewhere does not reach this chain.
  have hothers : ∀ e ∈ m.toList, e.1 ≠ c.ns → e.1 ≠ name → (e.2.flatten e.1).get? name = none := by
    intro e he hns hne
    rw [Option.eq_none_iff_forall_ne_some]
    intro g hg
    rcases reaches_of_mem hm he hg with heq | ⟨c', hc', heq⟩
    · exact hne heq
    · rw [hname] at hc'
      cases hc'
      exact hns heq.symm
  rw [get?_flatten, KeyMap.filterMap_toList_of_two_keys (ScopeName.ns_lt hname) hothers]
  simp only [hown, Option.bind_fun_some]

/-- A name that is not a chain only gets what it declares itself. -/
theorem get?_flatten_of_not_chain (hm : m.AllValid) {name : String}
    (hname : ∀ c, ScopeName.parse name ≠ .chain c) :
    m.flatten.get? name = (m.get? name).filter (·.scopes.isNone) := by
  have hothers : ∀ e ∈ m.toList, e.1 ≠ name → (e.2.flatten e.1).get? name = none := by
    intro e he hne
    rw [Option.eq_none_iff_forall_ne_some]
    intro g hg
    rcases reaches_of_mem hm he hg with heq | ⟨c, hc, _⟩
    · exact hne heq
    · exact hname c hc
  rw [get?_flatten, KeyMap.filterMap_toList_of_key hothers]
  cases ho : m.get? name with
  | none => rfl
  | some o =>
    have hvalid := hm name o ho
    have hbare : ScopeName.parse name = .bare name :=
      (ScopeObject.parse_of_isValidFor hvalid).resolve_right fun ⟨c, hc⟩ => hname c hc
    cases hscopes : o.scopes with
    | none =>
      simp [ScopeObject.get?_flatten_itself (Or.inr hscopes), hscopes, Option.filter, ScopeObject.mergeAll]
    | some chains =>
      -- A valid declaration names chains only.
      have hnot : name ∉ chains := fun hmem =>
        have ⟨c, hc, _⟩ := ScopeObject.chain_of_mem_scopes hvalid hbare hscopes hmem
        hname c hc
      simp [ScopeObject.get?_flatten_chains hbare hscopes, hscopes, hnot, Option.filter, ScopeObject.mergeAll]

end ScopeMap
end WalletSession
