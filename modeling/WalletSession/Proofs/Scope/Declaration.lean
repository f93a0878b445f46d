import WalletSession.Proofs.Identifiers
import WalletSession.Proofs.Json.Record
import WalletSession.Scope.Validity

set_option autoImplicit false

/-! # Which values are valid declarations

A declaration is a record, so that it may be written as an object or as an array of its fields in order. In either
form it has to give the methods and the notifications, may give the other fields, and may name chains under
their own namespace only (`DeclaresFor`). Under a namespace or a chain id these are the valid declarations, and nothing
else is one (`isValidDeclaration_iff`). -/

namespace WalletSession

open Json

/-! ## Reading a declaration -/

namespace ScopeObject

variable {v : Json} {o : ScopeObject} {given : String → Option Json}

/-- The fields of a declaration, each read from what is given for it. -/
structure ReadFrom (given : String → Option Json) (o : ScopeObject) : Prop where
  scopes : scopesField.Reads (given "scopes") o.scopes
  methods : methodsField.Reads (given "methods") o.methods
  notifications : notificationsField.Reads (given "notifications") o.notifications
  accounts : accountsField.Reads (given "accounts") o.accounts
  rpcDocuments : rpcDocumentsField.Reads (given "rpcDocuments") o.rpcDocuments
  rpcEndpoints : rpcEndpointsField.Reads (given "rpcEndpoints") o.rpcEndpoints

/-- The fields with what is given for them. -/
def ReadFrom.fields (h : ReadFrom given o) : List WrittenField := [
  ⟨scopesField, given "scopes", o.scopes, h.scopes⟩,
  ⟨methodsField, given "methods", o.methods, h.methods⟩,
  ⟨notificationsField, given "notifications", o.notifications, h.notifications⟩,
  ⟨accountsField, given "accounts", o.accounts, h.accounts⟩,
  ⟨rpcDocumentsField, given "rpcDocuments", o.rpcDocuments, h.rpcDocuments⟩,
  ⟨rpcEndpointsField, given "rpcEndpoints", o.rpcEndpoints, h.rpcEndpoints⟩]

theorem readFrom_of_decode (h : decode v = .ok o) : ∃ given, shape.Gives v given ∧ ReadFrom given o := by
  simp only [decode, bind_eq_ok_iff] at h
  obtain ⟨source, hsource, scopes, hscopes, methods, hmethods, notifications, hnotifications, accounts, haccounts,
    rpcDocuments, hdocuments, rpcEndpoints, hendpoints, _, hend, ho⟩ := h
  cases ho
  refine ⟨shape.given source, RecordShape.gives_of_source rfl hsource hend, ?_⟩
  exact {
    scopes := (RecordShape.field_eq_ok_iff_reads rfl).1 hscopes
    methods := (RecordShape.field_eq_ok_iff_reads rfl).1 hmethods
    notifications := (RecordShape.field_eq_ok_iff_reads rfl).1 hnotifications
    accounts := (RecordShape.field_eq_ok_iff_reads rfl).1 haccounts
    rpcDocuments := (RecordShape.field_eq_ok_iff_reads rfl).1 hdocuments
    rpcEndpoints := (RecordShape.field_eq_ok_iff_reads rfl).1 hendpoints }

theorem decode_of_readFrom (hgives : shape.Gives v given) (h : ReadFrom given o) : decode v = .ok o := by
  obtain ⟨source, hsource, rfl, hend⟩ := RecordShape.exists_source_of_gives hgives h.fields rfl (by decide)
    (by simp [ReadFrom.fields, scopesField, methodsField, notificationsField, accountsField, rpcDocumentsField,
      rpcEndpointsField, Field.optional, Field.withDefault, Field.required]) .inPlace
  have hscopes := (RecordShape.field_eq_ok_iff_reads rfl).2 h.scopes
  have hmethods := (RecordShape.field_eq_ok_iff_reads rfl).2 h.methods
  have hnotifications := (RecordShape.field_eq_ok_iff_reads rfl).2 h.notifications
  have haccounts := (RecordShape.field_eq_ok_iff_reads rfl).2 h.accounts
  have hdocuments := (RecordShape.field_eq_ok_iff_reads rfl).2 h.rpcDocuments
  have hendpoints := (RecordShape.field_eq_ok_iff_reads rfl).2 h.rpcEndpoints
  simp only [decode, bind, Except.bind, hsource, hscopes, hmethods, hnotifications, haccounts, hdocuments,
    hendpoints, hend]
  rfl

theorem decode_eq_ok_iff : decode v = .ok o ↔ ∃ given, shape.Gives v given ∧ ReadFrom given o := by
  constructor
  · exact readFrom_of_decode
  · rintro ⟨given, hgives, hread⟩
    exact decode_of_readFrom hgives hread

end ScopeObject

/-! ## Validity -/

theorem isChainOf_iff {ns name : String} : isChainOf ns name = true ↔ ∃ c : ChainId, c.SpelledBy name ∧ c.ns = ns := by
  simp only [← ScopeName.parse_eq_chain_iff_spelledBy]
  unfold isChainOf
  cases ScopeName.parse name <;> simp

/-- The chains of a declaration belong to the namespace that it stands under; elsewhere there are none. -/
def NamesChainsOf (name : String) (chains : List String) : Prop :=
  chains ≠ [] → NamespaceWord name ∧ ∀ chain ∈ chains, ∃ c : ChainId, c.SpelledBy chain ∧ c.ns = name

theorem all_not_isEmpty_iff {texts : List String} : texts.all (!·.isEmpty) = true ↔ "" ∉ texts := by
  simp only [List.all_eq_true, Bool.not_eq_true', String.isEmpty_eq_false_iff]
  constructor
  · intro h hmem
    exact h "" hmem rfl
  · intro h text hmem
    exact ne_of_mem_of_not_mem hmem h

namespace ScopeObject

variable {o : ScopeObject} {name : String}

theorem isValidFor_iff : o.isValidFor name = true ↔ (NamespaceWord name ∨ ∃ c : ChainId, c.SpelledBy name) ∧
    NamesChainsOf name o.nested ∧ "" ∉ o.methods ∧ "" ∉ o.notifications := by
  simp only [isValidFor, Bool.and_eq_true, all_not_isEmpty_iff, ← ScopeName.parse_eq_chain_iff_spelledBy]
  have hword : NamespaceWord name ↔ ScopeName.parse name = .bare name := by
    simp [ScopeName.parse_eq_bare_iff_word]
  cases hparse : ScopeName.parse name with
  | bare ns =>
    obtain ⟨rfl, hns⟩ := ScopeName.parse_eq_bare_iff_word.1 hparse
    have hnested : NamesChainsOf name o.nested ↔ ∀ chain ∈ o.nested, isChainOf name chain = true := by
      simp only [NamesChainsOf, hns, isChainOf_iff, true_and]
      constructor
      · intro h chain hmem
        exact h (List.ne_nil_of_mem hmem) chain hmem
      · intro h _
        exact h
    simp [hns, hnested, and_assoc]
  | chain c =>
    have hnested : NamesChainsOf name o.nested ↔ o.nested = [] := by
      simp [NamesChainsOf, hword, hparse]
    simp [hnested, and_assoc]
  | unrecognized => simp [hword, hparse]

end ScopeObject

/-- What is given has the fields of a valid declaration for `name`. -/
structure DeclaresFor (name : String) (given : String → Option Json) : Prop where
  scopes : given "scopes" = none ∨ given "scopes" = some .null ∨
    ∃ chains, given "scopes" = some (.ofStrings chains) ∧ NamesChainsOf name chains
  methods : ∃ methods, given "methods" = some (.ofStrings methods) ∧ "" ∉ methods
  notifications : ∃ notifications, given "notifications" = some (.ofStrings notifications) ∧ "" ∉ notifications
  accounts : given "accounts" = none ∨ ∃ accounts, given "accounts" = some (.ofStrings accounts)
  rpcDocuments : given "rpcDocuments" = none ∨ given "rpcDocuments" = some .null ∨
    ∃ documents, given "rpcDocuments" = some (.ofStrings documents)
  rpcEndpoints : given "rpcEndpoints" = none ∨ given "rpcEndpoints" = some .null ∨
    ∃ endpoints, given "rpcEndpoints" = some (.ofStrings endpoints)

theorem exists_readFrom_iff {name : String} {given : String → Option Json} :
    (∃ o, ScopeObject.ReadFrom given o ∧ NamesChainsOf name o.nested ∧ "" ∉ o.methods ∧ "" ∉ o.notifications) ↔
      DeclaresFor name given := by
  constructor
  · rintro ⟨o, hread, hchains, hmethods, hnotifications⟩
    refine {
      scopes := ?_
      methods := ⟨o.methods, Field.reads_required_strings_iff.1 hread.methods, hmethods⟩
      notifications := ⟨o.notifications, Field.reads_required_strings_iff.1 hread.notifications, hnotifications⟩
      accounts := Field.exists_reads_withDefault_strings_iff.1 ⟨o.accounts, hread.accounts⟩
      rpcDocuments := Field.exists_reads_optional_strings_iff.1 ⟨o.rpcDocuments, hread.rpcDocuments⟩
      rpcEndpoints := Field.exists_reads_optional_strings_iff.1 ⟨o.rpcEndpoints, hread.rpcEndpoints⟩ }
    rcases Field.reads_optional_strings_iff.1 hread.scopes with ⟨hnone | hnull, -⟩ | ⟨chains, hgiven, ho⟩
    · exact Or.inl hnone
    · exact Or.inr (Or.inl hnull)
    · have hnested : o.nested = chains := by simp [ScopeObject.nested, ho]
      exact Or.inr (Or.inr ⟨chains, hgiven, hnested ▸ hchains⟩)
  · rintro ⟨hscopes, ⟨methods, hmethods, hnamed⟩, ⟨notifications, hnotifications, hnamed'⟩, haccounts, hdocuments,
      hendpoints⟩
    obtain ⟨chains?, hscopes, hchains⟩ : ∃ chains?, ScopeObject.scopesField.Reads (given "scopes") chains? ∧
        NamesChainsOf name (chains?.getD []) := by
      have hnone : NamesChainsOf name [] := fun h => absurd rfl h
      rcases hscopes with h | h | ⟨chains, h, hchains⟩
      · exact ⟨none, Field.reads_optional_strings_iff.2 (Or.inl ⟨Or.inl h, rfl⟩), hnone⟩
      · exact ⟨none, Field.reads_optional_strings_iff.2 (Or.inl ⟨Or.inr h, rfl⟩), hnone⟩
      · exact ⟨some chains, Field.reads_optional_strings_iff.2 (Or.inr ⟨chains, h, rfl⟩), hchains⟩
    obtain ⟨accounts, haccounts⟩ := Field.exists_reads_withDefault_strings_iff.2 haccounts
    obtain ⟨documents?, hdocuments⟩ := Field.exists_reads_optional_strings_iff.2 hdocuments
    obtain ⟨endpoints?, hendpoints⟩ := Field.exists_reads_optional_strings_iff.2 hendpoints
    exact ⟨⟨chains?, methods, notifications, accounts, documents?, endpoints?⟩,
      ⟨hscopes, Field.reads_required_strings_iff.2 hmethods, Field.reads_required_strings_iff.2 hnotifications,
        haccounts, hdocuments, hendpoints⟩, hchains, hnamed, hnamed'⟩

theorem isValidDeclaration_iff_gives {name : String} {v : Json} : isValidDeclaration name v = true ↔
    (NamespaceWord name ∨ ∃ c : ChainId, c.SpelledBy name) ∧
      ∃ given, ScopeObject.shape.Gives v given ∧ DeclaresFor name given := by
  have hvalid : isValidDeclaration name v = true ↔
      ∃ o, ScopeObject.decode v = .ok o ∧ o.isValidFor name = true := by
    unfold isValidDeclaration ScopeObject.validOfJson? ScopeObject.ofJson?
    cases ScopeObject.decode v <;> simp [Except.toOption, Option.isSome_filter]
  simp only [hvalid, ScopeObject.isValidFor_iff, ScopeObject.decode_eq_ok_iff, ← exists_readFrom_iff]
  constructor
  · rintro ⟨o, ⟨given, hgives, hread⟩, hname, hfields⟩
    exact ⟨hname, given, hgives, o, hread, hfields⟩
  · rintro ⟨hname, given, hgives, o, hread, hfields⟩
    exact ⟨o, ⟨given, hgives, hread⟩, hname, hfields⟩

/-- The fields that a declaration can have, in the order of an array. -/
def declarationFields : List String :=
  ["scopes", "methods", "notifications", "accounts", "rpcDocuments", "rpcEndpoints"]

/-- **A value is a valid declaration exactly if it has the fields of one**, by name as an object or by place as an
array, under a namespace or a chain id. -/
theorem isValidDeclaration_iff (name : String) (v : Json) : isValidDeclaration name v = true ↔
    (NamespaceWord name ∨ ∃ c : ChainId, c.SpelledBy name) ∧
    ((∃ fields, v = .object fields ∧ (∀ e ∈ fields, e.1 ∈ declarationFields) ∧
        DeclaresFor name (KeyMap.ofList fields).get?) ∨
      ∃ items, v = .array items ∧ items.length ≤ declarationFields.length ∧
        DeclaresFor name fun field => items[declarationFields.idxOf field]?) := by
  rw [isValidDeclaration_iff_gives, and_congr_right_iff]
  intro _
  constructor
  · rintro ⟨_, hknown | hfew, hdeclares⟩
    · exact Or.inl ⟨_, rfl, hknown, hdeclares⟩
    · exact Or.inr ⟨_, rfl, hfew, hdeclares⟩
  · rintro (⟨fields, rfl, hknown, hdeclares⟩ | ⟨items, rfl, hfew, hdeclares⟩)
    · exact ⟨_, .members hknown, hdeclares⟩
    · exact ⟨_, .items hfew, hdeclares⟩

/-- The fields of a declaration without chains, methods and notifications, in order. -/
theorem isValidDeclaration_array :
    isValidDeclaration "eip155:1" (.array [.null, .array [], .array []]) = true ∧
    ∀ fields, Json.array [.null, .array [], .array []] ≠ .object fields := by
  exact ⟨by decide +kernel, fun fields => Json.noConfusion⟩

end WalletSession
