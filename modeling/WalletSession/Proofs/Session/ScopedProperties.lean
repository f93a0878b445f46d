import WalletSession.Proofs.Scope.Granted
import WalletSession.Proofs.Scope.MergedSupport
import WalletSession.Proofs.Session.Strict

set_option autoImplicit false

/-! # Properties of declared scopes

A request attaches properties to scopes by name. They are kept for the names that it declares something under, valid
or not. The buckets on the other hand hold what the valid declarations come down to, after namespaces have handed on to
their chains. So properties may be kept for a name that is in no bucket, and dropped for a chain that is in one
because of its namespace only (`ProcessedRequest.properties_follow_declarations`). -/

namespace WalletSession

/-- There is a scope of this name in one of the buckets. -/
def ScopeBuckets.Has (b : ScopeBuckets) (name : String) : Prop := ∃ level, (b.scopesAt level).contains name = true

theorem ScopeMap.has_buckets_iff {support : ChainSupport} {m : ScopeMap} {name : String} :
    (m.buckets support).Has name ↔ m.contains name = true := by
  simp only [ScopeBuckets.Has, contains_scopesAt_iff]
  rw [KeyMap.contains_iff_exists]
  constructor
  · rintro ⟨level, o, ho, -⟩
    exact ⟨o, ho⟩
  · rintro ⟨o, ho⟩
    obtain ⟨level, hlevel, -⟩ := ScopeObject.existsUnique_hasLevel support name o
    exact ⟨level, o, ho, hlevel⟩

theorem RawScopes.Keeps.contains {raw : RawScopes} {name : String} {o : ScopeObject} (h : raw.Keeps name o) :
    raw.contains name = true := by
  obtain ⟨⟨v, hv, -, -⟩, -⟩ := h
  exact KeyMap.contains_iff_exists.2 ⟨v, hv⟩

/-! ## Names in a request -/

namespace SessionRequest

/-- The request attaches properties to `name`. -/
def Attaches (r : SessionRequest) (name : String) : Prop :=
  ∃ properties v, r.scopedProperties = some properties ∧ properties.get? name = some v

/-- Something is declared under `name` on one of the sides, valid or not. -/
def AsksFor (r : SessionRequest) (name : String) : Prop :=
  r.declared.required.contains name = true ∨ r.declared.optional.contains name = true

/-- Some valid declaration on one of the sides contributes to `name`. -/
def Grants (r : SessionRequest) (name : String) : Prop :=
  (∃ o, r.declared.required.Contributes name o) ∨ ∃ o, r.declared.optional.Contributes name o

/-- On one of the sides the chain `name` is in the list of its namespace. -/
def HandsOn (r : SessionRequest) (name : String) : Prop :=
  (∃ o, r.declared.required.HandsOn name o) ∨ ∃ o, r.declared.optional.HandsOn name o

variable {r : SessionRequest} {name : String}

theorem attaches_iff : r.Attaches name ↔ ∃ v, (r.scopedProperties.getD .empty).get? name = some v := by
  cases h : r.scopedProperties with
  | none => simp [Attaches, h]
  | some properties => simp [Attaches, h]

theorem mem_keys_properties_iff {isHttpUrl : String → Bool} :
    name ∈ (r.properties isHttpUrl).keys ↔ r.Attaches name ∧ r.AsksFor name := by
  rw [KeyMap.mem_keys, KeyMap.contains_iff_exists, properties, ScopedProperties.sanitize, KeyMap.get?_filterMap,
    attaches_iff, AsksFor, ← Bool.or_eq_true]
  cases r.declared.required.contains name || r.declared.optional.contains name <;>
    simp [Option.bind_eq_some_iff]

theorem contains_scopes_iff :
    r.scopes.required.contains name = true ∨ r.scopes.optional.contains name = true ↔ r.Grants name := by
  have hrequired := (grants_flatten_valid r.declared.required).contains_iff name
  have hoptional := (grants_flatten_valid r.declared.optional).contains_iff name
  exact or_congr hrequired hoptional

theorem HandsOn.grants (h : r.HandsOn name) : r.Grants name := by
  rcases h with ⟨o, ho⟩ | ⟨o, ho⟩
  · exact .inl ⟨o, .inr ho⟩
  · exact .inr ⟨o, .inr ho⟩

/-- A name is granted something by its own declaration or by that of its namespace. -/
theorem Grants.asksFor_or_handsOn (h : r.Grants name) : r.AsksFor name ∨ r.HandsOn name := by
  rcases h with ⟨o, hkept | hhanded⟩ | ⟨o, hkept | hhanded⟩
  · exact .inl (.inl hkept.contains)
  · exact .inr (.inl ⟨o, hhanded⟩)
  · exact .inl (.inr hkept.contains)
  · exact .inr (.inr ⟨o, hhanded⟩)

end SessionRequest

/-! ## What is kept -/

namespace ProcessedRequest

/-- There is a scope of this name in one of the buckets, on one of the sides. -/
def HasScope (p : ProcessedRequest) (name : String) : Prop := p.required.Has name ∨ p.optional.Has name

variable {isHttpUrl : String → Bool} {support : ChainSupport} {strict : Bool} {v : Json} {p : ProcessedRequest}

/-- Strict or not, there is only one thing to make of a request that is not refused. -/
theorem exists_parse_of_ofRequest (h : ofRequest isHttpUrl support strict v = .ok p) :
    ∃ request, SessionRequest.parse v = .ok request ∧ p = ofParsed isHttpUrl support request := by
  cases hv : SessionRequest.parse v with
  | error e =>
    rw [ofRequest_of_error hv] at h
    cases h
  | ok request =>
    refine ⟨request, rfl, ?_⟩
    cases strict with
    | false =>
      rw [ofRequest_lenient hv] at h
      cases h
      rfl
    | true =>
      rw [ofRequest_strict hv] at h
      split at h
      · cases h
      · cases h
        rfl

theorem hasScope_ofParsed_iff {request : SessionRequest} {name : String} :
    (ofParsed isHttpUrl support request).HasScope name ↔
      request.scopes.required.contains name = true ∨ request.scopes.optional.contains name = true :=
  or_congr ScopeMap.has_buckets_iff ScopeMap.has_buckets_iff

/-- **Properties follow the declarations of a request, as received.** They are kept for the names they are attached to
that something is declared under. This leaves two ways to differ from the scopes in the buckets: properties are kept
for a name in no bucket if nothing that is declared contributes to it, and they are dropped for a name in a bucket if it
is a chain that only its namespace declares. -/
theorem properties_follow_declarations (h : ofRequest isHttpUrl support strict v = .ok p) :
    ∃ request, SessionRequest.parse v = .ok request ∧
    (∀ name, name ∈ p.scopedProperties.keys ↔ request.Attaches name ∧ request.AsksFor name) ∧
    (∀ name, p.HasScope name ↔
      request.scopes.required.contains name = true ∨ request.scopes.optional.contains name = true) ∧
    (∀ name, name ∈ p.scopedProperties.keys ∧ ¬ p.HasScope name ↔
      request.Attaches name ∧ request.AsksFor name ∧ ¬ request.Grants name) ∧
    ∀ name, request.Attaches name ∧ name ∉ p.scopedProperties.keys ∧ p.HasScope name ↔
      request.Attaches name ∧ ¬ request.AsksFor name ∧ request.HandsOn name := by
  obtain ⟨request, hrequest, rfl⟩ := exists_parse_of_ofRequest h
  have hkept (name : String) : name ∈ (ofParsed isHttpUrl support request).scopedProperties.keys ↔
      request.Attaches name ∧ request.AsksFor name := SessionRequest.mem_keys_properties_iff
  have hscope (name : String) : (ofParsed isHttpUrl support request).HasScope name ↔ request.Grants name :=
    hasScope_ofParsed_iff.trans SessionRequest.contains_scopes_iff
  refine ⟨request, hrequest, hkept, fun name => hasScope_ofParsed_iff, fun name => ?_, fun name => ?_⟩
  · rw [hkept, hscope, and_assoc]
  · rw [hkept, hscope]
    constructor
    · rintro ⟨hattached, hdropped, hgrants⟩
      have hnot : ¬ request.AsksFor name := fun hasked => hdropped ⟨hattached, hasked⟩
      exact ⟨hattached, hnot, hgrants.asksFor_or_handsOn.resolve_left hnot⟩
    · rintro ⟨hattached, hnot, hhanded⟩
      exact ⟨hattached, fun hkept => hnot hkept.2, hhanded.grants⟩

/-- Of two chains with properties only the first one is declared. -/
theorem properties_follow_one_declaration :
    let v : Json := .object [
      ("requiredScopes", .object [("eip155:1", .object [("methods", .array []), ("notifications", .array [])])]),
      ("scopedProperties", .object [("eip155:1", .object []), ("eip155:5", .object [])])]
    ∃ p, ofRequest (· == "https://rpc.example") ⟨fun n => n == 1, fun _ => false⟩ true v = .ok p ∧
      "eip155:1" ∈ p.scopedProperties.keys ∧ p.HasScope "eip155:1" ∧
      "eip155:5" ∉ p.scopedProperties.keys ∧ ¬ p.HasScope "eip155:5" := by
  intro v
  obtain ⟨p, hp⟩ : ∃ p, ofRequest (· == "https://rpc.example") ⟨fun n => n == 1, fun _ => false⟩ true v = .ok p :=
    ⟨_, rfl⟩
  obtain ⟨request, hrequest, hkept, hscope, -⟩ := properties_follow_declarations hp
  cases hrequest
  refine ⟨p, hp, (hkept _).2 ⟨⟨_, _, rfl, rfl⟩, .inl rfl⟩, (hscope _).2 (.inl rfl), fun h => ?_, fun h => ?_⟩
  · rcases ((hkept _).1 h).2 with h | h <;> cases h
  · rcases (hscope _).1 h with h | h <;> cases h

/-- Properties are kept for a chain whose declaration is not valid, and dropped for one that its namespace names. -/
theorem properties_beside_buckets :
    ∃ p, ofRequest (· == "https://rpc.example") ⟨fun n => n == 1, fun _ => false⟩ false (.object [
      ("requiredScopes", .object [
        ("eip155", .object [("scopes", .array [.string "eip155:1"]), ("methods", .array []),
          ("notifications", .array [])]),
        ("eip155:10", .object [("methods", .array [.string ""]), ("notifications", .array [])])]),
      ("scopedProperties", .object [("eip155:1", .object []), ("eip155:10", .object [])])]) = .ok p ∧
    p.scopedProperties.keys = ["eip155:10"] ∧ ¬ p.HasScope "eip155:10" ∧ p.HasScope "eip155:1" := by
  refine ⟨_, rfl, rfl, ?_, .inl ⟨.supported, rfl⟩⟩
  rintro (⟨level, h⟩ | ⟨level, h⟩) <;> cases level <;> cases h

end ProcessedRequest
end WalletSession
