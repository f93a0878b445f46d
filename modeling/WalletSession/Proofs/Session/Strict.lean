import WalletSession.Proofs.KeyMap
import WalletSession.Proofs.Scope.Buckets
import WalletSession.Session.Request

set_option autoImplicit false

/-! # Strict requests

A strict request fails at the first required scope that is not supported. It is processed as if it were not strict
otherwise, so what becomes of it can be read off the buckets of the required scopes
(`ProcessedRequest.strict_agrees`): the check and the buckets never disagree on what is supported. -/

namespace WalletSession

/-- Every scope is supported. -/
def ScopeBuckets.AllServed (b : ScopeBuckets) : Prop := b.supportable = .empty ∧ b.unsupported = .empty

/-- The smallest name of a scope that is not among those kept. -/
structure ScopeMap.FirstMissing (m kept : ScopeMap) (name : String) (o : ScopeObject) : Prop where
  declared : m.get? name = some o
  missing : kept.get? name = none
  first : ∀ other, m.contains other = true → other < name → kept.contains other = true

/-! ## The check and the buckets -/

/-- The error of a refusal is the one with its number. -/
theorem Refusal.ofCode_code (r : Refusal) : ErrorCode.ofCode r.code.code = r.code := by
  cases r <;> rfl

namespace ScopeMap

variable {m : ScopeMap} {support : ChainSupport}

/-- Nothing is refused exactly if all scopes are in the first bucket. -/
theorem refusal?_eq_none_iff_allServed :
    m.refusal? support.supported = none ↔ (m.buckets support).AllServed := by
  have hget := get?_scopesAt_buckets support m
  rw [refusal?_eq_none_iff, ScopeBuckets.AllServed, KeyMap.eq_empty_iff, KeyMap.eq_empty_iff]
  constructor
  · intro h
    refine ⟨fun name o ho => ?_, fun name o ho => ?_⟩
    · obtain ⟨hm, hlevel⟩ := (hget .supportable name o).1 ho
      exact (ScopeObject.refused_then_passed_iff.2 (ScopeObject.hasLevel_supportable_iff.1 hlevel)).1 (h name o hm)
    · obtain ⟨hm, hlevel⟩ := (hget .unsupported name o).1 ho
      exact (ScopeObject.hasLevel_unsupported_iff.1 hlevel).1 (h name o hm)
  · rintro ⟨hsupportable, hunsupported⟩ name o ho
    obtain ⟨level, hlevel, -⟩ := ScopeObject.existsUnique_hasLevel support name o
    cases level with
    | supported => exact ScopeObject.hasLevel_supported_iff.1 hlevel
    | supportable => exact absurd ((hget .supportable name o).2 ⟨ho, hlevel⟩) (hsupportable name o)
    | unsupported => exact absurd ((hget .unsupported name o).2 ⟨ho, hlevel⟩) (hunsupported name o)

/-- What is refused is the first scope that is not in the first bucket, and it is refused as by itself. -/
theorem firstMissing_of_refusal? {r : Refusal} (h : m.refusal? support.supported = some r) :
    ∃ name o, m.FirstMissing (m.buckets support).supported name o ∧
      o.RefusedWith support.supported name r.code.code := by
  obtain ⟨name, o, ho, hr, hsmaller⟩ := KeyMap.findSome?_toList_eq_some_iff.1 h
  have hget (name : String) (o : ScopeObject) : (m.buckets support).supported.get? name = some o ↔
      m.get? name = some o ∧ o.refusal? support.supported name = none := get?_supportedBy_eq_some_iff
  refine ⟨name, o, ⟨ho, ?_, fun other hother hlt => ?_⟩, .of_refusal? hr⟩
  · rw [Option.eq_none_iff_forall_ne_some]
    intro o' ho'
    obtain ⟨hm, hnone⟩ := (hget name o').1 ho'
    rw [ho] at hm
    cases hm
    simp only [hr, reduceCtorEq] at hnone
  · obtain ⟨o', ho'⟩ := KeyMap.contains_iff_exists.1 hother
    exact KeyMap.contains_iff_exists.2 ⟨o', (hget other o').2 ⟨ho', hsmaller other o' ho' hlt⟩⟩

end ScopeMap

/-! ## Requests -/

namespace ProcessedRequest

/-- What a wallet makes of a request that it does not refuse. -/
def ofParsed (isHttpUrl : String → Bool) (support : ChainSupport) (request : SessionRequest) : ProcessedRequest where
  required := request.scopes.required.buckets support
  optional := request.scopes.optional.buckets support
  sessionProperties := request.sessionProperties.getD .empty
  scopedProperties := request.properties isHttpUrl

variable {isHttpUrl : String → Bool} {support : ChainSupport} {strict : Bool} {v : Json} {request : SessionRequest}

theorem ofRequest_of_error {e : RpcError} (h : SessionRequest.parse v = .error e) :
    ofRequest isHttpUrl support strict v = .error e := by
  simp only [ofRequest, h, bind, Except.bind]

theorem ofRequest_lenient (h : SessionRequest.parse v = .ok request) :
    ofRequest isHttpUrl support false v = .ok (ofParsed isHttpUrl support request) := by
  simp only [ofRequest, h, bind, Except.bind]
  rfl

theorem ofRequest_strict (h : SessionRequest.parse v = .ok request) :
    ofRequest isHttpUrl support true v = match request.scopes.required.refusal? support.supported with
      | some refusal => .error (.ofCode refusal.code)
      | none => .ok (ofParsed isHttpUrl support request) := by
  simp only [ofRequest, h, bind, Except.bind, if_true]
  cases request.scopes.required.refusal? support.supported <;> rfl

/-- What becomes of a strict request is decided by its required scopes. -/
theorem ofRequest_strict_cases (h : SessionRequest.parse v = .ok request) :
    (ofParsed isHttpUrl support request).required.AllServed ∧
      ofRequest isHttpUrl support true v = .ok (ofParsed isHttpUrl support request) ∨
    ¬ (ofParsed isHttpUrl support request).required.AllServed ∧ ∃ name o n,
      request.scopes.required.FirstMissing (ofParsed isHttpUrl support request).required.supported name o ∧
      o.RefusedWith support.supported name n ∧ ofRequest isHttpUrl support true v = .error (.ofCode (.ofCode n)) := by
  have hserved : request.scopes.required.refusal? support.supported = none ↔
      (ofParsed isHttpUrl support request).required.AllServed := ScopeMap.refusal?_eq_none_iff_allServed
  rw [ofRequest_strict h]
  cases hrefusal : request.scopes.required.refusal? support.supported with
  | none => exact .inl ⟨hserved.1 hrefusal, rfl⟩
  | some r =>
    obtain ⟨name, o, hfirst, hcode⟩ := ScopeMap.firstMissing_of_refusal? hrefusal
    refine .inr ⟨?_, name, o, r.code.code, hfirst, hcode, by rw [r.ofCode_code]⟩
    rw [← hserved, hrefusal]
    simp

/-- **Strict requests fail or pass as their buckets tell.** A request that cannot be read fails in the same way, strict
or not. One that is processed passes unchanged when it is strict if all of its required scopes are supported, and fails
for the first one that is not otherwise. Nothing but the required scopes matters to this. -/
theorem strict_agrees (isHttpUrl : String → Bool) (support : ChainSupport) (v v' : Json) :
    (∀ e, ofRequest isHttpUrl support false v = .error e → ofRequest isHttpUrl support true v = .error e) ∧
    (∀ r, ofRequest isHttpUrl support false v = .ok r → ∃ request, SessionRequest.parse v = .ok request ∧
      (r.required.AllServed ∧ ofRequest isHttpUrl support true v = .ok r ∨
      ¬ r.required.AllServed ∧ ∃ name o n, request.scopes.required.FirstMissing r.required.supported name o ∧
        o.RefusedWith support.supported name n ∧ ofRequest isHttpUrl support true v = .error (.ofCode (.ofCode n)))) ∧
    ∀ request request', SessionRequest.parse v = .ok request → SessionRequest.parse v' = .ok request' →
      request.requiredScopes = request'.requiredScopes →
      ∀ e, ofRequest isHttpUrl support true v = .error e ↔ ofRequest isHttpUrl support true v' = .error e := by
  refine ⟨fun e he => ?_, fun r hr => ?_, fun request request' hv hv' hsame e => ?_⟩
  · cases hv : SessionRequest.parse v with
    | error e' =>
      rw [ofRequest_of_error hv] at he ⊢
      exact he
    | ok request =>
      rw [ofRequest_lenient hv] at he
      cases he
  · cases hv : SessionRequest.parse v with
    | error e =>
      rw [ofRequest_of_error hv] at hr
      cases hr
    | ok request =>
      rw [ofRequest_lenient hv] at hr
      cases hr
      exact ⟨request, rfl, ofRequest_strict_cases hv⟩
  · have hscopes : request.scopes.required = request'.scopes.required := by
      simp only [SessionRequest.scopes, SessionRequest.declared, ScopeSides.negotiate, hsame]
    rw [ofRequest_strict hv, ofRequest_strict hv', hscopes]
    cases request'.scopes.required.refusal? support.supported <;> simp

end ProcessedRequest
end WalletSession
