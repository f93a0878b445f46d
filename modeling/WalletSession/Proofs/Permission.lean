import WalletSession.Proofs.Scope.NormalForm

set_option autoImplicit false

/-! # What the session permission accepts

The check of a session permission compares the scopes of its caveat with what negotiating them again leaves. This
comes to a condition on every single declaration (`RawScopes.isNormalized_iff`): negotiation ends in normal form, so
nothing that is dropped or handed on can be made up for by other declarations. The outcome of the check is
thereby settled for all permissions (`SessionPermission.check_decides`). -/

namespace WalletSession

/-! ## Declarations in normal form -/

namespace RawScopes

/-- Every declaration is a scope object that is valid for its name, and no namespace has a list of chains. -/
def IsNormal (raw : RawScopes) : Prop :=
  ∀ name v, raw.get? name = some v → ∃ o, ScopeObject.decode v = .ok o ∧
    o.isValidFor name = true ∧ (ScopeName.parse name = .bare name → o.scopes = none)

variable {raw : RawScopes} {m : ScopeMap}

/-- Declarations that are all scope objects are as normal as these. -/
theorem isNormal_iff_of_traverse (h : raw.traverse ScopeObject.decode = .ok m) : raw.IsNormal ↔ m.IsNormal := by
  have hget := KeyMap.get?_traverse h
  constructor
  · intro hraw name o ho
    rw [hget, Option.bind_eq_some_iff] at ho
    obtain ⟨v, hv, hdecode⟩ := ho
    obtain ⟨o', hdecode', hnormal⟩ := hraw name v hv
    rw [hdecode'] at hdecode
    cases hdecode
    exact hnormal
  · intro hm name v hv
    obtain ⟨o, hdecode⟩ := KeyMap.traverse_ok_iff.1 ⟨m, h⟩ name v hv
    have ho : m.get? name = some o := by
      rw [hget, hv, Option.bind_some, hdecode]
      rfl
    exact ⟨o, hdecode, hm name o ho⟩

theorem valid_of_traverse (h : raw.traverse ScopeObject.decode = .ok m) : raw.valid = m.valid := by
  ext name o
  rw [get?_valid, ScopeMap.get?_valid, KeyMap.get?_traverse h]
  cases raw.get? name <;> rfl

/-- Declarations in normal form are scope objects. -/
theorem IsNormal.exists_traverse (h : raw.IsNormal) :
    ∃ m, raw.traverse ScopeObject.decode = .ok m ∧ ScopeMap.IsNormal m := by
  have hall : ∀ name v, raw.get? name = some v → ∃ o, ScopeObject.decode v = .ok o := by
    intro name v hv
    obtain ⟨o, hdecode, -⟩ := h name v hv
    exact ⟨o, hdecode⟩
  obtain ⟨m, hm⟩ := KeyMap.traverse_ok_iff.2 hall
  exact ⟨m, hm, (isNormal_iff_of_traverse hm).1 h⟩

/-- **Declarations that negotiation leaves as they are, are normal one by one.** -/
theorem isNormalized_iff : SessionPermission.isNormalized raw raw.valid.flatten = true ↔ raw.IsNormal := by
  unfold SessionPermission.isNormalized
  cases h : raw.traverse ScopeObject.decode with
  | ok m =>
    rw [isNormal_iff_of_traverse h, decide_eq_true_eq, valid_of_traverse h]
    constructor
    · intro heq
      have hnormal := raw.isNormal_flatten_valid
      rwa [valid_of_traverse h, ← heq] at hnormal
    · intro hm
      rw [hm.valid_eq, hm.flatten_eq]
  | error e =>
    -- Some declaration is no scope object.
    have hnot : ¬ raw.IsNormal := by
      intro hraw
      obtain ⟨m, hm, -⟩ := hraw.exists_traverse
      rw [h] at hm
      cases hm
    simp [hnot]

end RawScopes

/-! ## The check -/

namespace SessionPermission

/-- A value is an object that holds objects for both sides, with these declarations. -/
def Holds (value : Json) (raw : ScopeSides RawScopes) : Prop :=
  ∃ required optional, value.field? "requiredScopes" = some (.object required) ∧
    value.field? "optionalScopes" = some (.object optional) ∧
    raw = ⟨KeyMap.ofList required, KeyMap.ofList optional⟩

theorem declared?_eq_some_iff {value : Json} {raw : ScopeSides RawScopes} :
    declared? value = some raw ↔ Holds value raw := by
  have hmembers (v : Json) (members : KeyMap Json) :
      v.members? = some members ↔ ∃ fields, v = .object fields ∧ members = .ofList fields := by
    cases v <;> simp [Json.members?, eq_comm]
  obtain ⟨required, optional⟩ := raw
  simp only [declared?, Option.bind_eq_bind, Option.bind_eq_some_iff, Option.pure_def, Option.some.injEq,
    ScopeSides.mk.injEq, Holds, hmembers]
  constructor
  · rintro ⟨_, hrequired, _, hoptional, _, ⟨r, rfl, rfl⟩, _, ⟨o, rfl, rfl⟩, rfl, rfl⟩
    exact ⟨r, o, hrequired, hoptional, rfl, rfl⟩
  · rintro ⟨r, o, hrequired, hoptional, rfl, rfl⟩
    exact ⟨_, hrequired, _, hoptional, _, ⟨r, rfl, rfl⟩, _, ⟨o, rfl, rfl⟩, rfl, rfl⟩

theorem Holds.exists_object {value : Json} {raw : ScopeSides RawScopes} (h : Holds value raw) :
    ∃ fields, value = .object fields := by
  obtain ⟨required, optional, hrequired, -⟩ := h
  cases value with
  | object fields => exact ⟨fields, rfl⟩
  | _ => cases hrequired

variable {p : Permission} {value : Json}

/-- There has to be one caveat, of the one type. -/
theorem check_of_other_caveats (h : ¬ ∃ value, p.caveats = some [⟨caveatType, value⟩]) :
    check p = .error .invalidCaveats := by
  unfold check
  split
  · next caveat hcaveats =>
    have htype : caveat.type ≠ caveatType := by
      rintro htype
      exact h ⟨caveat.value, by rw [hcaveats, ← htype]⟩
    rw [if_neg htype]
  · rfl

/-- Its value has to hold objects for both sides. -/
theorem check_of_not_holds (hcaveats : p.caveats = some [⟨caveatType, value⟩]) (hnone : ∀ raw, ¬ Holds value raw) :
    check p = .error .invalidCaveatValue := by
  have hdeclared : declared? value = none := by
    rw [Option.eq_none_iff_forall_ne_some]
    exact fun raw hraw => hnone raw (declared?_eq_some_iff.1 hraw)
  simp only [check, hcaveats, if_true, hdeclared]

/-- Then it depends on every single declaration. -/
theorem check_of_holds (hcaveats : p.caveats = some [⟨caveatType, value⟩]) {raw : ScopeSides RawScopes}
    (hraw : Holds value raw) :
    (raw.required.IsNormal ∧ raw.optional.IsNormal) ∧ check p = .ok () ∨
    ¬ (raw.required.IsNormal ∧ raw.optional.IsNormal) ∧ check p = .error .nonNormalizedCaveatValue := by
  have hboth : (isNormalized raw.required raw.required.valid.flatten &&
      isNormalized raw.optional raw.optional.valid.flatten) = true ↔
        raw.required.IsNormal ∧ raw.optional.IsNormal := by
    rw [Bool.and_eq_true, RawScopes.isNormalized_iff, RawScopes.isNormalized_iff]
  simp only [check, hcaveats, if_true, declared?_eq_some_iff.2 hraw, ScopeSides.negotiate]
  by_cases hnormal : raw.required.IsNormal ∧ raw.optional.IsNormal
  · exact .inl ⟨hnormal, if_pos (hboth.2 hnormal)⟩
  · exact .inr ⟨hnormal, if_neg (mt hboth.1 hnormal)⟩

/-- A permission that passes has one caveat, with declarations in normal form for both sides. -/
theorem exists_normal_of_check (h : check p = .ok ()) :
    ∃ value raw, p.caveats = some [⟨caveatType, value⟩] ∧ Holds value raw ∧
      raw.required.IsNormal ∧ raw.optional.IsNormal := by
  by_cases hcaveats : ∃ value, p.caveats = some [⟨caveatType, value⟩]
  · obtain ⟨value, hcaveats⟩ := hcaveats
    by_cases hholds : ∃ raw, Holds value raw
    · obtain ⟨raw, hraw⟩ := hholds
      rcases check_of_holds hcaveats hraw with ⟨hnormal, -⟩ | ⟨-, hcheck⟩
      · exact ⟨value, raw, hcaveats, hraw, hnormal⟩
      · rw [h] at hcheck
        cases hcheck
    · rw [check_of_not_holds hcaveats (not_exists.1 hholds)] at h
      cases h
  · rw [check_of_other_caveats hcaveats] at h
    cases h

theorem Holds.unique {raw raw' : ScopeSides RawScopes} (h : Holds value raw) (h' : Holds value raw') :
    raw = raw' := by
  rw [← declared?_eq_some_iff] at h h'
  exact Option.some.inj (h.symm.trans h')

/-- **The outcome of the check, for all permissions.** -/
theorem check_decides (p : Permission) :
    (check p = .error .invalidCaveats ↔ ¬ ∃ value, p.caveats = some [⟨"authorizedScopes", value⟩]) ∧
    (check p = .error .invalidCaveatValue ↔
      ∃ value, p.caveats = some [⟨"authorizedScopes", value⟩] ∧ ∀ raw, ¬ Holds value raw) ∧
    (check p = .ok () ↔
      ∃ value, p.caveats = some [⟨"authorizedScopes", value⟩] ∧ ∃ raw, Holds value raw ∧
        raw.required.IsNormal ∧ raw.optional.IsNormal) ∧
    (check p = .error .nonNormalizedCaveatValue ↔
      ∃ value, p.caveats = some [⟨"authorizedScopes", value⟩] ∧ ∃ raw, Holds value raw ∧
        ¬ (raw.required.IsNormal ∧ raw.optional.IsNormal)) := by
  by_cases hcaveats : ∃ value, p.caveats = some [⟨"authorizedScopes", value⟩]
  · obtain ⟨value, hcaveats⟩ := hcaveats
    have hvalue (value' : Json) : p.caveats = some [⟨"authorizedScopes", value'⟩] ↔ value' = value := by
      simp [hcaveats, eq_comm]
    simp only [hvalue, exists_eq_left]
    by_cases hholds : ∃ raw, Holds value raw
    · obtain ⟨raw, hraw⟩ := hholds
      have hunique (raw' : ScopeSides RawScopes) : Holds value raw' ↔ raw' = raw :=
        ⟨fun h => h.unique hraw, fun h => h ▸ hraw⟩
      simp only [hunique, exists_eq_left]
      rcases check_of_holds hcaveats hraw with ⟨hnormal, hcheck⟩ | ⟨hnormal, hcheck⟩
      · simp [hcheck, hnormal]
      · simp only [hcheck, hnormal]
        simp
    · simp [check_of_not_holds hcaveats (not_exists.1 hholds), not_exists.1 hholds]
  · have hnone (value : Json) : p.caveats ≠ some [⟨"authorizedScopes", value⟩] := not_exists.1 hcaveats value
    simp [check_of_other_caveats hcaveats, hnone]

end SessionPermission
end WalletSession
