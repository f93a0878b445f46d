import WalletSession.Proofs.AddChain
import WalletSession.Session.ScopedProperties

set_option autoImplicit false

/-! # Sanitized properties stay as they are

Sanitizing keeps a bag for every scope that was asked for, and in it the parameters that are accepted for adding the
chain of this scope. What is kept is written in a form that is accepted again, so that sanitizing a second time, after
the properties went over the wire, changes nothing, and asking for more scopes does not bring any back
(`ScopedProperties.sanitize_exact`), whatever texts are taken for URLs. -/

namespace WalletSession

variable {isHttpUrl : String → Bool}

/-- Parameters that are accepted are accepted as they are written. -/
theorem AddChain.check_toJson {scope : String} {value : Json} {p : AddChainParameters}
    (h : check isHttpUrl scope value = .ok p) : check isHttpUrl scope p.toJson = .ok p := by
  obtain ⟨n, hadd, -, hdescribes⟩ := check_eq_ok_iff.1 h
  exact check_eq_ok_iff.2 ⟨n, hadd, AddChainParameters.decode_toJson p, hdescribes⟩

namespace PropertyBag

variable {scope : String} {v : Json}

theorem eq_iff_addChain {a b : PropertyBag} :
    a = b ↔ ∀ p, a.addChain = some p ↔ b.addChain = some p := by
  obtain ⟨a⟩ := a
  obtain ⟨b⟩ := b
  rw [mk.injEq, Option.ext_iff]

theorem field?_toJson (b : PropertyBag) :
    b.toJson.field? addChainName = b.addChain.map AddChainParameters.toJson :=
  Json.field?_ofFields (by simp) (by simp)

theorem toOption_eq_some_iff {ε α : Type} {x : Except ε α} {a : α} : x.toOption = some a ↔ x = .ok a := by
  cases x <;> simp [Except.toOption]

theorem ofProperties_addChain_eq_some_iff {p : AddChainParameters} :
    (ofProperties isHttpUrl scope v).addChain = some p ↔
      ∃ params, v.field? addChainName = some params ∧ AddChain.check isHttpUrl scope params = .ok p := by
  simp only [ofProperties, Option.bind_eq_some_iff, toOption_eq_some_iff]

/-- What is kept of properties is kept of what is written for them. -/
theorem ofProperties_toJson (scope : String) (v : Json) :
    ofProperties isHttpUrl scope (ofProperties isHttpUrl scope v).toJson = ofProperties isHttpUrl scope v := by
  rw [eq_iff_addChain]
  intro p
  rw [ofProperties_addChain_eq_some_iff, field?_toJson]
  constructor
  · rintro ⟨params, hparams, hcheck⟩
    obtain ⟨q, hq, rfl⟩ := Option.map_eq_some_iff.1 hparams
    obtain ⟨params, -, haccepted⟩ := ofProperties_addChain_eq_some_iff.1 hq
    rw [AddChain.check_toJson haccepted] at hcheck
    rwa [← Except.ok.inj hcheck]
  · intro hp
    obtain ⟨params, -, haccepted⟩ := ofProperties_addChain_eq_some_iff.1 hp
    exact ⟨p.toJson, by rw [hp, Option.map_some], AddChain.check_toJson haccepted⟩

end PropertyBag

namespace ScopedProperties

variable {requested : String → Bool} {properties : KeyMap Json}

theorem get?_sanitize (isHttpUrl requested : String → Bool) (properties : KeyMap Json) (scope : String) :
    (sanitize isHttpUrl requested properties).get? scope =
      (properties.get? scope).bind fun v => if requested scope then some (.ofProperties isHttpUrl scope v) else none :=
  KeyMap.get?_filterMap _ properties scope

theorem get?_sanitize_eq_some_iff {scope : String} {b : PropertyBag} :
    (sanitize isHttpUrl requested properties).get? scope = some b ↔
      requested scope = true ∧ ∃ v, properties.get? scope = some v ∧ b = .ofProperties isHttpUrl scope v := by
  rw [get?_sanitize, Option.bind_eq_some_iff]
  cases requested scope <;> simp [eq_comm]

/-- The properties that are written for what was kept. -/
def written (m : ScopedProperties) : KeyMap Json := m.map fun _ b => b.toJson

theorem decode_toJson (m : ScopedProperties) : Json.decodeMap Json.decodeAny m.toJson = .ok m.written :=
  Json.decodeMap_decodeAny_ofMap m.written

/-- **What was kept is kept again**, whatever else is asked for. -/
theorem sanitize_written {larger : String → Bool} (h : ∀ scope, requested scope = true → larger scope = true) :
    sanitize isHttpUrl larger (sanitize isHttpUrl requested properties).written =
      sanitize isHttpUrl requested properties := by
  ext scope b
  rw [get?_sanitize_eq_some_iff, written, KeyMap.get?_map]
  cases hkept : (sanitize isHttpUrl requested properties).get? scope with
  | none => simp
  | some kept =>
    obtain ⟨hrequested, v, -, rfl⟩ := get?_sanitize_eq_some_iff.1 hkept
    simp [h scope hrequested, PropertyBag.ofProperties_toJson, eq_comm]

/-- Whether something is declared under a name on one of two sides. -/
def declaredIn {α : Type} (required optional : KeyMap α) (name : String) : Bool :=
  required.contains name || optional.contains name

/-- The properties `v` of a scope come down to `b`. -/
def ComesDownTo (isHttpUrl : String → Bool) (scope : String) (v : Json) (b : PropertyBag) : Prop :=
  ∀ p, b.addChain = some p ↔ ∃ fields params, v = .object fields ∧
    (KeyMap.ofList fields).get? "eip3085" = some params ∧ AddChain.check isHttpUrl scope params = .ok p

theorem comesDownTo_iff {scope : String} {v : Json} {b : PropertyBag} :
    ComesDownTo isHttpUrl scope v b ↔ b = .ofProperties isHttpUrl scope v := by
  have hfield (params : Json) : v.field? PropertyBag.addChainName = some params ↔
      ∃ fields, v = .object fields ∧ (KeyMap.ofList fields).get? "eip3085" = some params := by
    cases v <;> simp [Json.field?, Json.members?, PropertyBag.addChainName]
  have hkept (p : AddChainParameters) : (PropertyBag.ofProperties isHttpUrl scope v).addChain = some p ↔
      ∃ fields params, v = .object fields ∧ (KeyMap.ofList fields).get? "eip3085" = some params ∧
        AddChain.check isHttpUrl scope params = .ok p := by
    rw [PropertyBag.ofProperties_addChain_eq_some_iff]
    constructor
    · rintro ⟨params, hparams, hcheck⟩
      obtain ⟨fields, hv, hget⟩ := (hfield params).1 hparams
      exact ⟨fields, params, hv, hget, hcheck⟩
    · rintro ⟨fields, params, hv, hget, hcheck⟩
      exact ⟨params, (hfield params).2 ⟨fields, hv, hget⟩, hcheck⟩
  rw [PropertyBag.eq_iff_addChain]
  exact forall_congr' fun p => by rw [hkept p]

/-- **Sanitizing is exact, and final**: the properties that are kept are those of the scopes that were asked for, down to
the parameters that are accepted, and all of them are kept again when they are read back, whatever else is asked for. -/
theorem sanitize_exact {α : Type} (isHttpUrl : String → Bool) (required optional : KeyMap α)
    (properties : KeyMap Json) :
    (∀ scope b, (sanitize isHttpUrl (declaredIn required optional) properties).get? scope = some b ↔
      (required.contains scope = true ∨ optional.contains scope = true) ∧
        ∃ v, properties.get? scope = some v ∧ ComesDownTo isHttpUrl scope v b) ∧
    ∃ written,
      Json.decodeMap Json.decodeAny (sanitize isHttpUrl (declaredIn required optional) properties).toJson =
        .ok written ∧
      ∀ (β : Type) (required' optional' : KeyMap β),
        (∀ scope, required.contains scope = true → required'.contains scope = true) →
        (∀ scope, optional.contains scope = true → optional'.contains scope = true) →
        sanitize isHttpUrl (declaredIn required' optional') written =
          sanitize isHttpUrl (declaredIn required optional) properties := by
  refine ⟨?_, _, decode_toJson _, ?_⟩
  · intro scope b
    simp only [get?_sanitize_eq_some_iff, comesDownTo_iff, declaredIn, Bool.or_eq_true]
  · intro β required' optional' hrequired hoptional
    refine sanitize_written ?_
    intro scope h
    rw [declaredIn, Bool.or_eq_true] at h ⊢
    exact h.imp (hrequired scope) (hoptional scope)

end ScopedProperties
end WalletSession
