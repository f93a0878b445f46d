import WalletSession.Command.Run
import WalletSession.Proofs.Caveat
import WalletSession.Proofs.Permission.RoundTrip

set_option autoImplicit false

/-! # Removals from stored permissions

The check of a stored permission reads the two sides of its caveat value one declaration at a time, while a removal
reads the value as a whole. On the sides the two agree: what the check accepts is read as a caveat value in normal
form. The properties of the session are left to the removal alone (`CaveatValue.decode_of_holds`), so that it fails
on an accepted permission if and only if they are given but are no object, and a value that it leaves is accepted
again (`SessionPermission.removal_of_accepted`). -/

namespace WalletSession

open Json

/-! ## Reading an accepted caveat value -/

namespace CaveatValue

/-- The properties of a session in the record of a caveat value, which need not be given. -/
def readProperties (value : Json) : Except DecodeError (KeyMap Json) :=
  match value.field? sessionPropertiesField.name with
  | none => .ok .empty
  | some given => sessionPropertiesField.decode given

variable {fields : List (String × Json)} {value : Json} {raw : ScopeSides RawScopes}
variable {required optional : ScopeMap}

theorem readProperties_eq_ok_iff {properties : KeyMap Json} : readProperties value = .ok properties ↔
    sessionPropertiesField.Reads (value.field? sessionPropertiesField.name) properties := by
  have habsent : sessionPropertiesField.absent = some .empty := rfl
  cases hgiven : value.field? sessionPropertiesField.name <;> simp [readProperties, hgiven, Field.Reads, habsent]

theorem readProperties_eq_error_iff {e : DecodeError} : readProperties value = .error e ↔
    ∃ given, value.field? sessionPropertiesField.name = some given ∧ sessionPropertiesField.decode given = .error e := by
  cases hgiven : value.field? sessionPropertiesField.name <;> simp [readProperties, hgiven]

/-- If the declarations are scope objects, nothing but the properties can be in the way. -/
theorem firstProblem?_of_holds (hraw : SessionPermission.Holds (.object fields) raw)
    (hrequired : raw.required.traverse ScopeObject.decode = .ok required)
    (hoptional : raw.optional.traverse ScopeObject.decode = .ok optional) :
    shape.firstProblem? (.ofList fields) =
      ((KeyMap.ofList fields).get? sessionPropertiesField.name).bind (shape.problem? sessionPropertiesField.name) := by
  obtain ⟨r, o, hr, ho, rfl⟩ := hraw
  refine KeyMap.findSome?_toList_of_key fun e he hne => ?_
  have hv := KeyMap.mem_toList.1 he
  by_cases hr' : e.1 = requiredScopesField.name
  · have hvalue : e.2 = .object r := Option.some.inj (hv.symm.trans (hr' ▸ hr))
    rw [hr', hvalue]
    exact RecordShape.problem?_of_ok rfl hrequired
  by_cases ho' : e.1 = optionalScopesField.name
  · have hvalue : e.2 = .object o := Option.some.inj (hv.symm.trans (ho' ▸ ho))
    rw [ho', hvalue]
    exact RecordShape.problem?_of_ok rfl hoptional
  · have hnames : shape.names =
        [requiredScopesField.name, optionalScopesField.name, sessionPropertiesField.name] := rfl
    exact RecordShape.problem?_of_other rfl (by simp [hnames, hr', ho', hne]) e.2

/-- The properties decide whether there is a caveat value, and what is wrong if there is none. -/
theorem decode_of_holds (hraw : SessionPermission.Holds value raw)
    (hrequired : raw.required.traverse ScopeObject.decode = .ok required)
    (hoptional : raw.optional.traverse ScopeObject.decode = .ok optional) :
    decode value = (readProperties value).map fun sessionProperties =>
      { required, optional, sessionProperties } := by
  obtain ⟨fields, rfl⟩ := hraw.exists_object
  have hfirst := firstProblem?_of_holds hraw hrequired hoptional
  obtain ⟨r, o, hr, ho, rfl⟩ := hraw
  have hr : (KeyMap.ofList fields).get? requiredScopesField.name = some (.object r) := hr
  have ho : (KeyMap.ofList fields).get? optionalScopesField.name = some (.object o) := ho
  cases hread : readProperties (.object fields) with
  | ok properties =>
    have hproperties : sessionPropertiesField.Reads
        ((KeyMap.ofList fields).get? sessionPropertiesField.name) properties := readProperties_eq_ok_iff.1 hread
    -- All members of an object are looked at before any field is taken.
    have hnone : shape.firstProblem? (.ofList fields) = none := by
      rw [hfirst, Option.bind_eq_none_iff]
      intro given hgiven
      rw [hgiven] at hproperties
      exact RecordShape.problem?_of_ok rfl hproperties
    have hsource : shape.source (.object fields) = .ok (.members (.ofList fields)) := by
      simp only [RecordShape.source, hnone]
    have hrequired' : shape.field (.members (.ofList fields)) requiredScopesField = .ok required := by
      rw [RecordShape.field_eq_ok_iff, hr]
      exact hrequired
    have hoptional' : shape.field (.members (.ofList fields)) optionalScopesField = .ok optional := by
      rw [RecordShape.field_eq_ok_iff, ho]
      exact hoptional
    have hproperties' : shape.field (.members (.ofList fields)) sessionPropertiesField = .ok properties :=
      RecordShape.field_eq_ok_iff.2 hproperties
    simp only [decode, bind, Except.bind, hsource, hrequired', hoptional', hproperties']
    rfl
  | error e =>
    obtain ⟨given, hgiven, herror⟩ := readProperties_eq_error_iff.1 hread
    have hgiven : (KeyMap.ofList fields).get? sessionPropertiesField.name = some given := hgiven
    rw [hgiven, Option.bind_some, RecordShape.problem?_of_error rfl herror] at hfirst
    have hsource : shape.source (.object fields) = .error e := by
      simp only [RecordShape.source, hfirst]
    simp only [decode, bind, Except.bind, hsource]
    rfl

/-- Any properties are read, as long as they are an object. -/
theorem readProperties_cases (value : Json) :
    ((∀ given, value.field? "sessionProperties" = some given → ∃ members, given = .object members) ∧
      ∃ properties, readProperties value = .ok properties) ∨
    ∃ given, value.field? "sessionProperties" = some given ∧ (∀ members, given ≠ .object members) ∧
      readProperties value = .error (.invalidType given.found .map) := by
  have hread : readProperties value = match value.field? "sessionProperties" with
    | none => .ok .empty
    | some given => decodeMap decodeAny given := rfl
  rw [hread]
  cases value.field? "sessionProperties" with
  | none => exact .inl ⟨nofun, .empty, rfl⟩
  | some given =>
    cases given with
    | object members => exact .inl ⟨fun _ h => ⟨members, (Option.some.inj h).symm⟩, _, traverse_decodeAny _⟩
    | _ => exact .inr ⟨_, rfl, nofun, rfl⟩

end CaveatValue

/-! ## Removals -/

namespace Command

variable {stored value : Json}

theorem validatePermissionValue_eq_ok_iff : validatePermissionValue stored = .ok () ↔
    ∃ p, Permission.decode stored = .ok p ∧ p.parentCapability = SessionPermission.targetName ∧
      SessionPermission.check p = .ok () := by
  unfold validatePermissionValue
  cases Permission.decode stored with
  | error e => simp [bind, Except.bind, Except.mapError]
  | ok p =>
    simp only [Except.mapError, bind, Except.bind, Except.ok.injEq, exists_eq_left']
    split
    · next h => simp [h]
    · next h =>
      rw [not_not] at h
      cases SessionPermission.check p <;> simp [h]

/-- What a removal comes to, up to the properties. -/
theorem mutateCaveatValue_of_holds {raw : ScopeSides RawScopes} {required optional : ScopeMap}
    (hraw : SessionPermission.Holds value raw) (hrequired : raw.required.traverse ScopeObject.decode = .ok required)
    (hoptional : raw.optional.traverse ScopeObject.decode = .ok optional) (kind : RemovalKind) (target : String) :
    mutateCaveatValue kind target value = match CaveatValue.readProperties value with
      | .ok properties => .ok (CaveatValue.remove ⟨⟨required, optional⟩, properties⟩ kind target)
      | .error e => .error ⟨"invalid caveat value", [e.message]⟩ := by
  unfold mutateCaveatValue
  rw [CaveatValue.decode_of_holds hraw hrequired hoptional]
  cases CaveatValue.readProperties value <;> rfl

end Command

namespace SessionPermission

/-- **A removal from an accepted permission fails only on properties that are no object**, which the check does not
look at, and a value that it leaves is accepted again. -/
theorem removal_of_accepted {stored : Json} (h : Command.validatePermissionValue stored = .ok ()) :
    ∃ p value, Permission.decode stored = .ok p ∧ p.caveats = some [⟨"authorizedScopes", value⟩] ∧
      ∀ kind target,
        ((∃ outcome, Command.mutateCaveatValue kind target value = .ok outcome) ↔
          ∀ given, value.field? "sessionProperties" = some given → ∃ members, given = .object members) ∧
        (∀ report, Command.mutateCaveatValue kind target value = .error report →
          ∃ given, value.field? "sessionProperties" = some given ∧
            report = ⟨"invalid caveat value", ["invalid type: " ++ given.found.words ++ ", expected a map"]⟩) ∧
        ∀ w, Command.mutateCaveatValue kind target value = .ok (.updated w) →
          ∀ stored', Permission.decode stored' = .ok { p with caveats := some [⟨"authorizedScopes", w.toJson⟩] } →
            Command.validatePermissionValue stored' = .ok () := by
  obtain ⟨p, hdecode, hcapability, hcheck⟩ := Command.validatePermissionValue_eq_ok_iff.1 h
  obtain ⟨value, raw, hcaveats, hraw, hrequired, hoptional⟩ := exists_normal_of_check hcheck
  obtain ⟨required, hrequired, hrequiredNormal⟩ := hrequired.exists_traverse
  obtain ⟨optional, hoptional, hoptionalNormal⟩ := hoptional.exists_traverse
  refine ⟨p, value, hdecode, hcaveats, fun kind target => ?_⟩
  rw [Command.mutateCaveatValue_of_holds hraw hrequired hoptional]
  rcases CaveatValue.readProperties_cases value with ⟨hobject, properties, hread⟩ | ⟨given, hgiven, hobject, hread⟩
  · rw [hread]
    refine ⟨⟨fun _ => hobject, fun _ => ⟨_, rfl⟩⟩, nofun, fun w hw stored' hstored => ?_⟩
    have hnormal : CaveatValue.IsNormal ⟨⟨required, optional⟩, properties⟩ := ⟨hrequiredNormal, hoptionalNormal⟩
    have hcheck' := check_of_isNormal p.parentCapability p.invoker (hnormal.of_remove (Except.ok.inj hw))
    exact Command.validatePermissionValue_eq_ok_iff.2 ⟨_, hstored, hcapability, hcheck'⟩
  · rw [hread]
    refine ⟨⟨nofun, fun hall => ?_⟩, fun report hreport => ?_, nofun⟩
    · obtain ⟨members, hmembers⟩ := hall given hgiven
      exact absurd hmembers (hobject members)
    · have hmessage : (DecodeError.invalidType given.found .map).message =
          "invalid type: " ++ given.found.words ++ ", expected a map" := String.append_assoc
      cases hreport
      exact ⟨given, hgiven, by rw [hmessage]⟩

/-- The chain goes, the namespace stays, and what is left is accepted. -/
theorem removal_of_accepted_chain :
    let v : CaveatValue := {
      required := .ofList [("wallet", {})], optional := .ofList [("eip155:1", { methods := ["eth_call"] })] }
    let w : CaveatValue := { required := .ofList [("wallet", {})], optional := .empty }
    let stored (v : CaveatValue) : Json := (v.permission "https://dapp.example").toJson
    Command.validatePermissionValue (stored v) = .ok () ∧
      Command.mutateCaveatValue .scope "eip155:1" v.toJson = .ok (.updated w) ∧
      Command.validatePermissionValue (stored w) = .ok () := by
  intro v w stored
  have hnormal : v.IsNormal := ⟨by decide +kernel, by decide +kernel⟩
  have hv : Command.validatePermissionValue (stored v) = .ok () :=
    Command.validatePermissionValue_eq_ok_iff.2
      ⟨_, Permission.decode_toJson _, rfl, CaveatValue.accepted_iff.2 hnormal "https://dapp.example"⟩
  have hw : Command.mutateCaveatValue .scope "eip155:1" v.toJson = .ok (.updated w) := by
    unfold Command.mutateCaveatValue
    rw [CaveatValue.decode_toJson]
    rfl
  obtain ⟨p, value, hdecode, hcaveats, hremoval⟩ := removal_of_accepted hv
  rw [Permission.decode_toJson] at hdecode
  cases hdecode
  cases hcaveats
  exact ⟨hv, hw, (hremoval .scope "eip155:1").2.2 w hw _ (Permission.decode_toJson _)⟩

/-- Properties that are `null` are accepted, but no removal can read them. -/
theorem accepted_without_removal :
    let value : Json := .object [("requiredScopes", .object []), ("optionalScopes", .object []),
      ("sessionProperties", .null)]
    Command.validatePermissionValue (.object [("parentCapability", .string "endowment:caip25"),
      ("invoker", .string "https://dapp.example"),
      ("caveats", .array [.object [("type", .string "authorizedScopes"), ("value", value)]])]) = .ok () ∧
    ∀ kind target, Command.mutateCaveatValue kind target value =
      .error ⟨"invalid caveat value", ["invalid type: null, expected a map"]⟩ :=
  ⟨rfl, fun _ _ => rfl⟩

end SessionPermission
end WalletSession
