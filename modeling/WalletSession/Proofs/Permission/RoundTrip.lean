import WalletSession.Caveat.Removal
import WalletSession.Permission.Basic
import WalletSession.Proofs.Scope.RoundTrip

set_option autoImplicit false

/-! # Permissions are read back as written

A permission, its caveats, the value of a session's caveat and what a removal comes to are read back from their records.
The value of a caveat is not looked into, so it stays as it is. -/

namespace WalletSession

open Json

/-! ## Caveat values -/

namespace CaveatValue

/-- The fields that a caveat value is written with. -/
def writtenFields (v : CaveatValue) : List WrittenField := [
  ⟨requiredScopesField, some v.required.toJson, v.required, ScopeMap.decode_toJson _⟩,
  ⟨optionalScopesField, some v.optional.toJson, v.optional, ScopeMap.decode_toJson _⟩,
  ⟨sessionPropertiesField, some (.ofMap v.sessionProperties), v.sessionProperties, decodeMap_decodeAny_ofMap _⟩]

theorem decode_toJson : Undoes decode toJson := by
  intro v
  obtain ⟨source, hsource, hfield, hend⟩ :=
    RecordShape.exists_source shape v.writtenFields rfl (by decide) .inPlace
  simp only [writtenFields, List.forall_mem_cons, List.not_mem_nil, false_imp_iff, implies_true,
    and_true] at hfield
  obtain ⟨hrequired, hoptional, hproperties⟩ := hfield
  have hrecord : shape.source v.toJson = .ok source := hsource
  simp only [decode, bind, Except.bind, hrecord, hrequired, hoptional, hproperties, hend]
  rfl

end CaveatValue

/-! ## Outcomes of removals -/

theorem RemovalOperation.decode_toJson : Undoes RemovalOperation.decode RemovalOperation.toJson := by
  intro op
  cases op <;> rfl

namespace RemovalOutcome

theorem ofParts_operation (o : RemovalOutcome) :
    ofParts o.operation (o.value?.map CaveatValue.toJson) = .ok o := by
  cases o with
  | unchanged => rfl
  | revoked => rfl
  | updated v => exact congrArg (Except.map RemovalOutcome.updated) (CaveatValue.decode_toJson v)

theorem decode_toJson : Undoes decode toJson := by
  intro o
  have hoperation : o.toJson.field? "operation" = some o.operation.toJson :=
    field?_ofFields (by simp) (by simp)
  have hvalue : o.toJson.field? "value" = o.value?.map CaveatValue.toJson :=
    field?_ofFields (by simp) (by simp)
  obtain ⟨fields, hfields⟩ : ∃ fields, o.toJson = .object fields := ⟨_, rfl⟩
  rw [hfields] at hoperation hvalue ⊢
  have htag : (KeyMap.ofList fields).get? "operation" = some o.operation.toJson := hoperation
  have hcontent : (KeyMap.ofList fields).get? "value" = o.value?.map CaveatValue.toJson := hvalue
  simp only [decode, htag, hcontent, RemovalOperation.decode_toJson _, bind, Except.bind, ofParts_operation]

end RemovalOutcome

/-! ## Permissions -/

namespace Caveat

/-- The fields that a caveat is written with. -/
def writtenFields (c : Caveat) : List WrittenField := [
  ⟨typeField, some (.string c.type), c.type, rfl⟩,
  ⟨valueField, some c.value, c.value, rfl⟩]

theorem decode_toJson : Undoes decode toJson := by
  intro c
  obtain ⟨source, hsource, hfield, hend⟩ :=
    RecordShape.exists_source shape c.writtenFields rfl (by decide) .inPlace
  simp only [writtenFields, List.forall_mem_cons, List.not_mem_nil, false_imp_iff, implies_true,
    and_true] at hfield
  obtain ⟨htype, hvalue⟩ := hfield
  have hrecord : shape.source c.toJson = .ok source := hsource
  simp only [decode, bind, Except.bind, hrecord, htype, hvalue, hend]
  rfl

end Caveat

namespace Permission

/-- The fields that a permission is written with. -/
def writtenFields (p : Permission) : List WrittenField := [
  ⟨parentCapabilityField, some (.string p.parentCapability), p.parentCapability, rfl⟩,
  ⟨invokerField, some (.string p.invoker), p.invoker, rfl⟩,
  ⟨caveatsField, p.caveats.map fun cs => .array (cs.map Caveat.toJson), p.caveats,
    reads_optional _ (fun _ => rfl) Caveat.decode_toJson.list⟩]

theorem decode_toJson : Undoes decode toJson := by
  intro p
  obtain ⟨source, hsource, hfield, hend⟩ :=
    RecordShape.exists_source shape p.writtenFields rfl (by decide) .inPlace
  simp only [writtenFields, List.forall_mem_cons, List.not_mem_nil, false_imp_iff, implies_true,
    and_true] at hfield
  obtain ⟨hcapability, hinvoker, hcaveats⟩ := hfield
  have hrecord : shape.source p.toJson = .ok source := hsource
  simp only [decode, bind, Except.bind, hrecord, hcapability, hinvoker, hcaveats, hend]
  rfl

end Permission
end WalletSession
