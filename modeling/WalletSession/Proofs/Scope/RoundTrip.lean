import WalletSession.Proofs.Json.RoundTrip
import WalletSession.Scope.Negotiation

set_option autoImplicit false

/-! # Scope objects are read back as written

What a scope object does not say is left out of its record and read as missing, so the record stands for the
same scope object (`ScopeObject.decode_toJson`); a map of scope objects can therefore be negotiated in writing
as well (`ScopeMap.valid_toRaw`). -/

namespace WalletSession

open Json

namespace ScopeObject

/-- The fields that a scope object is written with. -/
def writtenFields (o : ScopeObject) : List WrittenField := [
  ⟨scopesField, o.scopes.map Json.ofStrings, o.scopes, reads_optional _ (fun _ => rfl) decodeStrings_ofStrings⟩,
  ⟨methodsField, some (Json.ofStrings o.methods), o.methods, decodeStrings_ofStrings _⟩,
  ⟨notificationsField, some (Json.ofStrings o.notifications), o.notifications, decodeStrings_ofStrings _⟩,
  ⟨accountsField, some (Json.ofStrings o.accounts), o.accounts, decodeStrings_ofStrings _⟩,
  ⟨rpcDocumentsField, o.rpcDocuments.map Json.ofStrings, o.rpcDocuments,
    reads_optional _ (fun _ => rfl) decodeStrings_ofStrings⟩,
  ⟨rpcEndpointsField, o.rpcEndpoints.map Json.ofStrings, o.rpcEndpoints,
    reads_optional _ (fun _ => rfl) decodeStrings_ofStrings⟩]

/-- **Reading undoes writing.** -/
theorem decode_toJson : Undoes decode toJson := by
  intro o
  obtain ⟨source, hsource, hfield, hend⟩ :=
    RecordShape.exists_source shape o.writtenFields rfl (by decide) .inPlace
  simp only [writtenFields, List.forall_mem_cons, List.not_mem_nil, false_imp_iff, implies_true,
    and_true] at hfield
  obtain ⟨hscopes, hmethods, hnotifications, haccounts, hdocuments, hendpoints⟩ := hfield
  have hrecord : shape.source o.toJson = .ok source := hsource
  simp only [decode, bind, Except.bind, hrecord, hscopes, hmethods, hnotifications, haccounts, hdocuments,
    hendpoints, hend]
  rfl

theorem ofJson?_toJson (o : ScopeObject) : ofJson? o.toJson = some o := by
  rw [ofJson?, decode_toJson]
  rfl

end ScopeObject

namespace ScopeMap

theorem get?_toRaw (m : ScopeMap) (name : String) :
    m.toRaw.get? name = (m.get? name).map ScopeObject.toJson :=
  KeyMap.get?_map _ m name

theorem traverse_decode_toRaw (m : ScopeMap) : m.toRaw.traverse ScopeObject.decode = .ok m :=
  KeyMap.traverse_map ScopeObject.decode ScopeObject.toJson ScopeObject.decode_toJson m

theorem decode_toJson : Undoes decode toJson :=
  Json.decodeMap_ofMap ScopeObject.decode ScopeObject.toJson ScopeObject.decode_toJson

/-- The object of a map is read as the declarations that it is written as. -/
theorem rawDecode_toJson (m : ScopeMap) : RawScopes.decode m.toJson = .ok m.toRaw :=
  Json.decodeMap_decodeAny_ofMap m.toRaw

/-- In writing the same declarations are valid. -/
theorem valid_toRaw (m : ScopeMap) : m.toRaw.valid = m.valid := by
  ext name o
  rw [RawScopes.get?_valid, get?_valid, get?_toRaw]
  cases m.get? name with
  | none => rfl
  | some o' => simp [ScopeObject.validOfJson?, ScopeObject.ofJson?_toJson]

end ScopeMap
end WalletSession
