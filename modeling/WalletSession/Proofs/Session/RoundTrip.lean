import WalletSession.Proofs.Json.RoundTrip
import WalletSession.Session.Request

set_option autoImplicit false

/-! # Session requests are read back as written

A request, and what it says about chains to add, is read back from its record with all its parts: what it leaves
out stays left out, and values that are not looked into stay as they are. -/

namespace WalletSession

open Json

/-! ## Chains to add -/

theorem decodeByte_toNat (n : UInt8) : decodeByte (.integer n.toNat) = .ok n := by
  have hrange : (0 : Int) ≤ n.toNat ∧ (n.toNat : Int) < 256 := by
    have := n.toNat_lt
    omega
  rw [decodeByte, if_pos hrange, Int.toNat_natCast, UInt8.ofNat_toNat]

namespace NativeCurrency

/-- The fields that a currency is written with. -/
def writtenFields (c : NativeCurrency) : List WrittenField := [
  ⟨nameField, some (.string c.name), c.name, rfl⟩,
  ⟨symbolField, some (.string c.symbol), c.symbol, rfl⟩,
  ⟨decimalsField, some (.integer c.decimals.toNat), c.decimals,
    reads_required _ (decodeByte_toNat c.decimals)⟩]

theorem decode_toJson : Undoes decode toJson := by
  intro c
  obtain ⟨source, hsource, hfield, hend⟩ :=
    RecordShape.exists_source shape c.writtenFields rfl (by decide) .inPlace
  simp only [writtenFields, List.forall_mem_cons, List.not_mem_nil, false_imp_iff, implies_true,
    and_true] at hfield
  obtain ⟨hname, hsymbol, hdecimals⟩ := hfield
  have hrecord : shape.source c.toJson = .ok source := hsource
  simp only [decode, bind, Except.bind, hrecord, hname, hsymbol, hdecimals, hend]
  rfl

end NativeCurrency

namespace AddChainParameters

/-- The fields that the parameters are written with. -/
def writtenFields (p : AddChainParameters) : List WrittenField := [
  ⟨chainIdField, some (.string p.chainId), p.chainId, rfl⟩,
  ⟨chainNameField, some (.string p.chainName), p.chainName, rfl⟩,
  ⟨rpcUrlsField, some (Json.ofStrings p.rpcUrls), p.rpcUrls, decodeStrings_ofStrings _⟩,
  ⟨nativeCurrencyField, some p.nativeCurrency.toJson, p.nativeCurrency, NativeCurrency.decode_toJson _⟩,
  ⟨blockExplorerUrlsField, p.blockExplorerUrls.map Json.ofStrings, p.blockExplorerUrls,
    reads_optional _ (fun _ => rfl) decodeStrings_ofStrings⟩,
  ⟨iconUrlsField, p.iconUrls.map Json.ofStrings, p.iconUrls,
    reads_optional _ (fun _ => rfl) decodeStrings_ofStrings⟩]

theorem decode_toJson : Undoes decode toJson := by
  intro p
  obtain ⟨source, hsource, hfield, hend⟩ :=
    RecordShape.exists_source shape p.writtenFields rfl (by decide) .inPlace
  simp only [writtenFields, List.forall_mem_cons, List.not_mem_nil, false_imp_iff, implies_true,
    and_true] at hfield
  obtain ⟨hchainId, hchainName, hrpcUrls, hcurrency, hexplorers, hicons⟩ := hfield
  have hrecord : shape.source p.toJson = .ok source := hsource
  simp only [decode, bind, Except.bind, hrecord, hchainId, hchainName, hrpcUrls, hcurrency, hexplorers, hicons, hend]
  rfl

end AddChainParameters

/-! ## Properties and requests -/

namespace PropertyBag

/-- The field that a bag is written with. -/
def writtenFields (b : PropertyBag) : List WrittenField := [
  ⟨addChainField, b.addChain.map AddChainParameters.toJson, b.addChain,
    reads_optional _ (fun _ => rfl) AddChainParameters.decode_toJson⟩]

theorem decode_toJson : Undoes decode toJson := by
  intro b
  obtain ⟨source, hsource, hfield, hend⟩ :=
    RecordShape.exists_source shape b.writtenFields rfl (by decide) .inPlace
  simp only [writtenFields, List.forall_mem_singleton] at hfield
  have hrecord : shape.source b.toJson = .ok source := hsource
  simp only [decode, bind, Except.bind, hrecord, hfield, hend]
  rfl

end PropertyBag

namespace SessionRequest

/-- The fields that a request is written with. -/
def writtenFields (r : SessionRequest) : List WrittenField :=
  have reads (name : String) (m? : Option (KeyMap Json)) :
      (Field.optional name (decodeMap decodeAny)).Reads (m?.map Json.ofMap) m? :=
    reads_optional name (fun _ => rfl) decodeMap_decodeAny_ofMap
  [⟨requiredScopesField, r.requiredScopes.map Json.ofMap, r.requiredScopes, reads _ _⟩,
    ⟨optionalScopesField, r.optionalScopes.map Json.ofMap, r.optionalScopes, reads _ _⟩,
    ⟨sessionPropertiesField, r.sessionProperties.map Json.ofMap, r.sessionProperties, reads _ _⟩,
    ⟨scopedPropertiesField, r.scopedProperties.map Json.ofMap, r.scopedProperties, reads _ _⟩]

theorem decode_toJson : Undoes decode toJson := by
  intro r
  obtain ⟨source, hsource, hfield, hend⟩ :=
    RecordShape.exists_source shape r.writtenFields rfl (by decide) .inPlace
  simp only [writtenFields, List.forall_mem_cons, List.not_mem_nil, false_imp_iff, implies_true,
    and_true] at hfield
  obtain ⟨hrequired, hoptional, hsession, hscoped⟩ := hfield
  have hrecord : shape.source r.toJson = .ok source := hsource
  simp only [decode, bind, Except.bind, hrecord, hrequired, hoptional, hsession, hscoped, hend]
  rfl

end SessionRequest
end WalletSession
