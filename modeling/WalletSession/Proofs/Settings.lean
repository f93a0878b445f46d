import WalletSession.Proofs.ChainName
import WalletSession.Proofs.Json.RoundTrip
import WalletSession.Settings.Load

set_option autoImplicit false

/-! # Settings are read back as written

A list of chains is written with names and numbers mixed, and each of them is read as the chain it was written for.
Settings are written as a record or as a layer, and both are read as the same settings
(`Settings.read_back_unchanged`); as a layer they replace whatever the layers before them say. -/

namespace WalletSession

open Json

/-! ## Selections -/

namespace ChainSelection

/-- A list of chains is read back if every chain is. -/
theorem ofChains_map {α : Type} (read : α → Option ChainNumber) (write : ChainNumber → α)
    (h : ∀ n, read (write n) = some n) (numbers : List ChainNumber) :
    ofChains ((numbers.map write).map read) = .ok (.chains numbers) := by
  have hread : id ∘ read ∘ write = fun n => pure (id n) := funext h
  rw [ofChains, List.map_map, List.mapM_map, hread, List.mapM_pure, List.map_id]
  rfl

theorem chainOfInt?_toNat (n : ChainNumber) : chainOfInt? n.toNat = some n := by
  rw [chainOfInt?, if_pos (Int.natCast_nonneg _), Int.toNat_natCast]
  exact Numeral.word?_eq_some_iff.2 rfl

theorem chainOfJson?_chainToJson (n : ChainNumber) : chainOfJson? (chainToJson n) = some n := by
  unfold chainToJson
  split
  · next name hname => exact ChainName.parse?_of_name? hname
  · exact chainOfInt?_toNat n

theorem decode_toJson : Undoes decode toJson := by
  intro c
  cases c with
  | everything => rfl
  | nothing => rfl
  | chains numbers =>
    show (ofChains ((numbers.map chainToJson).map chainOfJson?)).mapError decodeError = _
    rw [ofChains_map chainOfJson? chainToJson chainOfJson?_chainToJson]
    rfl

theorem selection_ofSelection (c : ChainSelection) : (Layer.ofSelection c).selection = .ok c := by
  cases c with
  | everything => rfl
  | nothing => rfl
  | chains numbers =>
    refine ofChains_map SettingValue.chain? _ (fun n => ?_) numbers
    split
    · next name hname => exact ChainName.parse?_of_name? hname
    · exact chainOfInt?_toNat n

end ChainSelection

/-! ## Settings -/

namespace Settings

/-- The fields that settings are written with. -/
def writtenFields (s : Settings) : List WrittenField := [
  ⟨supportedField, some s.supportedChainIds.toJson, s.supportedChainIds, ChainSelection.decode_toJson _⟩,
  ⟨supportableField, some s.supportableChainIds.toJson, s.supportableChainIds, ChainSelection.decode_toJson _⟩,
  ⟨dedupeField, some (.bool s.dedupeSubscriptions), s.dedupeSubscriptions, rfl⟩]

theorem decode_toJson : Undoes decode toJson := by
  intro s
  obtain ⟨source, hsource, hfield, hend⟩ :=
    RecordShape.exists_source shape s.writtenFields rfl (by decide) .inPlace
  simp only [writtenFields, List.forall_mem_cons, List.not_mem_nil, false_imp_iff, implies_true,
    and_true] at hfield
  obtain ⟨hsupported, hsupportable, hdedupe⟩ := hfield
  have hrecord : shape.source s.toJson = .ok source := hsource
  simp only [decode, bind, Except.bind, hrecord, hsupported, hsupportable, hdedupe, hend]
  rfl

/-- The value that a setting is given as. -/
def valueOf (s : Settings) : SettingName → SettingValue
  | .supportedChainIds => Layer.ofSelection s.supportedChainIds
  | .supportableChainIds => Layer.ofSelection s.supportableChainIds
  | .dedupeSubscriptions => .bool s.dedupeSubscriptions

theorem get?_ofSettings (s : Settings) (setting : SettingName) :
    (Layer.ofSettings s).values.get? setting.text = some (s.valueOf setting) := by
  cases setting <;> simp [Layer.ofSettings, SettingName.text, KeyMap.ofList, KeyMap.get?_insert, valueOf]

/-- Settings that are the last layer decide every setting. -/
theorem decided_ofSettings (layers : List Layer) (s : Settings) (setting : SettingName) :
    ∃ origin, Layer.decided setting.text (layers ++ [.ofSettings s]) = some ⟨s.valueOf setting, origin⟩ := by
  have hlast : (Layer.decided setting.text (layers ++ [.ofSettings s])).map (·.value) = some (s.valueOf setting) :=
    Layer.decided_concat_of_some (s.get?_ofSettings setting)
  obtain ⟨decided, hdecided, hvalue⟩ := Option.map_eq_some_iff.1 hlast
  exact ⟨decided.origin, by rw [hdecided, ← hvalue]⟩

theorem selectionOf_ofSettings (layers : List Layer) {s : Settings} {setting : SettingName} {c : ChainSelection}
    (h : s.valueOf setting = Layer.ofSelection c) (usual : ChainSelection) :
    selectionOf setting (layers ++ [.ofSettings s]) usual = .ok c := by
  obtain ⟨origin, hdecided⟩ := decided_ofSettings layers s setting
  simp only [selectionOf, hdecided, h, ChainSelection.selection_ofSelection]
  rfl

theorem boolOf_ofSettings (layers : List Layer) {s : Settings} {setting : SettingName} {b : Bool}
    (h : s.valueOf setting = .bool b) (usual : Bool) :
    boolOf setting (layers ++ [.ofSettings s]) usual = .ok b := by
  obtain ⟨origin, hdecided⟩ := decided_ofSettings layers s setting
  simp only [boolOf, hdecided, h]

/-- Whatever the layers before say, settings that are given last are the settings. -/
theorem ofLayers_concat_ofSettings (layers : List Layer) (s : Settings) :
    ofLayers (layers ++ [.ofSettings s]) = .ok s := by
  have hdedupe : s.valueOf .dedupeSubscriptions = .bool s.dedupeSubscriptions := rfl
  have hsupportable : s.valueOf .supportableChainIds = Layer.ofSelection s.supportableChainIds := rfl
  have hsupported : s.valueOf .supportedChainIds = Layer.ofSelection s.supportedChainIds := rfl
  simp only [ofLayers, boolOf_ofSettings layers hdedupe, selectionOf_ofSettings layers hsupportable,
    selectionOf_ofSettings layers hsupported, bind, Except.bind]
  rfl

/-- Two settings give the same answers about every chain, and therefore about every scope. -/
structure AnswersAlike (s t : Settings) : Prop where
  supported_eq : ∀ n, s.support.supported n = t.support.supported n
  supportable_eq : ∀ n, s.support.supportable n = t.support.supportable n
  buckets_eq : ∀ scopes : ScopeMap, scopes.buckets s.support = scopes.buckets t.support

theorem AnswersAlike.refl (s : Settings) : AnswersAlike s s where
  supported_eq _ := rfl
  supportable_eq _ := rfl
  buckets_eq _ := rfl

end Settings

/-- **Selections and settings are read back as written**, from their records and from values of settings. -/
theorem settings_read_back :
    (∀ c : ChainSelection, ∃ read, ChainSelection.decode c.toJson = .ok read ∧
      (Layer.ofSelection c).selection = .ok read ∧ read = c ∧ ∀ n, read.contains n = c.contains n) ∧
    ∀ s : Settings, ∃ read, Settings.decode s.toJson = .ok read ∧
      (∀ layers, Settings.ofLayers (layers ++ [.ofSettings s]) = .ok read) ∧ read = s ∧
      read.AnswersAlike s := by
  refine ⟨fun c => ?_, fun s => ?_⟩
  · exact ⟨c, ChainSelection.decode_toJson c, ChainSelection.selection_ofSelection c, rfl, fun _ => rfl⟩
  · exact ⟨s, Settings.decode_toJson s, fun layers => Settings.ofLayers_concat_ofSettings layers s, rfl, .refl s⟩

end WalletSession
