import WalletSession.Proofs.Settings
import WalletSession.Proofs.Settings.Variables

set_option autoImplicit false

/-! # How settings are resolved

Every setting is decided on its own, by its variable, or else by the file, or else by what is usual
(`Settings.Decides`). Only the value that decides is read: settings are loaded exactly if these values can be read, and
nothing of a value that another one replaces is left (`Settings.resolves_ofLayers`). The file is found before any of
this, by the variable that names it or under its usual name. -/

namespace WalletSession
namespace Settings

open Layer (Gives LastGives)

/-! ## The value that decides -/

/-- The value that decides a setting. -/
inductive Decides (table : KeyMap SettingValue) (environment : List (String × String)) (setting : SettingName) :
    SettingValue → Prop where
  | given {v : SettingValue} (hlast : LastGives environment setting.text v) : Decides table environment setting v
  | filed {v : SettingValue} (hunset : ∀ given ∈ environment, ∀ w, ¬ Gives setting.text given w)
    (hfile : table.get? setting.text = some v) : Decides table environment setting v
  | usual (hunset : ∀ given ∈ environment, ∀ w, ¬ Gives setting.text given w)
    (hnofile : table.get? setting.text = none) : Decides table environment setting (standard.valueOf setting)

/-- The value that decides a setting, looked up. -/
def deciding (table : KeyMap SettingValue) (environment : List (String × String)) (setting : SettingName) :
    SettingValue :=
  match (Layer.ofEnvironment environment).values.get? setting.text with
  | some v => v
  | none => (table.get? setting.text).getD (standard.valueOf setting)

/-- There is at most one file, and its layer gives what its table holds. -/
inductive GivesTable : List Layer → KeyMap SettingValue → Prop where
  | none : GivesTable [] .empty
  | some (origin : Origin) (table : KeyMap SettingValue) : GivesTable [⟨origin, table⟩] table

section

variable {file : List Layer} {table : KeyMap SettingValue} {environment : List (String × String)}
  {setting : SettingName} {v : SettingValue}

theorem decides_iff : Decides table environment setting v ↔ v = deciding table environment setting := by
  unfold deciding
  constructor
  · intro h
    cases h with
    | given hlast => rw [Layer.get?_ofEnvironment_eq_some_iff.2 hlast]
    | filed hunset hfile => rw [Layer.get?_ofEnvironment_eq_none_iff.2 hunset, hfile]; rfl
    | usual hunset hnofile => rw [Layer.get?_ofEnvironment_eq_none_iff.2 hunset, hnofile]; rfl
  · rintro rfl
    split
    · next hgiven => exact .given (Layer.get?_ofEnvironment_eq_some_iff.1 hgiven)
    · next hnone =>
      have hunset := Layer.get?_ofEnvironment_eq_none_iff.1 hnone
      cases hfile : table.get? setting.text with
      | some v => exact .filed hunset hfile
      | none => exact .usual hunset hfile

/-- The layers come to the value that decides, wherever it is said to come from. -/
theorem exists_decided (hfile : GivesTable file table) (environment : List (String × String)) (setting : SettingName) :
    ∃ origin, Layer.decided setting.text (.ofSettings standard :: file ++ [.ofEnvironment environment]) =
      some ⟨deciding table environment setting, origin⟩ := by
  have husual : (Layer.decided setting.text ([] ++ [.ofSettings standard])).map (·.value) =
      some (standard.valueOf setting) := Layer.decided_concat_of_some (standard.get?_ofSettings setting)
  have hbefore : (Layer.decided setting.text (.ofSettings standard :: file)).map (·.value) =
      some ((table.get? setting.text).getD (standard.valueOf setting)) := by
    cases hfile with
    | none => exact husual
    | some origin =>
      show (Layer.decided setting.text ([.ofSettings standard] ++ [⟨origin, table⟩])).map (·.value) = _
      cases hv : table.get? setting.text with
      | none =>
        rw [Layer.decided_concat_of_none hv]
        exact husual
      | some v => exact Layer.decided_concat_of_some hv
  have hall : (Layer.decided setting.text (.ofSettings standard :: file ++ [.ofEnvironment environment])).map
      (·.value) = some (deciding table environment setting) := by
    unfold deciding
    split
    · next hgiven => exact Layer.decided_concat_of_some hgiven
    · next hnone => rw [Layer.decided_concat_of_none hnone, hbefore]
  obtain ⟨decided, hdecided, hvalue⟩ := Option.map_eq_some_iff.1 hall
  exact ⟨decided.origin, by rw [hdecided, ← hvalue]⟩

end

/-! ## Reading the values -/

/-- Settings have the value that is given for a setting. -/
def Takes (t : Settings) : SettingName → SettingValue → Prop
  | .supportedChainIds, v => v.selection = .ok t.supportedChainIds
  | .supportableChainIds, v => v.selection = .ok t.supportableChainIds
  | .dedupeSubscriptions, v => v = .bool t.dedupeSubscriptions

/-- A value that a setting can have. -/
def Readable (setting : SettingName) (v : SettingValue) : Prop := ∃ t : Settings, t.Takes setting v

theorem readable_of_selection {v : SettingValue} {c : ChainSelection} (h : v.selection = .ok c) :
    Readable .supportedChainIds v ∧ Readable .supportableChainIds v :=
  ⟨⟨{ standard with supportedChainIds := c }, h⟩, ⟨{ standard with supportableChainIds := c }, h⟩⟩

theorem readable_bool (b : Bool) : Readable .dedupeSubscriptions (.bool b) :=
  ⟨{ standard with dedupeSubscriptions := b }, rfl⟩

/-- The selection of chains for a setting. -/
def selection? (t : Settings) : SettingName → Option ChainSelection
  | .supportedChainIds => some t.supportedChainIds
  | .supportableChainIds => some t.supportableChainIds
  | .dedupeSubscriptions => none

/-- What the values that decide come to. -/
structure Resolves (table : KeyMap SettingValue) (environment : List (String × String))
    (result : Except SettingsFailure Settings) : Prop where
  /-- One value decides a setting. -/
  existsUnique_decides : ∀ setting, ∃! v, Decides table environment setting v
  ok_iff : ∀ t, result = .ok t ↔ ∀ setting v, Decides table environment setting v → t.Takes setting v
  error_iff : (∃ f, result = .error f) ↔ ∃ setting v, Decides table environment setting v ∧ ¬ Readable setting v
  /-- Of the settings that cannot be read, the one with the first key is reported. -/
  settings_of_error : ∀ f, result = .error f → ∃ setting v, f.settings = [setting.text] ∧
    Decides table environment setting v ∧ ¬ Readable setting v ∧
    ∀ other w, other.text < setting.text → Decides table environment other w → Readable other w
  /-- A list that decides is all there is to the selection; no chain of another list is added. -/
  chains_of_list : ∀ t setting items, result = .ok t → Decides table environment setting (.list items) →
    ∃ numbers, t.selection? setting = some (.chains numbers) ∧ items.map SettingValue.chain? = numbers.map some

/-- A list is read if every item is, and then item by item. -/
theorem eq_map_some_of_mapM_id {α : Type} {chains : List (Option α)} {numbers : List α}
    (h : chains.mapM id = some numbers) : chains = numbers.map some := by
  induction chains generalizing numbers with
  | nil =>
    cases h
    rfl
  | cons chain rest ih =>
    simp only [List.mapM_cons, id, Option.bind_eq_bind, Option.bind_eq_some_iff, Option.pure_def,
      Option.some.injEq] at h
    obtain ⟨number, rfl, others, hothers, rfl⟩ := h
    rw [ih hothers, List.map_cons]

theorem exists_chains_of_selection {items : List SettingValue} {c : ChainSelection}
    (h : (SettingValue.list items).selection = .ok c) :
    ∃ numbers, c = .chains numbers ∧ items.map SettingValue.chain? = numbers.map some := by
  rw [SettingValue.selection, ChainSelection.ofChains] at h
  split at h
  · next numbers hnumbers =>
    cases h
    exact ⟨numbers, rfl, eq_map_some_of_mapM_id hnumbers⟩
  · cases h

theorem Takes.exists_chains {t : Settings} {setting : SettingName} {items : List SettingValue}
    (h : t.Takes setting (.list items)) :
    ∃ numbers, t.selection? setting = some (.chains numbers) ∧ items.map SettingValue.chain? = numbers.map some := by
  cases setting with
  | supportedChainIds =>
    obtain ⟨numbers, hchains, hitems⟩ := exists_chains_of_selection h
    exact ⟨numbers, congrArg some hchains, hitems⟩
  | supportableChainIds =>
    obtain ⟨numbers, hchains, hitems⟩ := exists_chains_of_selection h
    exact ⟨numbers, congrArg some hchains, hitems⟩
  | dedupeSubscriptions => cases h

section

variable {layers : List Layer} {setting : SettingName} {v : SettingValue} {origin : Origin}

theorem selectionOf_eq (h : Layer.decided setting.text layers = some ⟨v, origin⟩) (usual : ChainSelection) :
    selectionOf setting layers usual =
      v.selection.mapError fun problem => .badValue setting origin (.selection problem) := by
  rw [selectionOf, h]

theorem boolOf_eq (h : Layer.decided setting.text layers = some ⟨v, origin⟩) (usual : Bool) :
    (∃ b, v = .bool b ∧ boolOf setting layers usual = .ok b) ∨
      (∀ b, v ≠ .bool b) ∧ boolOf setting layers usual = .error (.badValue setting origin (.notABoolean v)) := by
  rw [boolOf, h]
  cases v with
  | bool b => exact .inl ⟨b, rfl, rfl⟩
  | _ => exact .inr ⟨by simp, rfl⟩

/-- The settings are read one after the other, up to the first one that cannot be read. -/
theorem ofLayers_cases {value : SettingName → SettingValue}
    (h : ∀ setting, ∃ origin, Layer.decided setting.text layers = some ⟨value setting, origin⟩) :
    (∃ t, ofLayers layers = .ok t ∧ ∀ setting, t.Takes setting (value setting)) ∨
    ∃ f setting, ofLayers layers = .error f ∧ f.settings = [setting.text] ∧ ¬ Readable setting (value setting) ∧
      ∀ other : SettingName, other.text < setting.text → Readable other (value other) := by
  obtain ⟨dedupeOrigin, hdedupe⟩ := h .dedupeSubscriptions
  obtain ⟨supportableOrigin, hsupportable⟩ := h .supportableChainIds
  obtain ⟨supportedOrigin, hsupported⟩ := h .supportedChainIds
  simp only [ofLayers, bind, Except.bind, selectionOf_eq hsupportable, selectionOf_eq hsupported]
  rcases boolOf_eq hdedupe standard.dedupeSubscriptions with ⟨b, hb, hread⟩ | ⟨hne, hread⟩
  case inr =>
    have hnot : ¬ Readable .dedupeSubscriptions (value .dedupeSubscriptions) := by
      rintro ⟨t, ht⟩
      exact hne _ ht
    refine .inr ⟨_, .dedupeSubscriptions, by rw [hread], rfl, hnot, fun other hlt => ?_⟩
    cases other <;> exact absurd hlt (by decide)
  rw [hread]
  have hdedupeReadable : Readable .dedupeSubscriptions (value .dedupeSubscriptions) := hb ▸ readable_bool b
  cases hable : (value .supportableChainIds).selection with
  | error problem =>
    have hnot : ¬ Readable .supportableChainIds (value .supportableChainIds) := by
      rintro ⟨t, ht⟩
      cases hable.symm.trans ht
    refine .inr ⟨_, .supportableChainIds, rfl, rfl, hnot, fun other hlt => ?_⟩
    cases other with
    | dedupeSubscriptions => exact hdedupeReadable
    | _ => exact absurd hlt (by decide)
  | ok supportable =>
    cases hed : (value .supportedChainIds).selection with
    | error problem =>
      have hnot : ¬ Readable .supportedChainIds (value .supportedChainIds) := by
        rintro ⟨t, ht⟩
        cases hed.symm.trans ht
      refine .inr ⟨_, .supportedChainIds, rfl, rfl, hnot, fun other hlt => ?_⟩
      cases other with
      | dedupeSubscriptions => exact hdedupeReadable
      | supportableChainIds => exact (readable_of_selection hable).2
      | supportedChainIds => exact absurd hlt (by decide)
    | ok supported =>
      refine .inl ⟨_, rfl, fun setting => ?_⟩
      cases setting with
      | supportedChainIds => exact hed
      | supportableChainIds => exact hable
      | dedupeSubscriptions => exact hb

/-- Settings are what the values for them say. -/
theorem eq_of_takes {s t : Settings} {value : SettingName → SettingValue} (hs : ∀ setting, s.Takes setting (value setting))
    (ht : ∀ setting, t.Takes setting (value setting)) : s = t := by
  have hsupported := Except.ok.inj ((hs .supportedChainIds).symm.trans (ht .supportedChainIds))
  have hsupportable := Except.ok.inj ((hs .supportableChainIds).symm.trans (ht .supportableChainIds))
  have hdedupe := SettingValue.bool.inj ((hs .dedupeSubscriptions).symm.trans (ht .dedupeSubscriptions))
  cases s
  cases t
  simp_all

end

/-- What a file and the variables say is resolved setting by setting. -/
theorem resolves_ofLayers {file : List Layer} {table : KeyMap SettingValue} (hfile : GivesTable file table)
    (environment : List (String × String)) :
    Resolves table environment (ofLayers (.ofSettings standard :: file ++ [.ofEnvironment environment])) := by
  have hcases := ofLayers_cases (exists_decided hfile environment)
  generalize ofLayers _ = result at hcases ⊢
  constructor
  case existsUnique_decides => exact fun setting => ⟨_, decides_iff.2 rfl, fun v hv => decides_iff.1 hv⟩
  all_goals simp only [decides_iff, forall_eq, exists_eq_left]
  case ok_iff =>
    intro t
    rcases hcases with ⟨t', rfl, ht'⟩ | ⟨f, setting, rfl, -, hbad, -⟩
    · constructor
      · rintro ⟨⟩
        exact ht'
      · intro ht
        rw [eq_of_takes ht ht']
    · constructor
      · rintro ⟨⟩
      · intro ht
        exact absurd ⟨t, ht setting⟩ hbad
  case error_iff =>
    rcases hcases with ⟨t, rfl, ht⟩ | ⟨f, setting, rfl, -, hbad, -⟩
    · constructor
      · rintro ⟨f, ⟨⟩⟩
      · rintro ⟨setting, hbad⟩
        exact absurd ⟨t, ht setting⟩ hbad
    · exact ⟨fun _ => ⟨setting, hbad⟩, fun _ => ⟨f, rfl⟩⟩
  case settings_of_error =>
    rintro f rfl
    rcases hcases with ⟨t, ⟨⟩, -⟩ | ⟨f, setting, ⟨⟩, hname, hbad, hfirst⟩
    refine ⟨setting, _, hname, rfl, hbad, fun other w hlt hw => ?_⟩
    rw [hw]
    exact hfirst other hlt
  case chains_of_list =>
    rintro t setting items rfl hitems
    rcases hcases with ⟨t', ⟨⟩, ht⟩ | ⟨f, setting, ⟨⟩, -⟩
    exact Takes.exists_chains (hitems ▸ ht setting)

end Settings
end WalletSession
