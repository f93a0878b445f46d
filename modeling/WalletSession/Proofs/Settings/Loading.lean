import WalletSession.Proofs.Settings.Resolution

set_option autoImplicit false

/-! # How settings are loaded

First the file is found (`Settings.LooksFor`): a variable can name it, and then nothing is looked for under the usual
name. What the file holds and the variables give is resolved setting by setting (`Settings.load_resolves`). -/

namespace WalletSession

namespace FilePath

/-- A directory whose path is the one of its names. -/
def IsCanonical (directory : String) : Prop := ofNames (names directory) = directory

instance (directory : String) : Decidable (IsCanonical directory) := inferInstanceAs (Decidable (_ = _))

/-- A path is looked for in the directory itself before it is looked for around it. -/
theorem head?_candidates {directory : String} (h : IsCanonical directory) (path : String) :
    (candidates directory path).head? = some (join directory path) := by
  unfold candidates
  split
  · next habsolute => simp [join, habsolute]
  · have hinside : ofNames (names directory) = directory := h
    simp [ancestors, List.head?_range, hinside]

end FilePath

namespace Settings

open Layer (Gives HasKey fileVariable)
open Surroundings (folded)

/-! ## Finding the file -/

section

variable (s : Surroundings Id)

/-- There is nothing under the path that a variable names. -/
def IsMissing (path : String) : Prop :=
  path = "" ∨ (s.contentOf (FilePath.join s.workingDirectory path)).exists = false

/-- The paths under which the file is looked for, one after the other. -/
inductive LooksFor (root : String) : List String → Prop where
  | named {path : String} (hnamed : s.valueOf? fileVariable = some path) (hthere : ¬ IsMissing s path) :
    LooksFor root (FilePath.candidates s.workingDirectory path)
  | usual (hunnamed : s.valueOf? fileVariable = none) :
    LooksFor root (FilePath.candidates s.workingDirectory (FilePath.join root fileName))

/-- The first of some paths under which there is a file. -/
def firstPath? (paths : List String) : Option String := paths.find? fun path => (s.contentOf path).isFile

/-- What the first file under some paths holds; where there is none, nothing is held. -/
inductive Holds (paths : List String) : KeyMap SettingValue → Prop where
  | table {path content : String} {entries : List (String × SettingValue)} (hfirst : firstPath? s paths = some path)
    (hcontent : s.contentOf path = .text content) (hentries : Toml.parse? content = some entries) :
    Holds paths (.ofList entries)
  | nothing (hfirst : firstPath? s paths = none) : Holds paths .empty

end

/-- What is wrong with the content of a file. -/
inductive Defective : FileContent → FileProblem → Prop where
  | notText : Defective .notText .notText
  | notToml {content : String} (h : Toml.parse? content = none) : Defective (.text content) .notToml

/-- What loading settings comes to. -/
inductive Loads (s : Surroundings Id) (root : String) : Except SettingsFailure Settings → Prop where
  | missing {path : String} (hnamed : s.valueOf? fileVariable = some path) (hmissing : IsMissing s path) :
    Loads s root (.error (.missingFile path))
  | defective {paths : List String} {path : String} {problem : FileProblem} (hpaths : LooksFor s root paths)
    (hfirst : firstPath? s paths = some path) (hproblem : Defective (s.contentOf path) problem) :
    Loads s root (.error (.badFile (FilePath.shown s.workingDirectory path) problem))
  | resolved {paths : List String} {table : KeyMap SettingValue} {result : Except SettingsFailure Settings}
    (hpaths : LooksFor s root paths) (hholds : Holds s paths table) (hresolves : Resolves table s.environment result) :
    Loads s root result

section

variable {s : Surroundings Id} {root : String} {paths : List String}

theorem firstFile_eq (paths : List String) :
    firstFile s paths = (firstPath? s paths).map fun path => (path, s.contentOf path) := by
  induction paths with
  | nil => rfl
  | cons path rest ih =>
    show (if (s.contentOf path).isFile then some (path, s.contentOf path) else firstFile s rest) = _
    rw [ih, firstPath?, firstPath?, List.find?_cons]
    cases (s.contentOf path).isFile <;> rfl

/-- A file that is named is looked for from the working directory. -/
theorem loadFile_of_named {path : String} (hnamed : s.valueOf? fileVariable = some path) (root : String) :
    loadFile s root =
      if path.isEmpty || !(s.contentOf (FilePath.join s.workingDirectory path)).exists then .error (.missingFile path)
      else fileLayer s.workingDirectory (firstFile s (FilePath.candidates s.workingDirectory path)) := by
  rw [loadFile, hnamed]
  rfl

theorem isMissing_iff (s : Surroundings Id) (path : String) :
    (path.isEmpty || !(s.contentOf (FilePath.join s.workingDirectory path)).exists) = true ↔ IsMissing s path := by
  simp [IsMissing]

theorem loadFile_cases (s : Surroundings Id) (root : String) :
    (∃ path, s.valueOf? fileVariable = some path ∧ IsMissing s path ∧ loadFile s root = .error (.missingFile path)) ∨
    ∃ paths, LooksFor s root paths ∧ loadFile s root = fileLayer s.workingDirectory (firstFile s paths) := by
  cases hnamed : s.valueOf? fileVariable with
  | none =>
    refine .inr ⟨_, .usual hnamed, ?_⟩
    rw [loadFile, hnamed]
    rfl
  | some path =>
    rw [loadFile_of_named hnamed]
    by_cases h : IsMissing s path
    · exact .inl ⟨path, rfl, h, if_pos ((isMissing_iff s path).2 h)⟩
    · exact .inr ⟨_, .named hnamed h, if_neg (mt (isMissing_iff s path).1 h)⟩

/-- The layer of a file is what it holds. -/
theorem fileLayer_cases (s : Surroundings Id) (paths : List String) :
    (∃ path problem, firstPath? s paths = some path ∧ Defective (s.contentOf path) problem ∧
      fileLayer s.workingDirectory (firstFile s paths) =
        .error (.badFile (FilePath.shown s.workingDirectory path) problem)) ∨
    ∃ table file, Holds s paths table ∧ GivesTable file table ∧
      fileLayer s.workingDirectory (firstFile s paths) = .ok file := by
  rw [firstFile_eq]
  cases hfirst : firstPath? s paths with
  | none => exact .inr ⟨.empty, [], .nothing hfirst, .none, rfl⟩
  | some path =>
    have hfile : (s.contentOf path).isFile = true :=
      List.find?_some (p := fun path => (s.contentOf path).isFile) hfirst
    rw [Option.map_some]
    cases hcontent : s.contentOf path with
    | text content =>
      cases htoml : Toml.parse? content with
      | none => exact .inl ⟨path, .notToml, rfl, hcontent ▸ .notToml htoml, by simp only [fileLayer, htoml]⟩
      | some entries =>
        exact .inr ⟨_, _, .table hfirst hcontent htoml, .some (.file (FilePath.shown s.workingDirectory path)) _,
          by simp only [fileLayer, htoml]⟩
    | notText => exact .inl ⟨path, .notText, rfl, hcontent ▸ .notText, rfl⟩
    | directory => rw [hcontent] at hfile; cases hfile
    | unreachable reason => rw [hcontent] at hfile; cases hfile

theorem load_eq (s : Surroundings Id) (root : String) : load s root = match loadFile s root with
    | .error f => .error f
    | .ok file => ofLayers (.ofSettings standard :: file ++ [.ofEnvironment s.environment]) := by
  unfold load
  show (match loadFile s root with | .error f => _ | .ok file => _) = _
  cases loadFile s root <;> rfl

theorem loads (s : Surroundings Id) (root : String) : Loads s root (load s root) := by
  rw [load_eq]
  rcases loadFile_cases s root with ⟨path, hnamed, hmissing, hfile⟩ | ⟨paths, hpaths, hfile⟩
  · rw [hfile]
    exact .missing hnamed hmissing
  · rcases fileLayer_cases s paths with ⟨path, problem, hfirst, hproblem, hlayer⟩ | ⟨table, file, hholds, hgives, hlayer⟩
    · rw [hfile, hlayer]
      exact .defective hpaths hfirst hproblem
    · rw [hfile, hlayer]
      exact .resolved hpaths hholds (resolves_ofLayers hgives s.environment)

end

/-! ## A file that is named -/

/-- Surroundings that differ in nothing that matters once a variable names the file. -/
structure AgreesFor (path : String) (s other : Surroundings Id) : Prop where
  workingDirectory_eq : other.workingDirectory = s.workingDirectory
  environment_eq : other.environment = s.environment
  contentOf_eq : ∀ p ∈ FilePath.join s.workingDirectory path :: FilePath.candidates s.workingDirectory path,
    other.contentOf p = s.contentOf p

section

variable {s other : Surroundings Id} {path : String}

theorem firstFile_congr {paths : List String} (h : ∀ p ∈ paths, other.contentOf p = s.contentOf p) :
    firstFile other paths = firstFile s paths := by
  induction paths with
  | nil => rfl
  | cons p rest ih =>
    rw [List.forall_mem_cons] at h
    show (if (other.contentOf p).isFile then some (p, other.contentOf p) else firstFile other rest) =
      if (s.contentOf p).isFile then some (p, s.contentOf p) else firstFile s rest
    rw [h.1, ih h.2]

/-- Once a variable names the file, the root directory and the files of the usual name do not matter. -/
theorem load_of_agreesFor (hnamed : s.valueOf? fileVariable = some path) (h : AgreesFor path s other)
    (root root' : String) : load other root' = load s root := by
  have hnamed' : other.valueOf? fileVariable = some path := by
    rw [← hnamed, Surroundings.valueOf?, Surroundings.valueOf?, h.environment_eq]
  obtain ⟨hcontent, hcandidates⟩ := List.forall_mem_cons.1 h.contentOf_eq
  rw [load_eq, load_eq, loadFile_of_named hnamed, loadFile_of_named hnamed', h.workingDirectory_eq, h.environment_eq,
    hcontent, firstFile_congr hcandidates]

end

/-- The upper case name of a setting behind the prefix names its variable. -/
theorem gives_upper (setting : SettingName) (text : String) :
    Gives setting.text (Layer.variablePrefix ++ Origin.environment.key setting, text) (VariableValue.parse text) := by
  refine .plain (Layer.variableKey?_eq_some_iff.1 ?_)
  cases setting <;> decide +kernel

end Settings
end WalletSession
