import ResponseCache.Config.Load
/-!
# Loaded settings are usable

Filling the gaps of settings from the defaults leaves settings the server can run on: room for at
least one connection, a log level, a listen address that is not blank, a body limit and a sweep
interval of at least one, and an admin path that is absent or not blank (`withDefaults_usable`).
Loading fills the gaps of whatever the document gave, so every settings value that loads is
usable (`Usable.of_load`).

Validation finds an error only in a blank listen address or an admin path that does not start
with `/` (`validate_errors_eq_nil_iff`). The defaults have neither, so loading a file with a
fallback always ends in settings that validate without an error, whether the file was missing,
did not load, did not validate or did.
-/

namespace ResponseCache
namespace Config

namespace Settings

/-- What the server relies on in its settings: a connection limit and a body limit that admit
something, a log level, a listen address and a sweep interval, and no blank admin path. -/
structure Usable (s : Settings) : Prop where
  workerConnections : 1 ≤ s.global.workerConnections
  logLevel : s.global.logLevel.isEmpty = false
  listen : (Text.trim s.http.listen).isEmpty = false
  maxRequestBodyBytes : 1 ≤ s.http.maxRequestBodyBytes
  sweepIntervalSecs : 1 ≤ s.cache.sweepIntervalSecs
  adminPath : ∀ p, s.cache.adminPath = some p → (Text.trim p).isEmpty = false

/-- Every gap filled from the defaults is filled with a usable value, and every value kept was
kept because it is one. -/
theorem withDefaults_usable (s : Settings) : (withDefaults s).Usable where
  workerConnections := by
    simp only [withDefaults]
    split <;> omega
  logLevel := by
    simp only [withDefaults]
    split
    · rfl
    · exact Bool.eq_false_iff.mpr ‹_›
  listen := by
    simp only [withDefaults]
    split
    · decide
    · exact Bool.eq_false_iff.mpr ‹_›
  maxRequestBodyBytes := by
    simp only [withDefaults]
    split <;> omega
  sweepIntervalSecs := by
    simp only [withDefaults]
    split <;> omega
  adminPath := by
    intro p kept
    cases admin : s.cache.adminPath with
    | none => simp [withDefaults, admin] at kept
    | some q =>
        by_cases blank : (Text.trim q).isEmpty = true
        · simp [withDefaults, admin, blank] at kept
        · have same : q = p := by simpa [withDefaults, admin, blank] using kept
          rw [← same]
          exact Bool.eq_false_iff.mpr blank

theorem defaults_usable : defaults.Usable := withDefaults_usable {}

/-- Validation reports no error exactly when the listen address is not blank and an admin path,
if there is one, starts with `/`; log levels, socket syntax, the cache switch, the entry bound and
the grace only ever warn. -/
theorem validate_errors_eq_nil_iff (s : Settings) :
    s.validate.errors = [] ↔ (Text.trim s.http.listen).isEmpty = false ∧
      ∀ p, s.cache.adminPath = some p → p.startsWith "/" = true := by
  unfold validate
  by_cases blank : (Text.trim s.http.listen).isEmpty = true
  · simp [blank]
  · have listenFine : (Text.trim s.http.listen).isEmpty = false := by simpa using blank
    cases admin : s.cache.adminPath with
    | none => simp [listenFine, apply_ite Prod.fst, admin]
    | some p => simp [listenFine, apply_ite Prod.fst, admin]

theorem defaults_validate : defaults.validate.errors = [] := by
  refine (validate_errors_eq_nil_iff defaults).mpr ⟨defaults_usable.listen, ?_⟩
  intro p none_set
  cases none_set

end Settings

/-- Loaded settings are settings read from the document with their gaps filled. -/
theorem exists_withDefaults_of_load {file : Option String} {text : String} {s : Settings}
    (loaded : load file text = .ok s) : ∃ read, s = Settings.withDefaults read := by
  unfold load at loaded
  split at loaded
  · cases loaded
  · cases read : readSettings file (treeOf ‹_›) with
    | error e =>
        rw [read] at loaded
        cases loaded
    | ok read' =>
        rw [read] at loaded
        cases loaded
        exact ⟨read', rfl⟩

theorem Settings.Usable.of_load {file : Option String} {text : String} {s : Settings}
    (loaded : load file text = .ok s) : s.Usable := by
  obtain ⟨read, rfl⟩ := exists_withDefaults_of_load loaded
  exact Settings.withDefaults_usable read

/-- Whatever the file holds, and whether it is there at all, the settings a fallback load ends
with validate without an error: loaded settings are kept only when they do. -/
theorem loadFileOrDefault_validates (file : String) (contents : Option String) :
    (loadFileOrDefault file contents).settings.validate.errors = [] := by
  unfold loadFileOrDefault
  split
  · rename_i s _
    by_cases failed : s.validate.errors.isEmpty = false
    · rw [if_pos (by simpa using failed)]
      exact Settings.defaults_validate
    · rw [if_neg (by simpa using failed)]
      have clean : s.validate.errors = [] := by simpa using failed
      split <;> exact clean
  · exact Settings.defaults_validate

/-- Loaded settings are always usable: whatever field values a document is read into, filling
their gaps gives room for a connection, a log level, a listen address that is not blank, a body
limit and a sweep interval of at least one, and no blank admin path, so every settings value that
INI text or a file loads to is usable; and a load that falls back to the defaults ends in
settings whose validation reports no error, for every file content. -/
theorem loaded_settings_usable :
    (∀ read, (Settings.withDefaults read).Usable) ∧
      (∀ text s, load none text = .ok s → s.Usable) ∧
      (∀ file contents s, loadFile file contents = .ok s → s.Usable) ∧
      ∀ file contents, (loadFileOrDefault file contents).settings.validate.errors = [] :=
  ⟨Settings.withDefaults_usable, fun _ _ loaded => Settings.Usable.of_load loaded,
    fun _ _ _ loaded => Settings.Usable.of_load loaded, loadFileOrDefault_validates⟩

/-- An empty document loads to the defaults, which are usable. -/
theorem empty_document_loads_usable :
    load none "" = .ok Settings.defaults ∧ Settings.defaults.Usable :=
  ⟨rfl, loaded_settings_usable.2.1 "" Settings.defaults rfl⟩

end Config
end ResponseCache
