import XanhTab.Remote.Document

/-!
# Applying a public configuration

The three settings are assigned before the configuration is validated again.  A
verdict does not depend on them except for the parse of the URL, and a URL that
has been parsed can be parsed again, so that the validation cannot fail.
-/

namespace XanhTab

open XanhTab.Configuration

namespace Remote

/-- A parsed URL is parsed again from its serialisation. -/
def Reparses (crate : UrlCrate) : Prop :=
  ∀ text url, crate.parse text = some url → crate.parse (crate.display url) = some url

/-- A setting is left alone, or it is the value in the file. -/
def Reviewed {α β : Type} (value : Option α) (shown : α → β) (before after : β) : Prop :=
  (value = none ∧ after = before) ∨ ∃ reviewed, value = some reviewed ∧ after = shown reviewed

/-- The configurations differ in the three settings at most. -/
structure Merged (crate : UrlCrate) (document : RemoteConfigDocument) (before after : Config) :
    Prop where
  rest : after = { before with session := { before.session with
    initialUrl := after.session.initialUrl
    initialProfile := after.session.initialProfile
    autoBurnSeconds := after.session.autoBurnSeconds } }
  url : Reviewed document.session.initialUrl crate.display before.session.initialUrl
    after.session.initialUrl
  profile : Reviewed document.session.initialProfile id before.session.initialProfile
    after.session.initialProfile
  seconds : Reviewed document.session.autoBurnSeconds id before.session.autoBurnSeconds
    after.session.autoBurnSeconds

variable {crate : UrlCrate} {json : Json} {document : RemoteConfigDocument} {config : Config}

/-! ## The document -/

theorem optional_eq_some {α : Type} {read : Json → Option α} {field : Option Json} {value : α}
    (found : optional read field = some (some value)) :
    ∃ json, field = some json ∧ read json = some value := by
  cases field with
  | none => cases found
  | some json =>
      cases json with
      | null => cases found
      | _ =>
          rcases Option.map_eq_some_iff.mp found with ⟨other, readable, equal⟩
          rw [Option.some.inj equal] at readable
          exact ⟨_, rfl, readable⟩

/-- The URL of a session has been parsed. -/
theorem exists_parse_of_sessionOf {session : RemoteSessionConfig} {url : Url}
    (deserialized : sessionOf crate json = some session) (there : session.initialUrl = some url) :
    ∃ text, crate.parse text = some url := by
  unfold sessionOf at deserialized
  split at deserialized
  · rcases Option.bind_eq_some_iff.mp deserialized with ⟨initialUrl, first, deserialized⟩
    rcases Option.bind_eq_some_iff.mp deserialized with ⟨initialProfile, _, deserialized⟩
    rcases Option.map_eq_some_iff.mp deserialized with ⟨autoBurnSeconds, _, rfl⟩
    obtain rfl : initialUrl = some url := there
    rcases optional_eq_some first with ⟨value, _, parsed⟩
    cases value with
    | string text => exact ⟨text, parsed⟩
    | _ => cases parsed
  · cases deserialized

theorem exists_parse_of_documentOf {url : Url} (deserialized : documentOf crate json = some document)
    (there : document.session.initialUrl = some url) : ∃ text, crate.parse text = some url := by
  unfold documentOf at deserialized
  split at deserialized
  · rcases Option.bind_eq_some_iff.mp deserialized with ⟨version, _, deserialized⟩
    rcases Option.map_eq_some_iff.mp deserialized with ⟨session, inner, rfl⟩
    exact exists_parse_of_sessionOf inner there
  · cases deserialized

theorem parseRemoteConfig_eq_ok (parsed : parseRemoteConfig crate json = .ok document) :
    documentOf crate json = some document := by
  unfold parseRemoteConfig at parsed
  split at parsed
  · cases parsed
  · rename_i found deserialized
    generalize checkAll _ = checked at parsed
    cases checked with
    | error error => cases parsed
    | ok _ =>
        cases parsed
        exact deserialized

/-! ## The configuration -/

/-- The initial URL of a valid configuration can be parsed. -/
theorem exists_parse_initialUrl (valid : config.validate crate = .ok ()) :
    ∃ url, crate.parse config.session.initialUrl = some url := by
  rcases Config.validate_eq_ok_iff.mp valid with ⟨_, _, _, initial, _, _⟩
  unfold Config.checkInitialUrl at initial
  rw [check_eq_ok_iff] at initial
  exact Option.isSome_iff_exists.mp initial

theorem merged_merge (document : RemoteConfigDocument) (config : Config) :
    Merged crate document config { config with session := merge crate document config.session } := by
  constructor
  · rfl
  · unfold Reviewed merge
    cases document.session.initialUrl with
    | none => exact Or.inl ⟨rfl, rfl⟩
    | some url => exact Or.inr ⟨url, rfl, rfl⟩
  · unfold Reviewed merge
    cases document.session.initialProfile with
    | none => exact Or.inl ⟨rfl, rfl⟩
    | some profile => exact Or.inr ⟨profile, rfl, rfl⟩
  · unfold Reviewed merge
    cases document.session.autoBurnSeconds with
    | none => exact Or.inl ⟨rfl, rfl⟩
    | some seconds => exact Or.inr ⟨seconds, rfl, rfl⟩

theorem validate_merge (reparses : Reparses crate) (valid : config.validate crate = .ok ())
    (deserialized : documentOf crate json = some document) :
    { config with session := merge crate document config.session }.validate crate = .ok () := by
  have parsed : ∃ url,
      crate.parse (document.session.initialUrl.elim config.session.initialUrl crate.display) =
        some url := by
    cases there : document.session.initialUrl with
    | none => exact exists_parse_initialUrl valid
    | some url =>
        rcases exists_parse_of_documentOf deserialized there with ⟨text, parsed⟩
        exact ⟨url, reparses text url parsed⟩
  rcases parsed with ⟨url, parsed⟩
  exact Config.validate_settings valid parsed _ _

end Remote

open Remote

/-- Applying a public configuration to a valid configuration sets what the
document sets and leaves a valid configuration, or it fails and changes nothing. -/
theorem applyPublicConfigFile_atomic {crate : UrlCrate} {config : Config}
    (reparses : Reparses crate) (valid : config.validate crate = .ok ()) (path : String)
    (file : PublicFile) :
    (∃ document, file.parse crate path = .ok document ∧
        (applyPublicConfigFile crate path file config).1 = .ok () ∧
        (applyPublicConfigFile crate path file config).2.validate crate = .ok () ∧
        Merged crate document config (applyPublicConfigFile crate path file config).2) ∨
      ((∃ error, (applyPublicConfigFile crate path file config).1 = .error error) ∧
        (applyPublicConfigFile crate path file config).2 = config) := by
  unfold applyPublicConfigFile
  cases read : file.parse crate path with
  | error error => exact Or.inr ⟨⟨error, rfl⟩, rfl⟩
  | ok document =>
      left
      have deserialized : ∃ json, documentOf crate json = some document := by
        cases file with
        | irregular | unreadable _ | garbled => cases read
        | document json =>
            refine ⟨json, parseRemoteConfig_eq_ok ?_⟩
            cases parsed : parseRemoteConfig crate json with
            | error error =>
                simp only [PublicFile.parse, parsed, Except.mapError] at read
                cases read
            | ok other =>
                simp only [PublicFile.parse, parsed, Except.mapError] at read
                cases read
                rfl
      rcases deserialized with ⟨json, deserialized⟩
      have accepted := validate_merge reparses valid deserialized
      exact ⟨document, rfl, accepted, accepted, merged_merge document config⟩

namespace Sample

theorem tableCrate_reparses : Reparses tableCrate := by
  have every : ∀ entry ∈ urlTable, tableCrate.parse (tableCrate.display entry.2) = some entry.2 := by
    decide +kernel
  intro text url parsed
  exact every _ (Association.mem_of_lookup parsed)

/-- A document that sets the URL and the time of an inactivity burn. -/
def remoteDocument : Json :=
  .object [("schema_version", .number (.integer false 1)), ("session", .object
    [("auto_burn_seconds", .number (.integer false 600)),
      ("initial_url", .string "http://192.0.2.7:3128/")])]

end Sample

/-- The document is applied to the default configuration. -/
theorem applyPublicConfigFile_atomic_of_remoteDocument :
    ∃ after : Config,
      applyPublicConfigFile Sample.tableCrate "config.json" (.document Sample.remoteDocument) {} =
        (.ok (), after) ∧
      after.validate Sample.tableCrate = .ok () ∧ after.session.autoBurnSeconds = 600 := by
  have valid : ({} : Config).validate Sample.tableCrate = .ok () :=
    Config.default_validate Sample.tableCrate_parsesDefaults
  have seconds : (parseRemoteConfig Sample.tableCrate Sample.remoteDocument).toOption.map
      (·.session.autoBurnSeconds) = some (some 600) := by
    decide +kernel
  cases parsed : parseRemoteConfig Sample.tableCrate Sample.remoteDocument with
  | error error =>
      rw [parsed] at seconds
      cases seconds
  | ok found =>
      rw [parsed] at seconds
      have reviewed : found.session.autoBurnSeconds = some 600 := Option.some.inj seconds
      have same : (PublicFile.document Sample.remoteDocument).parse Sample.tableCrate "config.json" =
          .ok found := by
        simp only [PublicFile.parse, parsed, Except.mapError]
      rcases applyPublicConfigFile_atomic Sample.tableCrate_reparses valid "config.json"
          (.document Sample.remoteDocument) with
        ⟨document, read, applied, accepted, merged⟩ | ⟨⟨error, failed⟩, _⟩
      · obtain rfl := Except.ok.inj (same.symm.trans read)
        refine ⟨(applyPublicConfigFile Sample.tableCrate "config.json"
          (.document Sample.remoteDocument) {}).2, Prod.ext applied rfl, accepted, ?_⟩
        rcases merged.seconds with ⟨absent, _⟩ | ⟨value, present, equal⟩
        · rw [reviewed] at absent
          cases absent
        · rw [equal, ← Option.some.inj (reviewed.symm.trans present)]
          rfl
      · have accepted := validate_merge Sample.tableCrate_reparses valid
          (parseRemoteConfig_eq_ok parsed)
        simp only [applyPublicConfigFile, same, accepted] at failed
        cases failed

end XanhTab
