import XanhTab.Remote.Urls

/-!
# The schema of the public configuration

`remote-config.schema.json`, and the documents on which it and the daemon agree.
A document that breaks none of the rules that both have is accepted by the daemon
unless it uses a form that only the schema takes, and by the schema unless it uses
one that only the daemon takes.
-/

namespace XanhTab

open XanhTab.Configuration

namespace Remote

/-! ## The schema -/

def profileNames : List String :=
  ["1080p30", "720p15", "480p10"]

/-- `format: uri` is asserted as the syntax of URIs. -/
def urlSchema (isUri : String → Bool) : Schema :=
  .all [.isString, .matching isUri, .anyOf [.constString "xanhtab://home",
    .matching fun text => matchesWeb text.toList]]

def secondsSchema : Schema :=
  .all [.isInteger, .anyOf [.constNumber 0, .all [.minimum 60, .maximum 86400]]]

def sessionSchema (isUri : String → Bool) : Schema :=
  .all [.isObject, .noAdditional sessionFields, .minProperties 1,
    .properties [("initial_url", urlSchema isUri), ("initial_profile", .enumeration profileNames),
      ("auto_burn_seconds", secondsSchema)]]

def documentSchema (isUri : String → Bool) : Schema :=
  .all [.isObject, .noAdditional documentFields, .required documentFields,
    .properties [("schema_version", .constNumber 1), ("session", sessionSchema isUri)]]

/-! ## Parts of a document -/

/-- The fields of a document and of its session, whether one of the two is written
as an array, and whether one of the two has a name twice. -/
structure Parts where
  version : Json
  url : Option Json
  profile : Option Json
  seconds : Option Json
  listed : Bool
  repeated : Bool

/-- The fields of a struct, where the last value under a name counts. -/
def spread (names : List String) : Json → Option (List (Option Json))
  | .object members =>
      if ∀ member ∈ members, member.1 ∈ names then
        some (names.map fun name => Json.last name members)
      else none
  | .array elements =>
      if elements.length = names.length then some (elements.map some) else none
  | _ => none

def partsOf (json : Json) : Option Parts :=
  match spread documentFields json with
  | some [some version, some session] =>
      match spread sessionFields session with
      | some [url, profile, seconds] =>
          some ⟨version, url, profile, seconds, json.isArray || session.isArray,
            json.repeats || session.repeats⟩
      | _ => none
  | _ => none

theorem fields_eq_some_iff {names : List String} {json : Json} {values : List (Option Json)} :
    fields names json = some values ↔ spread names json = some values ∧ json.repeats = false := by
  cases json with
  | object members =>
      simp only [fields, spread, Json.repeats, decide_eq_false_iff_not, not_not,
        Option.ite_none_right_eq_some]
      constructor
      · rintro ⟨⟨distinct, known⟩, found⟩
        refine ⟨⟨known, ?_⟩, distinct⟩
        rw [← found]
        congr 1
        exact List.map_congr_left fun name _ => Json.last_eq_lookup distinct
      · rintro ⟨⟨known, found⟩, distinct⟩
        refine ⟨⟨distinct, known⟩, ?_⟩
        rw [← found]
        congr 1
        exact List.map_congr_left fun name _ => (Json.last_eq_lookup distinct).symm
  | array elements => simp [fields, spread, Json.repeats]
  | null | bool _ | number _ | string _ => simp [fields, spread, Json.repeats]

/-- The member is there and set to something. -/
def IsSet (member : Option Json) : Prop :=
  ∃ json, member = some json ∧ json ≠ .null

/-! ## Forms of a value -/

/-- A text that names the home page, or a page of the web without credentials. -/
def UrlForm (json : Json) : Prop :=
  ∃ text, json = .string text ∧ UrlText text

/-- The name of a profile, or an object with this name and nothing in it. -/
def ProfileForm (json : Json) : Prop :=
  ∃ name ∈ profileNames, json = .string name ∨ json = .object [(name, .null)]

/-- A number whose value is zero or a number of seconds in the range. -/
def SecondsForm (json : Json) : Prop :=
  ∃ number : Json.Number, json = .number number ∧ number.value.den = 1 ∧
    (number.value = 0 ∨ 60 ≤ number.value ∧ number.value ≤ 86400)

/-- A number of value one. -/
def VersionForm (json : Json) : Prop :=
  ∃ number : Json.Number, json = .number number ∧ number.value = 1

/-- A number that is written without sign, fraction and exponent. -/
def Plain (json : Json) : Prop :=
  ∃ magnitude, json = .number (.integer false magnitude)

/-- No rule that the daemon and the schema share is broken. -/
structure Faultless (parts : Parts) : Prop where
  version : VersionForm parts.version
  url : ∀ json, parts.url = some json → json ≠ .null → UrlForm json
  profile : ∀ json, parts.profile = some json → json ≠ .null → ProfileForm json
  seconds : ∀ json, parts.seconds = some json → json ≠ .null → SecondsForm json
  some : IsSet parts.url ∨ IsSet parts.profile ∨ IsSet parts.seconds

/-- A form is used that only the daemon takes. -/
def Lenient (isUri : String → Bool) (parts : Parts) : Prop :=
  parts.listed = true ∨ parts.url = some .null ∨ parts.profile = some .null ∨
    parts.seconds = some .null ∨ (∃ members, parts.profile = some (.object members)) ∨
    ∃ text, parts.url = some (.string text) ∧ WrittenLoosely isUri text

/-- A form is used that only the schema takes. -/
def Loose (parseHost : List Char → Option String) (parts : Parts) : Prop :=
  parts.repeated = true ∨ ¬ Plain parts.version ∨
    (∃ json, parts.seconds = some json ∧ json ≠ .null ∧ ¬ Plain json) ∨
      ∃ text, parts.url = some (.string text) ∧ Unreachable parseHost text

/-! ## The daemon -/

section Daemon

variable {crate : UrlCrate} {parseHost : List Char → Option String} {json : Json}
  {member : Option Json}

/-- An optional field is accepted if it is absent, `null` or accepted as a value. -/
theorem optional_all_iff {α : Type} {read : Json → Option α} {accepts : α → Bool} :
    (∃ value, optional read member = some value ∧ value.all accepts = true) ↔
      ∀ json, member = some json → json ≠ .null → ∃ value, read json = some value ∧
        accepts value = true := by
  cases member with
  | none =>
      constructor
      · intro _ json absent
        cases absent
      · intro _
        exact ⟨none, rfl, rfl⟩
  | some json =>
      by_cases null : json = .null
      · subst json
        constructor
        · intro _ json same set
          exact absurd (Option.some.inj same).symm set
        · intro _
          exact ⟨none, rfl, rfl⟩
      · have read_eq : optional read (some json) = (read json).map some := by
          cases json with
          | null => exact absurd rfl null
          | _ => rfl
        rw [read_eq]
        constructor
        · rintro ⟨value, found, accepted⟩ other same _
          rw [← Option.some.inj same]
          rcases Option.map_eq_some_iff.mp found with ⟨inner, readable, rfl⟩
          exact ⟨inner, readable, accepted⟩
        · intro each
          rcases each json rfl null with ⟨value, readable, accepted⟩
          refine ⟨some value, ?_, accepted⟩
          rw [readable]
          rfl

theorem isSome_iff_isSet {α : Type} {read : Json → Option α} {value : Option α}
    (found : optional read member = some value) : value.isSome = true ↔ IsSet member := by
  cases member with
  | none =>
      cases found
      simp [IsSet]
  | some json =>
      by_cases null : json = .null
      · subst json
        cases found
        simp [IsSet]
      · have read_eq : optional read (some json) = (read json).map some := by
          cases json with
          | null => exact absurd rfl null
          | _ => rfl
        rw [read_eq] at found
        rcases Option.map_eq_some_iff.mp found with ⟨inner, _, rfl⟩
        exact ⟨fun _ => ⟨json, rfl, null⟩, fun _ => rfl⟩

theorem unsigned_version_iff : unsigned 256 json = some 1 ↔ VersionForm json ∧ Plain json := by
  constructor
  · intro read
    unfold unsigned at read
    split at read
    · rename_i magnitude
      split at read
      · rw [Option.some.inj read]
        exact ⟨⟨_, rfl, by simp [Json.Number.value]⟩, 1, rfl⟩
      · cases read
    · cases read
  · rintro ⟨⟨number, rfl, value⟩, magnitude, plain⟩
    cases plain
    have one : magnitude = 1 := by
      simpa [Json.Number.value] using value
    rw [one]
    rfl

theorem unsigned_seconds_iff :
    (∃ seconds, unsigned (2 ^ 64) json = some seconds ∧ acceptsSeconds seconds = true) ↔
      SecondsForm json ∧ Plain json := by
  constructor
  · rintro ⟨seconds, read, accepted⟩
    unfold unsigned at read
    split at read
    · rename_i magnitude
      split at read
      · rw [Option.some.inj read]
        have range : seconds = 0 ∨ 60 ≤ seconds ∧ seconds ≤ 86400 := by
          simpa [acceptsSeconds] using accepted
        refine ⟨⟨_, rfl, ?_, ?_⟩, seconds, rfl⟩
        · simp [Json.Number.value]
        · simp only [Json.Number.value]
          exact_mod_cast range
      · cases read
    · cases read
  · rintro ⟨⟨number, rfl, _, range⟩, magnitude, plain⟩
    cases plain
    simp only [Json.Number.value] at range
    have natural : magnitude = 0 ∨ 60 ≤ magnitude ∧ magnitude ≤ 86400 := by
      exact_mod_cast range
    refine ⟨magnitude, if_pos (by omega), ?_⟩
    simpa [acceptsSeconds] using natural

theorem profileNamed_isSome_iff {name : String} :
    (∃ profile, profileNamed name = some profile) ↔ name ∈ profileNames := by
  unfold profileNamed profileNames
  rw [← Option.isSome_iff_exists, List.lookup_isSome_iff]
  simp

theorem profileOf_iff : (∃ profile, profileOf json = some profile) ↔ ProfileForm json := by
  constructor
  · rintro ⟨profile, read⟩
    unfold profileOf at read
    split at read
    · exact ⟨_, profileNamed_isSome_iff.mp ⟨profile, read⟩, Or.inl rfl⟩
    · exact ⟨_, profileNamed_isSome_iff.mp ⟨profile, read⟩, Or.inr rfl⟩
    · cases read
  · rintro ⟨name, known, rfl | rfl⟩
    · exact profileNamed_isSome_iff.mpr known
    · exact profileNamed_isSome_iff.mpr known

theorem urlOf_iff :
    (∃ url, urlOf crate json = some url ∧ acceptsUrl crate url = true) ↔
      ∃ text, json = .string text ∧ DaemonUrl crate text := by
  constructor
  · rintro ⟨url, read, accepted⟩
    unfold urlOf at read
    split at read
    · exact ⟨_, rfl, url, read, accepted⟩
    · cases read
  · rintro ⟨text, rfl, url, parsed, accepted⟩
    exact ⟨url, parsed, accepted⟩

/-- What the daemon makes of a document, from its parts. -/
theorem documentOf_eq {parts : Parts} (split : partsOf json = some parts)
    (distinct : parts.repeated = false) :
    documentOf crate json = (unsigned 256 parts.version).bind fun schemaVersion =>
      ((optional (urlOf crate) parts.url).bind fun initialUrl =>
        (optional profileOf parts.profile).bind fun initialProfile =>
          (optional (unsigned (2 ^ 64)) parts.seconds).map fun autoBurnSeconds =>
            { initialUrl, initialProfile, autoBurnSeconds }).map fun session =>
        { schemaVersion, session } := by
  unfold partsOf at split
  split at split
  · rename_i version session outer
    split at split
    · rename_i url profile seconds inner
      cases split
      rcases Bool.or_eq_false_iff.mp distinct with ⟨first, second⟩
      have outerFields := fields_eq_some_iff.mpr ⟨outer, first⟩
      have innerFields := fields_eq_some_iff.mpr ⟨inner, second⟩
      simp only [documentOf, outerFields, sessionOf, innerFields]
    · cases split
  · cases split

theorem exists_partsOf {document : RemoteConfigDocument}
    (deserialized : documentOf crate json = some document) :
    ∃ parts, partsOf json = some parts ∧ parts.repeated = false := by
  unfold documentOf at deserialized
  split at deserialized
  · rename_i version session outerFields
    rcases Option.bind_eq_some_iff.mp deserialized with ⟨_, _, deserialized⟩
    rcases Option.map_eq_some_iff.mp deserialized with ⟨_, deserialized, _⟩
    unfold sessionOf at deserialized
    split at deserialized
    · rename_i url profile seconds innerFields
      rcases fields_eq_some_iff.mp outerFields with ⟨outer, first⟩
      rcases fields_eq_some_iff.mp innerFields with ⟨inner, second⟩
      refine ⟨⟨version, url, profile, seconds, json.isArray || session.isArray,
        json.repeats || session.repeats⟩, ?_, Bool.or_eq_false_iff.mpr ⟨first, second⟩⟩
      simp only [partsOf, outer, inner]
    · cases deserialized
  · cases deserialized

theorem parseRemoteConfig_isOk_iff :
    (∃ document, parseRemoteConfig crate json = .ok document) ↔
      ∃ document, documentOf crate json = some document ∧ document.schemaVersion = 1 ∧
        (document.session.initialUrl.isSome = true ∨ document.session.initialProfile.isSome = true ∨
          document.session.autoBurnSeconds.isSome = true) ∧
        document.session.initialUrl.all (acceptsUrl crate) = true ∧
        document.session.autoBurnSeconds.all acceptsSeconds = true := by
  unfold parseRemoteConfig
  cases deserialized : documentOf crate json with
  | none => simp
  | some document =>
      dsimp only
      generalize checks : checkAll _ = checked
      have passed : checked = .ok () ↔ document.schemaVersion = 1 ∧
          (document.session.initialUrl.isSome = true ∨
            document.session.initialProfile.isSome = true ∨
            document.session.autoBurnSeconds.isSome = true) ∧
          document.session.initialUrl.all (acceptsUrl crate) = true ∧
          document.session.autoBurnSeconds.all acceptsSeconds = true := by
        rw [← checks, checkAll_eq_ok_iff]
        simp only [List.forall_mem_cons, List.not_mem_nil, false_implies, implies_true,
          check_eq_ok_iff, decide_eq_true_eq, Bool.or_eq_true, or_assoc, and_true]
      cases checked with
      | error error =>
          constructor
          · rintro ⟨_, impossible⟩
            cases impossible
          · rintro ⟨_, same, rest⟩
            rw [← Option.some.inj same] at rest
            cases passed.mpr rest
      | ok _ =>
          exact ⟨fun _ => ⟨document, rfl, passed.mp rfl⟩, fun _ => ⟨document, rfl⟩⟩

/-- The daemon accepts what breaks no shared rule and uses no form that only the
schema takes. -/
theorem daemon_iff (reads : ReadsUrls crate parseHost) :
    (∃ document, parseRemoteConfig crate json = .ok document) ↔
      ∃ parts, partsOf json = some parts ∧ Faultless parts ∧ ¬ Loose parseHost parts := by
  rw [parseRemoteConfig_isOk_iff]
  constructor
  · rintro ⟨document, deserialized, version, some, url, seconds⟩
    rcases exists_partsOf deserialized with ⟨parts, split, distinct⟩
    refine ⟨parts, split, ?_⟩
    rw [documentOf_eq split distinct] at deserialized
    rcases Option.bind_eq_some_iff.mp deserialized with ⟨one, readVersion, outer⟩
    rcases Option.map_eq_some_iff.mp outer with ⟨session, inner, rfl⟩
    rcases Option.bind_eq_some_iff.mp inner with ⟨initialUrl, readUrl, later⟩
    rcases Option.bind_eq_some_iff.mp later with ⟨profile, readProfile, last⟩
    rcases Option.map_eq_some_iff.mp last with ⟨autoBurn, readSeconds, rfl⟩
    dsimp only at version some url seconds
    subst one
    have versions := unsigned_version_iff.mp readVersion
    have urls := optional_all_iff.mp ⟨initialUrl, readUrl, url⟩
    have profiles := optional_all_iff.mp ⟨profile, readProfile,
      (by cases profile <;> rfl : profile.all (fun _ => true) = true)⟩
    have times := optional_all_iff.mp ⟨autoBurn, readSeconds, seconds⟩
    constructor
    · constructor
      · exact versions.1
      · intro value there set
        rcases urlOf_iff.mp (urls value there set) with ⟨text, rfl, taken⟩
        exact ⟨text, rfl, ((daemonUrl_iff reads).mp taken).1⟩
      · intro value there set
        rcases profiles value there set with ⟨found, named, _⟩
        exact profileOf_iff.mp ⟨found, named⟩
      · exact fun value there set => (unsigned_seconds_iff.mp (times value there set)).1
      · rw [isSome_iff_isSet readUrl, isSome_iff_isSet readProfile, isSome_iff_isSet readSeconds] at some
        exact some
    · rintro (repeated | fancy | ⟨value, there, set, fancy⟩ | ⟨text, there, unreachable⟩)
      · rw [distinct] at repeated
        cases repeated
      · exact fancy versions.2
      · exact fancy (unsigned_seconds_iff.mp (times value there set)).2
      · rcases urlOf_iff.mp (urls _ there (by simp)) with ⟨other, same, taken⟩
        cases same
        exact ((daemonUrl_iff reads).mp taken).2 unreachable
  · rintro ⟨parts, split, faultless, strict⟩
    have distinct : parts.repeated = false :=
      eq_false_of_ne_true fun repeated => strict (Or.inl repeated)
    have version : unsigned 256 parts.version = some 1 := by
      refine unsigned_version_iff.mpr ⟨faultless.version, ?_⟩
      by_contra fancy
      exact strict (Or.inr (Or.inl fancy))
    have url : ∀ value, parts.url = some value → value ≠ .null →
        ∃ url, urlOf crate value = some url ∧ acceptsUrl crate url = true := by
      intro value there set
      rcases faultless.url value there set with ⟨text, rfl, named⟩
      refine urlOf_iff.mpr ⟨text, rfl, (daemonUrl_iff reads).mpr ⟨named, fun unreachable => ?_⟩⟩
      exact strict (Or.inr (Or.inr (Or.inr ⟨text, there, unreachable⟩)))
    have profile : ∀ value, parts.profile = some value → value ≠ .null →
        ∃ profile, profileOf value = some profile ∧ (fun _ => true) profile = true := by
      intro value there set
      rcases profileOf_iff.mpr (faultless.profile value there set) with ⟨found, named⟩
      exact ⟨found, named, rfl⟩
    have seconds : ∀ value, parts.seconds = some value → value ≠ .null →
        ∃ seconds, unsigned (2 ^ 64) value = some seconds ∧ acceptsSeconds seconds = true := by
      intro value there set
      refine unsigned_seconds_iff.mpr ⟨faultless.seconds value there set, ?_⟩
      by_contra fancy
      exact strict (Or.inr (Or.inr (Or.inl ⟨value, there, set, fancy⟩)))
    rcases optional_all_iff.mpr url with ⟨initialUrl, readUrl, acceptedUrl⟩
    rcases optional_all_iff.mpr profile with ⟨initialProfile, readProfile, _⟩
    rcases optional_all_iff.mpr seconds with ⟨autoBurnSeconds, readSeconds, acceptedSeconds⟩
    refine ⟨⟨1, ⟨initialUrl, initialProfile, autoBurnSeconds⟩⟩, ?_, rfl, ?_, acceptedUrl,
      acceptedSeconds⟩
    · rw [documentOf_eq split distinct, version, readUrl, readProfile, readSeconds]
      rfl
    · rw [isSome_iff_isSet readUrl, isSome_iff_isSet readProfile, isSome_iff_isSet readSeconds]
      exact faultless.some

end Daemon

/-! ## The schema and the parts -/

section Structural

variable {isUri : String → Bool} {json : Json}

theorem urlSchema_iff :
    urlSchema isUri json = true ↔ ∃ text, json = .string text ∧ SchemaUrl isUri text := by
  cases json with
  | string text =>
      simp [urlSchema, Schema.all, Schema.anyOf, Schema.isString, Schema.matching,
        Schema.constString, SchemaUrl]
  | _ => simp [urlSchema, Schema.all, Schema.isString]

theorem enumeration_iff {names : List String} :
    Schema.enumeration names json = true ↔ ∃ name ∈ names, json = .string name := by
  cases json <;> simp [Schema.enumeration]

theorem constNumber_iff : Schema.constNumber 1 json = true ↔ VersionForm json := by
  cases json <;> simp [Schema.constNumber, VersionForm]

theorem secondsSchema_iff : secondsSchema json = true ↔ SecondsForm json := by
  cases json with
  | number number =>
      simp [secondsSchema, Schema.all, Schema.anyOf, Schema.isInteger, Schema.constNumber,
        Schema.minimum, Schema.maximum, SecondsForm]
  | _ => simp [secondsSchema, Schema.all, Schema.isInteger, SecondsForm]

/-- An object of the given fields, with further keywords. -/
theorem object_iff {names : List String} {keywords : List Schema} :
    Schema.all (Schema.isObject :: Schema.noAdditional names :: keywords) json = true ↔
      ∃ members, json = .object members ∧
        spread names json = some (names.map fun name => Json.last name members) ∧
        ∀ keyword ∈ keywords, keyword json = true := by
  cases json with
  | object members =>
      simp [Schema.all, Schema.isObject, Schema.noAdditional, spread]
  | _ => simp [Schema.all, Schema.isObject]

theorem minProperties_one_iff {members : List (String × Json)} :
    Schema.minProperties 1 (.object members) = true ↔ members ≠ [] := by
  have positive : 0 < (members.map Prod.fst).dedup.length ↔ members ≠ [] := by
    rw [List.length_pos_iff, ne_eq, ne_eq, List.dedup_eq_nil, List.map_eq_nil_iff]
  simp only [Schema.minProperties, decide_eq_true_eq]
  exact positive

theorem properties_iff {schemas : List (String × Schema)} {members : List (String × Json)} :
    Schema.properties schemas (.object members) = true ↔ ∀ entry ∈ schemas, ∀ value,
      Json.last entry.1 members = some value → entry.2 value = true := by
  simp only [Schema.properties, List.all_eq_true, Option.all_eq_true]

/-- A struct that is not written as an array is an object with known names. -/
theorem spread_eq_some {names : List String} {values : List (Option Json)}
    (found : spread names json = some values) (object : json.isArray = false) :
    ∃ members, json = .object members ∧ (∀ member ∈ members, member.1 ∈ names) ∧
      values = names.map fun name => Json.last name members := by
  cases json with
  | object members =>
      rcases Option.ite_none_right_eq_some.mp found with ⟨known, equal⟩
      exact ⟨members, rfl, known, (Option.some.inj equal).symm⟩
  | array _ => cases object
  | null | bool _ | number _ | string _ => cases found

theorem exists_isSome_of_ne_nil {names : List String} {members : List (String × Json)}
    (full : members ≠ []) (known : ∀ member ∈ members, member.1 ∈ names) :
    ∃ name ∈ names, (Json.last name members).isSome = true := by
  rcases List.exists_mem_of_ne_nil members full with ⟨member, there⟩
  refine ⟨member.1, known member there, ?_⟩
  rw [Option.isSome_iff_ne_none, ne_eq, Json.last_eq_none_iff, not_not]
  exact List.mem_map_of_mem there

theorem sessionSchema_iff :
    sessionSchema isUri json = true ↔ ∃ url profile seconds,
      spread sessionFields json = some [url, profile, seconds] ∧ json.isArray = false ∧
        (url.isSome = true ∨ profile.isSome = true ∨ seconds.isSome = true) ∧
        (∀ value, url = some value → urlSchema isUri value = true) ∧
        (∀ value, profile = some value → Schema.enumeration profileNames value = true) ∧
        ∀ value, seconds = some value → secondsSchema value = true := by
  unfold sessionSchema
  rw [object_iff]
  constructor
  · rintro ⟨members, rfl, found, keywords⟩
    have full := minProperties_one_iff.mp (keywords _ List.mem_cons_self)
    have values := properties_iff.mp (keywords _ (List.mem_cons_of_mem _ List.mem_cons_self))
    simp only [List.forall_mem_cons, List.not_mem_nil, false_implies, implies_true, and_true] at values
    rcases values with ⟨urls, profiles, times⟩
    refine ⟨_, _, _, found, rfl, ?_, urls, profiles, times⟩
    rcases spread_eq_some found rfl with ⟨_, same, known, _⟩
    cases same
    rcases exists_isSome_of_ne_nil full known with ⟨name, field, there⟩
    simp only [sessionFields, List.mem_cons, List.not_mem_nil, or_false] at field
    rcases field with rfl | rfl | rfl
    · exact Or.inl there
    · exact Or.inr (Or.inl there)
    · exact Or.inr (Or.inr there)
  · rintro ⟨url, profile, seconds, found, object, present, urls, profiles, times⟩
    rcases spread_eq_some found object with ⟨members, rfl, known, equal⟩
    cases equal
    refine ⟨members, rfl, found, ?_⟩
    simp only [List.forall_mem_cons, List.not_mem_nil, false_implies, implies_true, and_true]
    refine ⟨minProperties_one_iff.mpr ?_, properties_iff.mpr ?_⟩
    · rintro rfl
      simp [Json.last] at present
    · simp only [List.forall_mem_cons, List.not_mem_nil, false_implies, implies_true, and_true]
      exact ⟨urls, profiles, times⟩

theorem documentSchema_iff :
    documentSchema isUri json = true ↔ ∃ version session,
      spread documentFields json = some [some version, some session] ∧ json.isArray = false ∧
        Schema.constNumber 1 version = true ∧ sessionSchema isUri session = true := by
  unfold documentSchema
  rw [object_iff]
  constructor
  · rintro ⟨members, rfl, found, keywords⟩
    have required := keywords _ List.mem_cons_self
    have values := properties_iff.mp (keywords _ (List.mem_cons_of_mem _ List.mem_cons_self))
    simp only [List.forall_mem_cons, List.not_mem_nil, false_implies, implies_true, and_true] at values
    have there : ∀ name ∈ documentFields, ∃ value, Json.last name members = some value := by
      intro name field
      have listed := List.all_eq_true.mp required name field
      rw [← Option.ne_none_iff_exists', ne_eq, Json.last_eq_none_iff, not_not]
      exact List.contains_iff_mem.mp listed
    rcases there "schema_version" (by decide) with ⟨version, first⟩
    rcases there "session" (by decide) with ⟨session, second⟩
    refine ⟨version, session, ?_, rfl, values.1 version first, values.2 session second⟩
    rw [found, documentFields, List.map_cons, List.map_cons, List.map_nil, first, second]
  · rintro ⟨version, session, found, object, versions, sessions⟩
    rcases spread_eq_some found object with ⟨members, rfl, known, equal⟩
    simp only [documentFields, List.map_cons, List.map_nil, List.cons.injEq, and_true] at equal
    refine ⟨members, rfl, ?_, ?_⟩
    · rw [found, documentFields, List.map_cons, List.map_cons, List.map_nil, ← equal.1, ← equal.2]
    · simp only [List.forall_mem_cons, List.not_mem_nil, false_implies, implies_true, and_true]
      constructor
      · refine List.all_eq_true.mpr fun name field => List.contains_iff_mem.mpr ?_
        have listed : Json.last name members ≠ none := by
          simp only [documentFields, List.mem_cons, List.not_mem_nil, or_false] at field
          rcases field with rfl | rfl
          · simp [← equal.1]
          · simp [← equal.2]
        rw [ne_eq, Json.last_eq_none_iff, not_not] at listed
        exact listed
      · refine properties_iff.mpr ?_
        simp only [List.forall_mem_cons, List.not_mem_nil, false_implies, implies_true, and_true,
          ← equal.1, ← equal.2, Option.some.injEq, forall_eq']
        exact ⟨versions, sessions⟩

theorem isSet_of_refuses {member : Option Json} {schema : Schema}
    (accepted : ∀ value, member = some value → schema value = true)
    (refuses : ¬ schema .null = true) (there : member.isSome = true) : IsSet member := by
  rcases Option.isSome_iff_exists.mp there with ⟨value, rfl⟩
  refine ⟨value, rfl, ?_⟩
  rintro rfl
  exact refuses (accepted _ rfl)

/-- The schema accepts what breaks no shared rule and uses no form that only the
daemon takes. -/
theorem schema_iff (uris : UriSyntax isUri) :
    documentSchema isUri json = true ↔
      ∃ parts, partsOf json = some parts ∧ Faultless parts ∧ ¬ Lenient isUri parts := by
  rw [documentSchema_iff]
  constructor
  · rintro ⟨version, session, outer, object, versions, sessions⟩
    rcases sessionSchema_iff.mp sessions with
      ⟨url, profile, seconds, inner, object', present, urls, profiles, times⟩
    refine ⟨⟨version, url, profile, seconds, json.isArray || session.isArray,
      json.repeats || session.repeats⟩, by simp only [partsOf, outer, inner], ?_, ?_⟩
    · constructor
      · exact constNumber_iff.mp versions
      · intro value there _
        rcases urlSchema_iff.mp (urls value there) with ⟨text, rfl, taken⟩
        exact ⟨text, rfl, ((schemaUrl_iff uris).mp taken).1⟩
      · intro value there _
        rcases enumeration_iff.mp (profiles value there) with ⟨name, known, rfl⟩
        exact ⟨name, known, Or.inl rfl⟩
      · exact fun value there _ => secondsSchema_iff.mp (times value there)
      · rcases present with there | there | there
        · exact Or.inl (isSet_of_refuses urls (by simp [urlSchema_iff]) there)
        · exact Or.inr (Or.inl (isSet_of_refuses profiles (by simp [enumeration_iff]) there))
        · exact Or.inr (Or.inr (isSet_of_refuses times
            (by simp [secondsSchema_iff, SecondsForm]) there))
    · rintro (listed | null | null | null | ⟨members, there⟩ | ⟨text, there, loosely⟩)
      · simp only [object, object', Bool.or_false, Bool.false_eq_true] at listed
      · simpa [urlSchema_iff] using urls _ null
      · simpa [enumeration_iff] using profiles _ null
      · simpa [secondsSchema_iff, SecondsForm] using times _ null
      · simpa [enumeration_iff] using profiles _ there
      · rcases urlSchema_iff.mp (urls _ there) with ⟨other, same, taken⟩
        cases same
        exact ((schemaUrl_iff uris).mp taken).2 loosely
  · rintro ⟨parts, split, faultless, strict⟩
    unfold partsOf at split
    split at split
    · rename_i version session outer
      split at split
      · rename_i url profile seconds inner
        cases split
        have objects : (json.isArray || session.isArray) = false :=
          eq_false_of_ne_true fun listed => strict (Or.inl listed)
        rcases Bool.or_eq_false_iff.mp objects with ⟨object, object'⟩
        refine ⟨version, session, outer, object, constNumber_iff.mpr faultless.version, ?_⟩
        refine sessionSchema_iff.mpr ⟨url, profile, seconds, inner, object', ?_, ?_, ?_, ?_⟩
        · rcases faultless.some with ⟨_, rfl, _⟩ | ⟨_, rfl, _⟩ | ⟨_, rfl, _⟩
          · exact Or.inl rfl
          · exact Or.inr (Or.inl rfl)
          · exact Or.inr (Or.inr rfl)
        · rintro value rfl
          have set : value ≠ .null := by
            rintro rfl
            exact strict (Or.inr (Or.inl rfl))
          rcases faultless.url value rfl set with ⟨text, rfl, named⟩
          refine urlSchema_iff.mpr ⟨text, rfl, (schemaUrl_iff uris).mpr ⟨named, fun loosely => ?_⟩⟩
          exact strict (Or.inr (Or.inr (Or.inr (Or.inr (Or.inr ⟨text, rfl, loosely⟩)))))
        · rintro value rfl
          have set : value ≠ .null := by
            rintro rfl
            exact strict (Or.inr (Or.inr (Or.inl rfl)))
          rcases faultless.profile value rfl set with ⟨name, known, rfl | rfl⟩
          · exact enumeration_iff.mpr ⟨name, known, rfl⟩
          · exact absurd (Or.inr (Or.inr (Or.inr (Or.inr (Or.inl ⟨_, rfl⟩))))) strict
        · rintro value rfl
          have set : value ≠ .null := by
            rintro rfl
            exact strict (Or.inr (Or.inr (Or.inr (Or.inl rfl))))
          exact secondsSchema_iff.mpr (faultless.seconds value rfl set)
      · cases split
    · cases split

end Structural

end Remote

open Remote

/-! ## Agreement -/

/-- The daemon and the schema accept the document, or neither does. -/
def Agree (crate : UrlCrate) (isUri : String → Bool) (json : Json) : Prop :=
  validateRemoteConfig crate json = .ok () ↔ documentSchema isUri json = true

theorem validateRemoteConfig_eq_ok_iff {crate : UrlCrate} {json : Json} :
    validateRemoteConfig crate json = .ok () ↔
      ∃ document, parseRemoteConfig crate json = .ok document := by
  unfold validateRemoteConfig
  cases parseRemoteConfig crate json with
  | error error => simp [Except.map]
  | ok document => simp [Except.map]

/-- The two agree exactly if the document breaks a rule that both have, or uses
forms that only the daemon takes together with forms that only the schema takes,
or neither. -/
theorem agree_iff {crate : UrlCrate} {parseHost : List Char → Option String}
    {isUri : String → Bool} (reads : ReadsUrls crate parseHost) (uris : UriSyntax isUri)
    (json : Json) :
    Agree crate isUri json ↔ ∀ parts, partsOf json = some parts → Faultless parts →
      (Lenient isUri parts ↔ Loose parseHost parts) := by
  unfold Agree
  rw [validateRemoteConfig_eq_ok_iff, daemon_iff reads, schema_iff uris]
  constructor
  · intro agree parts split faultless
    constructor
    · intro lenient
      by_contra strict
      rcases agree.mp ⟨parts, split, faultless, strict⟩ with ⟨other, same, _, refuses⟩
      rw [Option.some.inj (split.symm.trans same)] at lenient
      exact refuses lenient
    · intro loose
      by_contra strict
      rcases agree.mpr ⟨parts, split, faultless, strict⟩ with ⟨other, same, _, refuses⟩
      rw [Option.some.inj (split.symm.trans same)] at loose
      exact refuses loose
  · intro same
    constructor
    · rintro ⟨parts, split, faultless, strict⟩
      exact ⟨parts, split, faultless, fun lenient =>
        strict ((same parts split faultless).mp lenient)⟩
    · rintro ⟨parts, split, faultless, strict⟩
      exact ⟨parts, split, faultless, fun loose =>
        strict ((same parts split faultless).mpr loose)⟩

namespace Sample

open Text

/-- Names of letters, digits, dots and hyphens. -/
def parseHost (host : List Char) : Option String :=
  if host.all fun c => c.isAlphanum || c = '.' || c = '-' then
    some (String.ofList (lowercase host))
  else none

/-- The `url` crate on texts with such hosts and plain paths. -/
def webCrate : UrlCrate where
  parse text :=
    match webUrl (scanned text.toList) with
    | some pieces =>
        if pieces.host ≠ [] ∧ (parseHost pieces.host).isSome = true ∧ pieces.hasPort = true then
          some
            { scheme := String.ofList (lowercase pieces.scheme)
              username := if pieces.Anonymous then "" else String.ofList pieces.credentials
              host := parseHost pieces.host
              path := if pieces.tail = [] then "/" else String.ofList pieces.tail }
        else none
    | none =>
        if isHome (scanned text.toList) then some { scheme := "xanhtab", host := some "home" }
        else none
  display url := url.scheme ++ "://" ++ url.host.getD "" ++ url.path

/-- Characters of URIs with a colon among them. -/
def isUri (text : String) : Bool :=
  text.toList.all isUriChar && text.toList.contains ':'

theorem isUri_uriSyntax : UriSyntax isUri where
  characters text uri := by
    unfold isUri at uri
    rw [Bool.and_eq_true] at uri
    exact List.all_eq_true.mp uri.1
  home := by decide +kernel

theorem webCrate_parse {text : String} {pieces : WebUrl}
    (found : webUrl (scanned text.toList) = some pieces) :
    webCrate.parse text =
      if pieces.host ≠ [] ∧ (parseHost pieces.host).isSome = true ∧ pieces.hasPort = true then
        some
          { scheme := String.ofList (lowercase pieces.scheme)
            username := if pieces.Anonymous then "" else String.ofList pieces.credentials
            host := parseHost pieces.host
            path := if pieces.tail = [] then "/" else String.ofList pieces.tail }
      else none := by
  unfold webCrate
  dsimp only
  rw [found]

theorem webCrate_parse_of_none {text : String} (none : webUrl (scanned text.toList) = none) :
    webCrate.parse text =
      if isHome (scanned text.toList) then some { scheme := "xanhtab", host := some "home" }
      else Option.none := by
  unfold webCrate
  dsimp only
  rw [none]

/-- A page of the web is not shown as the home page. -/
theorem display_ne_home {url : Url} (web : url.scheme ∈ ["http", "https"]) :
    webCrate.display url ≠ "xanhtab://home" := by
  intro same
  have first := congrArg (fun text => text.toList.head?) same
  simp only [List.mem_cons, List.not_mem_nil, or_false] at web
  rcases web with scheme | scheme
  · simp [webCrate, scheme] at first
  · simp [webCrate, scheme] at first

theorem webCrate_reads : ReadsUrls webCrate parseHost where
  web text pieces found := by
    rw [webCrate_parse found]
    split
    · rename_i accepted
      exact iff_of_true rfl accepted
    · rename_i refused
      exact iff_of_false (by simp) refused
  components text pieces url found parsed := by
    rw [webCrate_parse found] at parsed
    rcases Option.ite_none_right_eq_some.mp parsed with ⟨_, same⟩
    cases same
    refine ⟨rfl, rfl, ?_⟩
    dsimp only
    by_cases anonymous : pieces.Anonymous
    · rw [if_pos anonymous]
      exact iff_of_true ⟨rfl, rfl⟩ anonymous
    · rw [if_neg anonymous]
      refine iff_of_false ?_ anonymous
      rintro ⟨empty, _⟩
      have none := congrArg String.toList empty
      rw [String.toList_ofList] at none
      exact anonymous (Or.inl none)
  scheme text url parsed scheme := by
    cases found : webUrl (scanned text.toList) with
    | some pieces => rfl
    | none =>
        rw [webCrate_parse_of_none found] at parsed
        rcases Option.ite_none_right_eq_some.mp parsed with ⟨_, same⟩
        cases same
        simp at scheme
  home text := by
    cases found : webUrl (scanned text.toList) with
    | some pieces =>
        refine iff_of_false ?_ ?_
        · rintro ⟨url, parsed, shown⟩
          rw [webCrate_parse found] at parsed
          rcases Option.ite_none_right_eq_some.mp parsed with ⟨_, same⟩
          cases same
          exact display_ne_home (lowercase_scheme found) shown
        · intro home
          rw [webUrl_of_isHome home] at found
          cases found
    | none =>
        rw [webCrate_parse_of_none found]
        constructor
        · rintro ⟨url, parsed, _⟩
          exact (Option.ite_none_right_eq_some.mp parsed).1
        · intro home
          rw [if_pos home]
          exact ⟨_, rfl, by decide +kernel⟩

/-- A document that sets a page of the web and a time. -/
def webDocument : Json :=
  .object [("schema_version", .number (.integer false 1)), ("session", .object
    [("initial_url", .string "https://example.org/start"),
      ("auto_burn_seconds", .number (.integer false 600))])]

end Sample

/-- No form is used that one of the two does not take. -/
theorem agree_iff_of_webDocument : Agree Sample.webCrate Sample.isUri Sample.webDocument := by
  refine (agree_iff Sample.webCrate_reads Sample.isUri_uriSyntax _).mpr ?_
  intro parts split _
  have known : partsOf Sample.webDocument =
      some ⟨.number (.integer false 1), some (.string "https://example.org/start"), none,
        some (.number (.integer false 600)), false, false⟩ := by
    rfl
  obtain rfl := Option.some.inj (split.symm.trans known)
  have found : Text.webUrl (Text.scanned "https://example.org/start".toList) =
      some ⟨"https".toList, "//".toList, "example.org".toList, "/start".toList⟩ := by
    decide +kernel
  refine iff_of_false ?_ ?_
  · rintro (listed | null | null | null | ⟨_, object⟩ | ⟨text, same, loosely⟩)
    · cases listed
    · cases null
    · cases null
    · cases null
    · cases object
    · cases same
      rcases loosely with refused | ⟨home, _⟩ | ⟨pieces, found', loose⟩
      · revert refused
        decide +kernel
      · rw [webUrl_of_isHome home] at found
        cases found
      · obtain rfl := Option.some.inj (found.symm.trans found')
        refine loose ⟨by decide, rfl, by decide, ?_⟩
        intro c first
        exact (Option.some.inj first).symm
  · rintro (repeated | fancy | ⟨_, there, _, fancy⟩ | ⟨text, same, unreachable⟩)
    · cases repeated
    · exact fancy ⟨1, rfl⟩
    · cases there
      exact fancy ⟨600, rfl⟩
    · cases same
      rcases unreachable with ⟨pieces, found', empty | unknown | none⟩
      · obtain rfl := Option.some.inj (found.symm.trans found')
        revert empty
        decide +kernel
      · obtain rfl := Option.some.inj (found.symm.trans found')
        revert unknown
        decide +kernel
      · obtain rfl := Option.some.inj (found.symm.trans found')
        revert none
        decide +kernel

/-- A document with a member that is `null`. -/
def Sample.nullDocument : Json :=
  .object [("schema_version", .number (.integer false 1)), ("session", .object
    [("initial_profile", .string "720p15"), ("auto_burn_seconds", .null)])]

/-- The daemon takes a member that is `null` as absent, and the schema refuses it. -/
theorem not_agree_of_null :
    ¬ ∀ (crate : UrlCrate) (parseHost : List Char → Option String) (isUri : String → Bool)
        (json : Json), ReadsUrls crate parseHost → UriSyntax isUri → Agree crate isUri json := by
  intro agree
  have accepted : validateRemoteConfig Sample.webCrate Sample.nullDocument = .ok () := by
    decide +kernel
  have refused := (agree _ _ _ Sample.nullDocument Sample.webCrate_reads
    Sample.isUri_uriSyntax).mp accepted
  revert refused
  decide +kernel

end XanhTab
