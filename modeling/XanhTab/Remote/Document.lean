import XanhTab.Config.Validate
import XanhTab.Json.Basic

/-!
# The public configuration

`remote_config.rs` on a parsed document: what `serde` makes of it, the checks of
`parse_remote_config`, and `apply_public_config_file`.  A struct may be written as
an object or as the array of its fields, an optional field may be `null`, and a
unit variant may be written as an object with its name.
-/

namespace XanhTab

open XanhTab.Configuration

namespace Remote

/-! ## Deserialisation -/

/-- A `u8`, or another unsigned type with so many values. -/
def unsigned (limit : Nat) : Json → Option Nat
  | .number (.integer false magnitude) => if magnitude < limit then some magnitude else none
  | _ => none

def urlOf (crate : UrlCrate) : Json → Option Url
  | .string text => crate.parse text
  | _ => none

/-- The names of the variants of `StreamProfile`. -/
def profileNamed (name : String) : Option StreamProfile :=
  [("1080p30", .fullHd30), ("720p15", .hd15), ("480p10", .sd10)].lookup name

def profileOf : Json → Option StreamProfile
  | .string name => profileNamed name
  | .object [(name, .null)] => profileNamed name
  | _ => none

/-- An optional field, which may be absent or `null`. -/
def optional {α : Type} (read : Json → Option α) : Option Json → Option (Option α)
  | none | some .null => some none
  | some json => (read json).map some

/-- The fields of a struct with `deny_unknown_fields`. -/
def fields (names : List String) : Json → Option (List (Option Json))
  | .object members =>
      if (members.map Prod.fst).Nodup ∧ ∀ member ∈ members, member.1 ∈ names then
        some (names.map fun name => members.lookup name)
      else none
  | .array elements =>
      if elements.length = names.length then some (elements.map some) else none
  | _ => none

structure RemoteSessionConfig where
  initialUrl : Option Url := none
  initialProfile : Option StreamProfile := none
  autoBurnSeconds : Option Nat := none
  deriving DecidableEq, Repr

structure RemoteConfigDocument where
  schemaVersion : Nat
  session : RemoteSessionConfig
  deriving DecidableEq, Repr

def sessionFields : List String :=
  ["initial_url", "initial_profile", "auto_burn_seconds"]

def documentFields : List String :=
  ["schema_version", "session"]

def sessionOf (crate : UrlCrate) (json : Json) : Option RemoteSessionConfig :=
  match fields sessionFields json with
  | some [url, profile, seconds] =>
      (optional (urlOf crate) url).bind fun initialUrl =>
        (optional profileOf profile).bind fun initialProfile =>
          (optional (unsigned (2 ^ 64)) seconds).map fun autoBurnSeconds =>
            { initialUrl, initialProfile, autoBurnSeconds }
  | _ => none

def documentOf (crate : UrlCrate) (json : Json) : Option RemoteConfigDocument :=
  match fields documentFields json with
  | some [some version, some session] =>
      (unsigned 256 version).bind fun schemaVersion =>
        (sessionOf crate session).map fun session => { schemaVersion, session }
  | _ => none

/-! ## Checks -/

/-- The URL of the home page, or one of the web without credentials. -/
def acceptsUrl (crate : UrlCrate) (url : Url) : Bool :=
  crate.display url = "xanhtab://home" ||
    (["http", "https"].contains url.scheme && url.host.isSome && url.username = "" &&
      url.password.isNone)

def acceptsSeconds (seconds : Nat) : Bool :=
  seconds = 0 || (60 ≤ seconds && seconds ≤ 86400)

/-- What `serde_json` reports is not kept. -/
def malformed : String :=
  "malformed document"

/-- `parse_remote_config`. -/
def parseRemoteConfig (crate : UrlCrate) (json : Json) : Except String RemoteConfigDocument :=
  match documentOf crate json with
  | none => .error malformed
  | some document =>
      (checkAll
        [check (document.schemaVersion = 1) "schema_version must be 1",
          check (document.session.initialUrl.isSome || document.session.initialProfile.isSome ||
              document.session.autoBurnSeconds.isSome)
            "session must contain at least one reviewed setting",
          check (document.session.initialUrl.all (acceptsUrl crate))
            "initial_url must be HTTP(S) without credentials or xanhtab://home",
          check (document.session.autoBurnSeconds.all acceptsSeconds)
            "auto_burn_seconds must be zero or between 60 and 86400"]).map fun _ => document

/-- `validate_remote_config`. -/
def validateRemoteConfig (crate : UrlCrate) (json : Json) : Except String Unit :=
  (parseRemoteConfig crate json).map fun _ => ()

/-! ## Applying -/

/-- A public configuration file. -/
inductive PublicFile
  /-- Missing, a symbolic link or something else that is not a regular file. -/
  | irregular
  | unreadable (error : String)
  /-- The text is no JSON document. -/
  | garbled
  | document (json : Json)

/-- The document of a file, or an error. -/
def PublicFile.parse (crate : UrlCrate) (path : String) :
    PublicFile → Except String RemoteConfigDocument
  | irregular => .error ("public config path is not a regular file: " ++ path)
  | unreadable error => .error error
  | garbled => .error ("invalid public config " ++ path)
  | document json =>
      (parseRemoteConfig crate json).mapError fun error =>
        "invalid public config " ++ path ++ ": " ++ error

/-- The session section with what the document sets. -/
def merge (crate : UrlCrate) (document : RemoteConfigDocument) (session : SessionConfig) :
    SessionConfig :=
  { session with
    initialUrl := document.session.initialUrl.elim session.initialUrl crate.display
    initialProfile := document.session.initialProfile.getD session.initialProfile
    autoBurnSeconds := document.session.autoBurnSeconds.getD session.autoBurnSeconds }

/-- `apply_public_config_file`, with the configuration that it leaves behind. -/
def applyPublicConfigFile (crate : UrlCrate) (path : String) (file : PublicFile) (config : Config) :
    Except String Unit × Config :=
  match file.parse crate path with
  | .error error => (.error error, config)
  | .ok document =>
      let merged := { config with session := merge crate document config.session }
      (merged.validate crate, merged)

end Remote

end XanhTab
