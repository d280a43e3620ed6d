import Mathlib.Data.Bool.AllAny
import XanhTab.Config.Validate
import XanhTab.Data.Association

/-!
# The origin of a request

`Config::validate` compares the origins that the configured URLs have, and
`validate_origin` of `api.rs` the text of the `Origin` header with the entries of
`allowed_origins` as they are written.  The two agree on entries that are written
as a browser serialises them.
-/

namespace XanhTab

open XanhTab.Configuration

/-! ## Headers -/

/-- The bytes of a header. -/
abbrev HeaderValue := List UInt8

/-- `HeaderValue::to_str`, which takes visible ASCII characters and tabs only. -/
def HeaderValue.toStr (value : HeaderValue) : Option String :=
  if value.all fun byte => (32 ≤ byte && byte < 127) || byte = 9 then
    some (String.ofList (value.map fun byte => Char.ofNat byte.toNat))
  else none

/-- The headers of a request in order, with names in lower case. -/
abbrev HeaderMap := List (String × HeaderValue)

namespace HeaderMap

def getAll (headers : HeaderMap) (name : String) : List HeaderValue :=
  (headers.filter fun header => header.1 = name).map Prod.snd

/-- `HeaderMap::get`, which is the first of them. -/
def get (headers : HeaderMap) (name : String) : Option HeaderValue :=
  (headers.getAll name).head?

/-- The first value, if it is a text. -/
def text (headers : HeaderMap) (name : String) : Option String :=
  (headers.get name).bind HeaderValue.toStr

end HeaderMap

/-- `validate_origin`. -/
def validateOrigin (allowedOrigins : List String) (headers : HeaderMap) : Except AppError Unit :=
  if (headers.text "sec-fetch-site").all fun site =>
      ["same-origin", "same-site", "none"].contains site then
    if (headers.text "origin").all fun origin => allowedOrigins.contains origin then .ok ()
    else .error .invalidCsrf
  else .error .invalidCsrf

/-! ## What the check is for -/

/-- What a browser sends for the page at the URL. -/
structure FromPage (page : Url) (headers : HeaderMap) : Prop where
  origin : ∃ value, headers.getAll "origin" = [value] ∧ value.toStr = some (originText page)
  site : headers.text "sec-fetch-site" = some "same-origin"

/-- The `Origin` header that is read is the serialised origin of an entry. -/
def CarriesListed (crate : UrlCrate) (config : Configuration.Config) (headers : HeaderMap) : Prop :=
  ∃ value, headers.get "origin" = some value ∧ ∃ entry ∈ config.server.allowedOrigins, ∃ url,
    crate.parse entry = some url ∧ value.toStr = some (originText url)

/-- The dashboard is let in, and nothing but what is listed. -/
structure GuardsOrigin (crate : UrlCrate) (config : Configuration.Config) (headers : HeaderMap) :
    Prop where
  dashboard : ∃ page, config.publicUrl crate = .ok page ∧ (FromPage page headers →
    validateOrigin config.server.allowedOrigins headers = .ok ())
  listed : headers.getAll "origin" ≠ [] →
    validateOrigin config.server.allowedOrigins headers = .ok () → CarriesListed crate config headers

/-- The request does not say that another site made it. -/
def HeaderMap.FromSite (headers : HeaderMap) : Prop :=
  ∀ site, headers.text "sec-fetch-site" = some site → site ∈ ["same-origin", "same-site", "none"]

/-- The origin of the dashboard is listed as it is serialised.  The `Origin`
header of a request from the site is a text, and the entry that it equals, if
any, is written as the origin of that entry is serialised. -/
structure Verbatim (crate : UrlCrate) (config : Configuration.Config) (headers : HeaderMap) :
    Prop where
  dashboard : ∃ page, config.publicUrl crate = .ok page ∧ (FromPage page headers →
    originText page ∈ config.server.allowedOrigins)
  visible : headers.FromSite → ∀ value, headers.get "origin" = some value →
    ∃ text, value.toStr = some text
  written : headers.FromSite → ∀ entry ∈ config.server.allowedOrigins,
    headers.text "origin" = some entry → ∀ url, crate.parse entry = some url →
      originText url = entry

/-- The serialised origin of a web URL is a URL of the same origin. -/
def StableOrigins (crate : UrlCrate) : Prop :=
  ∀ text url, crate.parse text = some url → isWeb url = true →
    ∃ again, crate.parse (originText url) = some again ∧ originText again = originText url

/-! ## The check -/

theorem validateOrigin_eq_ok_iff {allowedOrigins : List String} {headers : HeaderMap} :
    validateOrigin allowedOrigins headers = .ok () ↔
      headers.FromSite ∧ ∀ text, headers.text "origin" = some text → text ∈ allowedOrigins := by
  have site : (headers.text "sec-fetch-site").all (fun site =>
      ["same-origin", "same-site", "none"].contains site) = true ↔ headers.FromSite := by
    simp only [HeaderMap.FromSite, Option.all_eq_true, List.contains_iff_mem]
  have origin : (headers.text "origin").all (fun origin => allowedOrigins.contains origin) = true ↔
      ∀ text, headers.text "origin" = some text → text ∈ allowedOrigins := by
    simp only [Option.all_eq_true, List.contains_iff_mem]
  rw [← site, ← origin]
  unfold validateOrigin
  split
  · rename_i known
    split
    · rename_i listed
      exact ⟨fun _ => ⟨known, listed⟩, fun _ => rfl⟩
    · rename_i unlisted
      constructor
      · intro admitted
        cases admitted
      · rintro ⟨_, listed⟩
        exact absurd listed unlisted
  · rename_i unknown
    constructor
    · intro admitted
      cases admitted
    · rintro ⟨known, _⟩
      exact absurd known unknown

theorem FromPage.text {page : Url} {headers : HeaderMap} (sent : FromPage page headers) :
    headers.text "origin" = some (originText page) := by
  rcases sent.origin with ⟨value, only, text⟩
  unfold HeaderMap.text HeaderMap.get
  rw [only]
  exact text

/-- The page is let in exactly if its serialised origin is listed. -/
theorem FromPage.validateOrigin_iff {page : Url} {headers : HeaderMap} {allowedOrigins : List String}
    (sent : FromPage page headers) :
    validateOrigin allowedOrigins headers = .ok () ↔ originText page ∈ allowedOrigins := by
  rw [validateOrigin_eq_ok_iff]
  constructor
  · rintro ⟨_, origin⟩
    exact origin _ sent.text
  · intro listed
    constructor
    · intro site found
      rw [sent.site] at found
      rw [← Option.some.inj found]
      exact List.mem_cons_self
    · intro text found
      rw [sent.text] at found
      rw [← Option.some.inj found]
      exact listed

/-- The text of a header is that of the first header of the name. -/
theorem HeaderMap.text_eq_some_iff {headers : HeaderMap} {name text : String} :
    headers.text name = some text ↔
      ∃ value, headers.get name = some value ∧ value.toStr = some text :=
  Option.bind_eq_some_iff

theorem HeaderMap.exists_get {headers : HeaderMap} {name : String}
    (present : headers.getAll name ≠ []) : ∃ value, headers.get name = some value := by
  unfold HeaderMap.get
  cases values : headers.getAll name with
  | nil => exact absurd values present
  | cons value _ => exact ⟨value, rfl⟩

theorem HeaderMap.getAll_ne_nil {headers : HeaderMap} {name : String} {value : HeaderValue}
    (found : headers.get name = some value) : headers.getAll name ≠ [] := by
  intro absent
  unfold HeaderMap.get at found
  rw [absent] at found
  cases found

namespace Configuration.Config

variable {crate : UrlCrate} {config : Config}

/-- The public URL of a valid configuration is an origin. -/
theorem exists_publicUrl (valid : config.validate crate = .ok ()) :
    ∃ page, config.publicUrl crate = .ok page := by
  have server := (validate_eq_ok_iff.mp valid).1
  unfold checkServer at server
  cases parsed : config.publicUrl crate with
  | error error =>
      rw [parsed] at server
      cases server
  | ok page => exact ⟨page, rfl⟩

/-- Origins are normalised only if each of them is a URL of the web. -/
theorem isWeb_of_normalizedOrigins {entries normalized : List String}
    (passed : entries.mapM (normalizedOrigin crate) = .ok normalized) :
    ∀ entry ∈ entries, ∃ url, crate.parse entry = some url ∧ isWeb url = true := by
  induction entries generalizing normalized with
  | nil =>
      intro entry member
      cases member
  | cons first rest ih =>
      rw [List.mapM_cons] at passed
      cases head : normalizedOrigin crate first with
      | error error =>
          rw [head] at passed
          cases passed
      | ok text =>
          rw [head] at passed
          cases tail : rest.mapM (normalizedOrigin crate) with
          | error error =>
              rw [tail] at passed
              cases passed
          | ok texts =>
              rw [List.forall_mem_cons]
              refine ⟨?_, ih tail⟩
              unfold normalizedOrigin at head
              cases parsed : crate.parse first with
              | none =>
                  rw [parsed] at head
                  cases head
              | some url =>
                  refine ⟨url, rfl, ?_⟩
                  rw [parsed] at head
                  dsimp only at head
                  cases web : isWeb url with
                  | true => rfl
                  | false =>
                      rw [web] at head
                      cases head

/-- The entries of a valid configuration are URLs of the web. -/
theorem isWeb_of_listed (valid : config.validate crate = .ok ()) :
    ∀ entry ∈ config.server.allowedOrigins,
      ∃ url, crate.parse entry = some url ∧ isWeb url = true := by
  have server := (validate_eq_ok_iff.mp valid).1
  rcases exists_publicUrl valid with ⟨page, parsed⟩
  unfold checkServer at server
  rw [parsed] at server
  cases tls : config.checkTls with
  | error error =>
      rw [tls] at server
      cases server
  | ok _ =>
      rw [tls] at server
      cases passed : config.server.allowedOrigins.mapM (normalizedOrigin crate) with
      | error error =>
          rw [passed] at server
          cases server
      | ok normalized => exact isWeb_of_normalizedOrigins passed

end Configuration.Config

/-- A header that equals an entry carries the origin of some entry only if the
entry is written as it is serialised. -/
theorem CarriesListed.written {crate : UrlCrate} {config : Configuration.Config}
    {headers : HeaderMap} {entry : String} {url : Url} (stable : StableOrigins crate)
    (valid : config.validate crate = .ok ()) (carries : CarriesListed crate config headers)
    (text : headers.text "origin" = some entry) (parsed : crate.parse entry = some url) :
    originText url = entry := by
  rcases carries with ⟨value, found, listed, member, origin, parsed', serialized⟩
  rcases HeaderMap.text_eq_some_iff.mp text with ⟨value', found', read⟩
  obtain rfl := Option.some.inj (found.symm.trans found')
  have same : originText origin = entry := Option.some.inj (serialized.symm.trans read)
  rcases Configuration.Config.isWeb_of_listed valid listed member with ⟨origin', again, web⟩
  obtain rfl := Option.some.inj (parsed'.symm.trans again)
  rcases stable _ _ parsed' web with ⟨reparsed, back, kept⟩
  rw [same] at back kept
  obtain rfl := Option.some.inj (parsed.symm.trans back)
  exact kept

/-- A valid configuration guards the origin of a request exactly if the entries
that matter for the request are written as they are serialised, and the header
is a text. -/
theorem guardsOrigin_iff {crate : UrlCrate} {config : Configuration.Config}
    (stable : StableOrigins crate) (valid : config.validate crate = .ok ())
    (headers : HeaderMap) :
    GuardsOrigin crate config headers ↔ Verbatim crate config headers := by
  constructor
  · intro guards
    constructor
    · rcases guards.dashboard with ⟨page, found, admits⟩
      refine ⟨page, found, fun sent => ?_⟩
      exact sent.validateOrigin_iff.mp (admits sent)
    · -- a header that is no text is passed over
      intro site value found
      cases read : value.toStr with
      | some entry => exact ⟨entry, rfl⟩
      | none =>
          have unread : headers.text "origin" = none := by
            unfold HeaderMap.text
            rw [found]
            exact read
          have admitted : validateOrigin config.server.allowedOrigins headers = .ok () := by
            rw [validateOrigin_eq_ok_iff, unread]
            exact ⟨site, fun _ impossible => by cases impossible⟩
          rcases guards.listed (HeaderMap.getAll_ne_nil found) admitted with
            ⟨value', found', _, _, _, _, serialized⟩
          obtain rfl := Option.some.inj (found.symm.trans found')
          rw [read] at serialized
          cases serialized
    · intro site entry listed text url parsed
      rcases HeaderMap.text_eq_some_iff.mp text with ⟨value, found, _⟩
      have admitted : validateOrigin config.server.allowedOrigins headers = .ok () := by
        rw [validateOrigin_eq_ok_iff, text]
        refine ⟨site, fun other same => ?_⟩
        obtain rfl := Option.some.inj same
        exact listed
      exact (guards.listed (HeaderMap.getAll_ne_nil found) admitted).written stable valid text
        parsed
  · intro verbatim
    constructor
    · rcases verbatim.dashboard with ⟨page, found, written⟩
      refine ⟨page, found, fun sent => ?_⟩
      exact sent.validateOrigin_iff.mpr (written sent)
    · intro present admitted
      rcases validateOrigin_eq_ok_iff.mp admitted with ⟨site, known⟩
      rcases HeaderMap.exists_get present with ⟨value, found⟩
      rcases verbatim.visible site value found with ⟨entry, read⟩
      have text : headers.text "origin" = some entry :=
        HeaderMap.text_eq_some_iff.mpr ⟨value, found, read⟩
      have listed := known entry text
      rcases Configuration.Config.isWeb_of_listed valid entry listed with ⟨url, parsed, _⟩
      have same := verbatim.written site entry listed text url parsed
      exact ⟨value, found, entry, listed, url, parsed, read.trans (congrArg some same.symm)⟩

/-! ## Requests of the dashboard -/

/-- Visible characters can be sent. -/
theorem toStr_visible {text : String}
    (visible : ∀ c ∈ text.toList, 32 ≤ c.toNat ∧ c.toNat < 127) :
    HeaderValue.toStr (text.toList.map fun c => UInt8.ofNat c.toNat) = some text := by
  have bytes : ∀ c ∈ text.toList, (UInt8.ofNat c.toNat).toNat = c.toNat := by
    intro c member
    have bounds := visible c member
    simp only [UInt8.toNat_ofNat']
    omega
  have back : (text.toList.map fun c => UInt8.ofNat c.toNat).map
      (fun byte => Char.ofNat byte.toNat) = text.toList := by
    rw [List.map_map]
    conv_rhs => rw [← List.map_id text.toList]
    apply List.map_congr_left
    intro c member
    rw [Function.comp_apply, bytes c member, Char.ofNat_toNat]
    rfl
  unfold HeaderValue.toStr
  rw [back, String.ofList_toList, if_pos]
  rw [List.all_map, List.all_eq_true]
  intro c member
  have bounds := visible c member
  have low : (32 : UInt8) ≤ UInt8.ofNat c.toNat := by
    rw [UInt8.le_iff_toNat_le, bytes c member]
    exact bounds.1
  have high : UInt8.ofNat c.toNat < 127 := by
    rw [UInt8.lt_iff_toNat_lt, bytes c member]
    exact bounds.2
  simp [low, high]

namespace Sample

/-- What the browser sends for the page of the default configuration. -/
def pageHeaders : HeaderMap :=
  [("sec-fetch-site", "same-origin".toList.map fun c => UInt8.ofNat c.toNat),
    ("origin", "http://127.0.0.1:8088".toList.map fun c => UInt8.ofNat c.toNat)]

theorem pageHeaders_fromPage : FromPage Configuration.Config.localUrl pageHeaders where
  origin := by
    refine ⟨_, rfl, toStr_visible ?_⟩
    rw [String.toList_ofList]
    refine List.all_iff_forall_prop.mp ?_
    decide
  site := by
    have first : pageHeaders.get "sec-fetch-site" =
        some ("same-origin".toList.map fun c => UInt8.ofNat c.toNat) := rfl
    unfold HeaderMap.text
    rw [first]
    apply toStr_visible
    rw [String.toList_ofList]
    refine List.all_iff_forall_prop.mp ?_
    decide

/-- The default origin with the slash of an empty path. -/
def slashed : Configuration.Config :=
  { server := { allowedOrigins := ["http://127.0.0.1:8088/"] } }

end Sample

/-- A valid configuration whose origin is written with a slash locks out its own
dashboard. -/
theorem not_guardsOrigin_of_slashed :
    ¬ ∀ (config : Configuration.Config) (headers : HeaderMap),
      config.validate Sample.tableCrate = .ok () →
      GuardsOrigin Sample.tableCrate config headers := by
  intro always
  have valid : Sample.slashed.validate Sample.tableCrate = .ok () :=
    Configuration.Config.local_validate Sample.tableCrate_parsesDefaults rfl
  rcases (always Sample.slashed Sample.pageHeaders valid).dashboard with ⟨page, parsed, admits⟩
  have same : Sample.slashed.publicUrl Sample.tableCrate = .ok Configuration.Config.localUrl :=
    Configuration.Config.local_publicUrl Sample.tableCrate_parsesDefaults _
  obtain rfl := Except.ok.inj (parsed.symm.trans same)
  have listed := Sample.pageHeaders_fromPage.validateOrigin_iff.mp (admits Sample.pageHeaders_fromPage)
  rw [Configuration.Config.originText_localUrl] at listed
  simp [Sample.slashed] at listed

theorem Sample.tableCrate_stableOrigins : StableOrigins Sample.tableCrate := by
  have every : ∀ entry ∈ Sample.urlTable, isWeb entry.2 = true →
      (Sample.tableCrate.parse (originText entry.2)).any (fun again =>
        originText again = originText entry.2) = true := by
    decide +kernel
  intro text url parsed web
  have found := every _ (Association.mem_of_lookup parsed) web
  rw [Option.any_eq_true] at found
  rcases found with ⟨again, reparsed, same⟩
  exact ⟨again, reparsed, of_decide_eq_true same⟩

/-- The default configuration lets its dashboard in. -/
theorem guardsOrigin_iff_of_default : GuardsOrigin Sample.tableCrate {} Sample.pageHeaders := by
  have parses := Sample.tableCrate_parsesDefaults
  have entries : ({} : Configuration.Config).server.allowedOrigins = ["http://127.0.0.1:8088"] := rfl
  refine (guardsOrigin_iff Sample.tableCrate_stableOrigins
    (Configuration.Config.default_validate parses) _).mpr ?_
  constructor
  · refine ⟨_, Configuration.Config.local_publicUrl parses _, fun _ => ?_⟩
    rw [Configuration.Config.originText_localUrl]
    exact List.mem_cons_self
  · intro _ value found
    rcases HeaderMap.text_eq_some_iff.mp Sample.pageHeaders_fromPage.text with ⟨value', found', read⟩
    obtain rfl := Option.some.inj (found.symm.trans found')
    exact ⟨_, read⟩
  · intro _ entry listed _ url parsed
    rw [entries, List.mem_singleton] at listed
    subst listed
    obtain rfl := Option.some.inj (parsed.symm.trans parses.publicBaseUrl)
    rfl

end XanhTab
