import XanhTab.Remote.Document
import XanhTab.Text.WebUrl

/-!
# The URLs of the public configuration

The daemon checks the URL that a text is parsed to, and the schema the text.  A
text names a page that both allow, or neither takes it.  The schema does not take
it if it is written loosely, and the daemon does not if its host or port is none.
-/

namespace XanhTab

open XanhTab.Configuration

namespace Remote

open Text

/-! ## The schema -/

/-- The rest of the regular expression, `[^/?#@]+(?:/|$)`. -/
def matchesAuthority (text : List Char) : Bool :=
  let authority := text.takeWhile fun c => !(['/', '?', '#', '@'].contains c)
  authority ≠ [] && ((text.drop authority.length).head?.all fun c => c = '/')

/-- The regular expression `^https?://[^/?#@]+(?:/|$)`. -/
def matchesWeb (text : List Char) : Bool :=
  ["http://".toList, "https://".toList].any fun start =>
    start.isPrefixOf text && matchesAuthority (text.drop start.length)

/-- The characters of URIs: visible ones of ASCII, but no quotation mark, angle
bracket, backslash, caret, grave accent, brace or bar. -/
def isUriChar (c : Char) : Bool :=
  32 < c.toNat && c.toNat < 127 && !([34, 60, 62, 92, 94, 96, 123, 124, 125].contains c.toNat)

/-- What is used of the syntax of URIs. -/
structure UriSyntax (isUri : String → Bool) : Prop where
  characters : ∀ text, isUri text = true → ∀ c ∈ text.toList, isUriChar c = true
  home : isUri "xanhtab://home" = true

/-- The schema takes the text as a URL. -/
def SchemaUrl (isUri : String → Bool) (text : String) : Prop :=
  isUri text = true ∧ (text = "xanhtab://home" ∨ matchesWeb text.toList = true)

/-! ## The daemon -/

/-- The spellings of the home page after the scheme, whose credentials and port may
be there and empty. -/
def homeSpellings : List (List Char) :=
  ["//home".toList, "//home:".toList, "//@home".toList, "//@home:".toList, "//:@home".toList,
    "//:@home:".toList]

/-- A scanned text of the home page. -/
def isHome (text : List Char) : Bool :=
  (splitOnce ':' text).any fun (scheme, rest) =>
    lowercase scheme = "xanhtab".toList && homeSpellings.contains rest

/-- How the `url` crate reads texts, given its parser of hosts. -/
structure ReadsUrls (crate : UrlCrate) (parseHost : List Char → Option String) : Prop where
  /-- Nothing after the port of a URL of the web is refused. -/
  web : ∀ text pieces, webUrl (scanned text.toList) = some pieces →
    ((crate.parse text).isSome = true ↔
      pieces.host ≠ [] ∧ (parseHost pieces.host).isSome = true ∧ pieces.hasPort = true)
  components : ∀ text pieces url, webUrl (scanned text.toList) = some pieces →
    crate.parse text = some url → url.scheme = String.ofList (lowercase pieces.scheme) ∧
      url.host = parseHost pieces.host ∧
      (url.username = "" ∧ url.password = none ↔ pieces.Anonymous)
  scheme : ∀ text url, crate.parse text = some url → url.scheme ∈ ["http", "https"] →
    (webUrl (scanned text.toList)).isSome = true
  home : ∀ text, (∃ url, crate.parse text = some url ∧ crate.display url = "xanhtab://home") ↔
    isHome (scanned text.toList) = true

/-- The daemon takes the text as a URL. -/
def DaemonUrl (crate : UrlCrate) (text : String) : Prop :=
  ∃ url, crate.parse text = some url ∧ acceptsUrl crate url = true

/-! ## Forms of a text -/

/-- The text names the home page, or a page of the web without credentials. -/
def UrlText (text : String) : Prop :=
  isHome (scanned text.toList) = true ∨
    ∃ pieces, webUrl (scanned text.toList) = some pieces ∧ pieces.authority ≠ [] ∧ pieces.Anonymous

/-- The text is no URI, or the home page is not spelled as usual, or the scheme has
upper case, the authority does not follow two slashes or has an `@`, or something
else than a path follows it. -/
def WrittenLoosely (isUri : String → Bool) (text : String) : Prop :=
  isUri text = false ∨ (isHome (scanned text.toList) = true ∧ text ≠ "xanhtab://home") ∨
    ∃ pieces, webUrl (scanned text.toList) = some pieces ∧ ¬ pieces.Written

/-- The host of the text is empty or refused by the parser of hosts, or its port is
not a number of 16 bits. -/
def Unreachable (parseHost : List Char → Option String) (text : String) : Prop :=
  ∃ pieces, webUrl (scanned text.toList) = some pieces ∧
    (pieces.host = [] ∨ parseHost pieces.host = none ∨ pieces.hasPort = false)

/-! ## What the daemon takes -/

theorem webUrl_of_isHome {text : List Char} (home : isHome text = true) : webUrl text = none := by
  unfold isHome at home
  rw [Option.any_eq_true] at home
  rcases home with ⟨⟨scheme, rest⟩, found, spelled⟩
  have own : lowercase scheme = "xanhtab".toList := by
    rw [Bool.and_eq_true, decide_eq_true_eq] at spelled
    exact spelled.1
  unfold webUrl
  rw [found, Option.bind_some]
  dsimp only
  rw [own, if_neg (by decide)]

theorem lowercase_scheme {text : List Char} {pieces : WebUrl}
    (found : webUrl text = some pieces) :
    String.ofList (lowercase pieces.scheme) ∈ ["http", "https"] := by
  rcases webUrl_eq_some_iff.mp found with ⟨_, _, _, known, _⟩
  simp only [List.mem_cons, List.not_mem_nil, or_false] at known
  rcases known with same | same
  · rw [same, String.ofList_toList]
    exact List.mem_cons_self
  · rw [same, String.ofList_toList]
    exact List.mem_cons_of_mem _ List.mem_cons_self

theorem acceptsUrl_iff {crate : UrlCrate} {url : Url} :
    acceptsUrl crate url = true ↔ crate.display url = "xanhtab://home" ∨
      (url.scheme ∈ ["http", "https"] ∧ url.host.isSome = true) ∧
        url.username = "" ∧ url.password = none := by
  simp [acceptsUrl, and_assoc]

/-- The daemon takes what names a page, unless there is no such host or port. -/
theorem daemonUrl_iff {crate : UrlCrate} {parseHost : List Char → Option String} {text : String}
    (reads : ReadsUrls crate parseHost) :
    DaemonUrl crate text ↔ UrlText text ∧ ¬ Unreachable parseHost text := by
  constructor
  · rintro ⟨url, parsed, accepted⟩
    rcases acceptsUrl_iff.mp accepted with home | ⟨⟨scheme, _⟩, anonymous⟩
    · have spelled := (reads.home text).mp ⟨url, parsed, home⟩
      refine ⟨Or.inl spelled, ?_⟩
      rintro ⟨pieces, found, _⟩
      rw [webUrl_of_isHome spelled] at found
      cases found
    · rcases Option.isSome_iff_exists.mp (reads.scheme text url parsed scheme) with ⟨pieces, found⟩
      have some : (crate.parse text).isSome = true := by
        rw [parsed]
        rfl
      rcases (reads.web text pieces found).mp some with ⟨host, known, port⟩
      have components := (reads.components text pieces url found parsed).2.2
      refine ⟨Or.inr ⟨pieces, found, WebUrl.authority_ne_nil host, components.mp anonymous⟩, ?_⟩
      rintro ⟨other, found', refused⟩
      obtain rfl := Option.some.inj (found.symm.trans found')
      rcases refused with empty | unknown | none
      · exact host empty
      · rw [unknown] at known
        cases known
      · rw [port] at none
        cases none
  · rintro ⟨home | ⟨pieces, found, _, anonymous⟩, reachable⟩
    · rcases (reads.home text).mpr home with ⟨url, parsed, shown⟩
      exact ⟨url, parsed, acceptsUrl_iff.mpr (Or.inl shown)⟩
    · have host : pieces.host ≠ [] := fun empty => reachable ⟨pieces, found, Or.inl empty⟩
      have known : (parseHost pieces.host).isSome = true :=
        Option.isSome_iff_ne_none.mpr fun unknown =>
          reachable ⟨pieces, found, Or.inr (Or.inl unknown)⟩
      have port : pieces.hasPort = true :=
        eq_true_of_ne_false fun none => reachable ⟨pieces, found, Or.inr (Or.inr none)⟩
      have some := (reads.web text pieces found).mpr ⟨host, known, port⟩
      rcases Option.isSome_iff_exists.mp some with ⟨url, parsed⟩
      rcases reads.components text pieces url found parsed with ⟨scheme, same, credentials⟩
      refine ⟨url, parsed, acceptsUrl_iff.mpr (Or.inr ⟨⟨?_, ?_⟩, credentials.mpr anonymous⟩)⟩
      · rw [scheme]
        exact lowercase_scheme found
      · rw [same]
        exact known

/-! ## What the schema takes -/

theorem isBlank_of_isUriChar {c : Char} (allowed : isUriChar c = true) : isBlank c = false := by
  simp only [isUriChar, Bool.and_eq_true, decide_eq_true_eq] at allowed
  simp only [isBlank, decide_eq_false_iff_not]
  omega

theorem ne_backslash_of_isUriChar {c : Char} (allowed : isUriChar c = true) : c ≠ '\\' := by
  rintro rfl
  revert allowed
  decide

/-- A text that the regular expression matches, with what follows the start. -/
theorem matchesWeb_iff {text : List Char} :
    matchesWeb text = true ↔ ∃ scheme ∈ ["http".toList, "https".toList], ∃ rest : List Char,
      text = scheme ++ ':' :: '/' :: '/' :: rest ∧ matchesAuthority rest = true := by
  have starts : ["http://".toList, "https://".toList] =
      ["http".toList, "https".toList].map fun scheme => scheme ++ "://".toList := by
    decide
  have start (scheme rest : List Char) :
      scheme ++ ':' :: '/' :: '/' :: rest = scheme ++ "://".toList ++ rest := by
    simp
  unfold matchesWeb
  rw [starts, List.any_map, List.any_eq_true]
  refine exists_congr fun scheme => and_congr_right fun _ => ?_
  rw [Function.comp_apply, Bool.and_eq_true, List.isPrefixOf_iff_prefix]
  constructor
  · rintro ⟨⟨rest, rfl⟩, accepted⟩
    rw [List.drop_left] at accepted
    exact ⟨rest, (start scheme rest).symm, accepted⟩
  · rintro ⟨rest, rfl, accepted⟩
    rw [start, List.drop_left]
    exact ⟨⟨rest, rfl⟩, accepted⟩

theorem matchesAuthority_iff {rest : List Char} :
    matchesAuthority rest = true ↔
      (rest.takeWhile fun c => !(['/', '?', '#', '@'].contains c)) ≠ [] ∧
      ∀ c, (rest.dropWhile fun c => !(['/', '?', '#', '@'].contains c)).head? = some c →
        c = '/' := by
  have after (p : Char → Bool) : rest.drop (rest.takeWhile p).length = rest.dropWhile p := by
    have dropped := @List.drop_left _ (rest.takeWhile p) (rest.dropWhile p)
    rw [List.takeWhile_append_dropWhile] at dropped
    exact dropped
  unfold matchesAuthority
  dsimp only
  rw [Bool.and_eq_true, decide_eq_true_eq, after, Option.all_eq_true]
  simp only [decide_eq_true_eq]

/-- The two notions of an authority differ in two characters. -/
theorem unlisted_iff {c : Char} (plain : c ≠ '\\') :
    (!(['/', '?', '#', '@'].contains c)) = true ↔ inAuthority c = true ∧ c ≠ '@' := by
  simp [inAuthority, isSlash, plain, and_assoc]

/-- Without backslashes the authority ends where it ends for the regular expression,
unless it has an `@`. -/
theorem authority_iff {rest : List Char} (plain : ∀ c ∈ rest, c ≠ '\\') :
    (∀ c, (rest.dropWhile fun c => !(['/', '?', '#', '@'].contains c)).head? = some c → c = '/') ↔
      '@' ∉ rest.takeWhile inAuthority ∧
        ∀ c, (rest.dropWhile inAuthority).head? = some c → c = '/' := by
  induction rest with
  | nil => simp
  | cons first rest ih =>
      rcases List.forall_mem_cons.mp plain with ⟨apart, plain⟩
      by_cases start : first = '@'
      · subst first
        simp [inAuthority, isSlash]
      by_cases inside : inAuthority first = true
      · have unlisted := (unlisted_iff apart).mpr ⟨inside, start⟩
        rw [List.dropWhile_cons, if_pos unlisted, ih plain, List.takeWhile_cons, if_pos inside,
          List.dropWhile_cons, if_pos inside, List.mem_cons, not_or, and_iff_right (Ne.symm start)]
      · have listed := fun unlisted => inside ((unlisted_iff apart).mp unlisted).1
        rw [List.dropWhile_cons, if_neg listed, List.takeWhile_cons, if_neg inside,
          List.dropWhile_cons, if_neg inside]
        simp

/-- The authority that the regular expression asks for begins after two slashes. -/
theorem matchesAuthority_iff_written {rest : List Char} (plain : ∀ c ∈ rest, c ≠ '\\') :
    matchesAuthority rest = true ↔ (rest.takeWhile isSlash = [] ∧ rest.takeWhile inAuthority ≠ []) ∧
      '@' ∉ rest.takeWhile inAuthority ∧
        ∀ c, (rest.dropWhile inAuthority).head? = some c → c = '/' := by
  rw [matchesAuthority_iff, authority_iff plain]
  refine and_congr_left fun ends => ?_
  cases rest with
  | nil => simp
  | cons first rest =>
      have apart := plain first List.mem_cons_self
      by_cases inside : inAuthority first = true
      · have start : first ≠ '@' := by
          rintro rfl
          exact ends.1 (by simp [inside])
        have slash : ¬ isSlash first = true := by
          intro slash
          simp [inAuthority, slash] at inside
        rw [List.takeWhile_cons, if_pos ((unlisted_iff apart).mpr ⟨inside, start⟩),
          List.takeWhile_cons, if_neg slash, List.takeWhile_cons, if_pos inside]
        simp
      · have listed := fun unlisted => inside ((unlisted_iff apart).mp unlisted).1
        rw [List.takeWhile_cons, if_neg listed, List.takeWhile_cons, List.takeWhile_cons,
          if_neg inside]
        simp

/-- The regular expression matches what has an authority and is written plainly. -/
theorem matchesWeb_iff_written {text : List Char} (plain : ∀ c ∈ text, c ≠ '\\') :
    matchesWeb text = true ↔
      ∃ pieces, webUrl text = some pieces ∧ pieces.authority ≠ [] ∧ pieces.Written := by
  rw [matchesWeb_iff]
  constructor
  · rintro ⟨scheme, known, rest, rfl, matched⟩
    have plain' : ∀ c ∈ rest, c ≠ '\\' := by
      intro c member
      exact plain c (by simp [member])
    rcases (matchesAuthority_iff_written plain').mp matched with
      ⟨⟨slashes, authority⟩, credentials, tail⟩
    have own : rest.dropWhile isSlash = rest := by
      have whole := List.takeWhile_append_dropWhile (p := isSlash) (l := rest)
      rw [slashes] at whole
      exact whole
    have lower : lowercase scheme = scheme ∧ ':' ∉ scheme := by
      simp only [List.mem_cons, List.not_mem_nil, or_false] at known
      rcases known with rfl | rfl
      · decide
      · decide
    refine ⟨⟨scheme, "//".toList, rest.takeWhile inAuthority, rest.dropWhile inAuthority⟩,
      webUrl_eq_some_iff.mpr ⟨'/' :: '/' :: rest, rfl, lower.2, ?_, ?_, ?_, ?_⟩, authority,
      ⟨lower.1, rfl, credentials, tail⟩⟩
    · rw [lower.1]
      exact known
    · simp [isSlash, slashes]
    · simp [isSlash, own]
    · simp [isSlash, own]
  · rintro ⟨pieces, found, present, written⟩
    rcases webUrl_eq_some_iff.mp found with ⟨after, rfl, _, known, slashes, authority, tail⟩
    have whole : after = '/' :: '/' :: after.dropWhile isSlash := by
      have whole := List.takeWhile_append_dropWhile (p := isSlash) (l := after)
      rw [← slashes, written.slashes] at whole
      exact whole.symm
    rw [written.scheme] at known
    refine ⟨pieces.scheme, known, after.dropWhile isSlash, by rw [← whole], ?_⟩
    have plain' : ∀ c ∈ after.dropWhile isSlash, c ≠ '\\' := by
      intro c member
      refine plain c (List.mem_append_right _ (List.mem_cons_of_mem _ ?_))
      exact (List.dropWhile_suffix isSlash).subset member
    refine (matchesAuthority_iff_written plain').mpr ⟨⟨?_, authority ▸ present⟩,
      authority ▸ written.authority, tail ▸ written.tail⟩
    cases rest : after.dropWhile isSlash with
    | nil => rfl
    | cons first others =>
        have stops := List.head?_dropWhile_not isSlash after
        rw [rest] at stops
        rw [List.takeWhile_cons, if_neg]
        rw [stops]
        simp

theorem anonymous_of_no_at {pieces : WebUrl} (none : '@' ∉ pieces.authority) :
    pieces.Anonymous := by
  left
  unfold WebUrl.credentials
  cases split : rsplitOnce '@' pieces.authority with
  | none => rfl
  | some parts =>
      rcases parts with ⟨front, back⟩
      refine absurd ?_ none
      rw [(rsplitOnce_eq_some_iff.mp split).1]
      exact List.mem_append_right _ List.mem_cons_self

/-- The schema takes what names a page, unless it is written loosely. -/
theorem schemaUrl_iff {isUri : String → Bool} {text : String} (uris : UriSyntax isUri) :
    SchemaUrl isUri text ↔ UrlText text ∧ ¬ WrittenLoosely isUri text := by
  have clean (uri : isUri text = true) : scanned text.toList = text.toList :=
    scanned_of_visible fun c member => isBlank_of_isUriChar (uris.characters text uri c member)
  have plain (uri : isUri text = true) : ∀ c ∈ text.toList, c ≠ '\\' :=
    fun c member => ne_backslash_of_isUriChar (uris.characters text uri c member)
  constructor
  · rintro ⟨uri, rfl | matched⟩
    · have home : isHome (scanned "xanhtab://home".toList) = true := by
        rw [clean uri]
        decide
      refine ⟨Or.inl home, ?_⟩
      rintro (refused | ⟨_, other⟩ | ⟨pieces, found, _⟩)
      · rw [uri] at refused
        cases refused
      · exact other rfl
      · rw [webUrl_of_isHome home] at found
        cases found
    · rcases (matchesWeb_iff_written (plain uri)).mp matched with
        ⟨pieces, found, authority, written⟩
      rw [← clean uri] at found
      refine ⟨Or.inr ⟨pieces, found, authority, anonymous_of_no_at written.authority⟩, ?_⟩
      rintro (refused | ⟨home, _⟩ | ⟨other, found', loose⟩)
      · rw [uri] at refused
        cases refused
      · rw [webUrl_of_isHome home] at found
        cases found
      · obtain rfl := Option.some.inj (found.symm.trans found')
        exact loose written
  · rintro ⟨named, strict⟩
    have uri : isUri text = true := eq_true_of_ne_false fun refused => strict (Or.inl refused)
    refine ⟨uri, ?_⟩
    rcases named with home | ⟨pieces, found, authority, _⟩
    · left
      by_contra other
      exact strict (Or.inr (Or.inl ⟨home, other⟩))
    · right
      refine (matchesWeb_iff_written (plain uri)).mpr ⟨pieces, ?_, authority, ?_⟩
      · rw [← clean uri]
        exact found
      · by_contra loose
        exact strict (Or.inr (Or.inr ⟨pieces, found, loose⟩))

end Remote

end XanhTab
