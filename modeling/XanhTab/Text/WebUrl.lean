import XanhTab.Text.Basic
import XanhTab.Text.Numeral

/-!
# The text of a URL

How the URL standard cuts up the text of a URL of the web, up to the host, which
has a parser of its own.  What stands between the scheme and the authority may be
any run of slashes, and the authority may have credentials that are empty.
-/

namespace XanhTab.Text

open Numeral

/-! ## Pieces -/

/-- A control character of ASCII or a space. -/
def isBlank (c : Char) : Bool :=
  c.toNat ≤ 32

/-- A tab or an end of a line. -/
def isBreak (c : Char) : Bool :=
  c = '\t' || c = '\n' || c = '\r'

/-- The text as it is scanned: nothing blank at its ends, and no breaks. -/
def scanned (text : List Char) : List Char :=
  ((text.dropWhile isBlank).rdropWhile isBlank).filter fun c => !isBreak c

def isSlash (c : Char) : Bool :=
  c = '/' || c = '\\'

def inAuthority (c : Char) : Bool :=
  !(isSlash c || c = '?' || c = '#')

/-- A URL of the web. -/
structure WebUrl where
  /-- The scheme as it is written. -/
  scheme : List Char
  slashes : List Char
  authority : List Char
  /-- The path, the query and the fragment. -/
  tail : List Char
  deriving DecidableEq, Repr

/-- The pieces of a scanned text whose scheme is one of the web. -/
def webUrl (text : List Char) : Option WebUrl :=
  (splitOnce ':' text).bind fun (scheme, rest) =>
    if lowercase scheme ∈ ["http".toList, "https".toList] then
      some
        { scheme
          slashes := rest.takeWhile isSlash
          authority := (rest.dropWhile isSlash).takeWhile inAuthority
          tail := (rest.dropWhile isSlash).dropWhile inAuthority }
    else none

/-- The host that the text begins with: all before a colon outside of brackets. -/
def hostPrefix : Bool → List Char → List Char
  | _, [] => []
  | bracketed, c :: rest =>
      if c = ':' ∧ bracketed = false then []
      else c :: hostPrefix (c = '[' || (bracketed && c ≠ ']')) rest

namespace WebUrl

variable (url : WebUrl)

/-- What stands before the last `@`. -/
def credentials : List Char :=
  ((rsplitOnce '@' url.authority).map Prod.fst).getD []

def hostAndPort : List Char :=
  ((rsplitOnce '@' url.authority).map Prod.snd).getD url.authority

def host : List Char :=
  hostPrefix false url.hostAndPort

/-- No port, or a colon and digits, which may be missing, of a `u16`. -/
def hasPort : Bool :=
  match url.hostAndPort.drop url.host.length with
  | [] => true
  | _ :: digits => (readFrom 10 0 digits).any (· < 2 ^ 16)

/-- The credentials are empty. -/
def Anonymous : Prop :=
  url.credentials = [] ∨ url.credentials = [':']

instance : Decidable url.Anonymous :=
  inferInstanceAs (Decidable (_ ∨ _))

/-- Nothing is left to the parser of what the pieces look like. -/
structure Written : Prop where
  scheme : lowercase url.scheme = url.scheme
  slashes : url.slashes = "//".toList
  authority : '@' ∉ url.authority
  tail : ∀ c, url.tail.head? = some c → c = '/'

end WebUrl

/-! ## Cutting up a text -/

theorem isBlank_of_isBreak {c : Char} (ends : isBreak c = true) : isBlank c = true := by
  simp only [isBreak, Bool.or_eq_true, decide_eq_true_eq] at ends
  rcases ends with (rfl | rfl) | rfl
  · rfl
  · rfl
  · rfl

/-- A text without blanks is scanned as it is. -/
theorem scanned_of_visible {text : List Char} (visible : ∀ c ∈ text, isBlank c = false) :
    scanned text = text := by
  have front : text.dropWhile isBlank = text := by
    cases text with
    | nil => rfl
    | cons c rest =>
        rw [List.dropWhile_cons, if_neg]
        rw [visible c List.mem_cons_self]
        simp
  have back : text.rdropWhile isBlank = text := by
    rw [List.rdropWhile_eq_self_iff]
    intro nonempty blank
    rw [visible _ (List.getLast_mem nonempty)] at blank
    cases blank
  unfold scanned
  rw [front, back, List.filter_eq_self]
  intro c member
  cases ends : isBreak c with
  | false => rfl
  | true =>
      have blank := isBlank_of_isBreak ends
      rw [visible c member] at blank
      cases blank

/-- The pieces make up the text. -/
theorem webUrl_eq_some_iff {text : List Char} {url : WebUrl} :
    webUrl text = some url ↔ ∃ rest, text = url.scheme ++ ':' :: rest ∧ ':' ∉ url.scheme ∧
      lowercase url.scheme ∈ ["http".toList, "https".toList] ∧
      url.slashes = rest.takeWhile isSlash ∧
      url.authority = (rest.dropWhile isSlash).takeWhile inAuthority ∧
      url.tail = (rest.dropWhile isSlash).dropWhile inAuthority := by
  unfold webUrl
  rw [Option.bind_eq_some_iff]
  constructor
  · rintro ⟨⟨scheme, rest⟩, found, pieces⟩
    rcases Option.ite_none_right_eq_some.mp pieces with ⟨known, same⟩
    cases same
    rcases splitOnce_eq_some_iff.mp found with ⟨equal, absent⟩
    exact ⟨rest, equal, absent, known, rfl, rfl, rfl⟩
  · rintro ⟨rest, equal, absent, known, slashes, authority, tail⟩
    refine ⟨(url.scheme, rest), splitOnce_eq_some_iff.mpr ⟨equal, absent⟩, ?_⟩
    dsimp only
    rw [if_pos known, ← slashes, ← authority, ← tail]

/-- There is no host without an authority. -/
theorem WebUrl.authority_ne_nil {url : WebUrl} (host : url.host ≠ []) : url.authority ≠ [] := by
  intro empty
  refine host ?_
  unfold WebUrl.host WebUrl.hostAndPort
  rw [empty]
  rfl

end XanhTab.Text
