import XanhTab.Blocklist.Exact

/-!
# The strict validator

`validate_hosts_file` reads a hosts file with a loop of its own.  It accepts a
file only if the compiler keeps every token of it, and what it rejects has a
token that the compiler drops or an address that stands alone.
-/

namespace XanhTab

open Text Reader

namespace Blocklist

/-! ## The loop -/

/-- The domains of the candidates, unless one of them is none. -/
def normalizeAll (error : String) : List (List Char) → Except String (List (List Char))
  | [] => .ok []
  | candidate :: rest =>
      match normalizeDomain candidate with
      | none => .error error
      | some domain => (normalizeAll error rest).map (domain :: ·)

/-- The domains of the line with this number. -/
def validateLine (path : String) (number : Nat) (line : List Char) :
    Except String (List (List Char)) :=
  let content := trim (before '#' line)
  if content = [] then .ok []
  else
    let candidates := candidates (splitWhitespace content)
    if candidates = [] then
      .error (path ++ ":" ++ toString number ++ " does not contain a hostname")
    else normalizeAll (path ++ ":" ++ toString number ++ " contains an invalid hostname") candidates

/-- The lines from this number on, inserted into a `BTreeSet`. -/
def validateLines (path : String) (number : Nat) (domains : Finset (List Char)) :
    List (List Char) → Except String (Finset (List Char))
  | [] => .ok domains
  | line :: rest =>
      (validateLine path number line).bind fun found =>
        validateLines path (number + 1) (domains ∪ found.toFinset) rest

/-- `validate_hosts_file`. -/
def validateHostsFile (path : String) : HostsFile → Except String Nat
  | .missing => .error ("failed to read " ++ path)
  | .unreadable error => .error error
  | .readable text => (validateLines path 1 ∅ (lines text)).map Finset.card

/-! ## Lines -/

/-- The compiler keeps every token of the line. -/
def Kept (line : List Char) : Prop :=
  ∀ token ∈ tokens line, (normalizeDomain token).isSome

/-- The line has an address and nothing else. -/
def Bare (line : List Char) : Prop :=
  ∃ address, splitWhitespace (before '#' line) = [address] ∧ (parseIpAddr address).isSome

theorem normalizeAll_eq_ok {error : String} {candidates found : List (List Char)}
    (normalized : normalizeAll error candidates = .ok found) :
    found = candidates.filterMap normalizeDomain ∧
      ∀ candidate ∈ candidates, (normalizeDomain candidate).isSome := by
  induction candidates generalizing found with
  | nil =>
      cases normalized
      exact ⟨rfl, fun candidate member => absurd member List.not_mem_nil⟩
  | cons candidate rest ih =>
      unfold normalizeAll at normalized
      cases normal : normalizeDomain candidate with
      | none =>
          rw [normal] at normalized
          cases normalized
      | some domain =>
          rw [normal] at normalized
          cases remaining : normalizeAll error rest with
          | error _ =>
              rw [remaining] at normalized
              cases normalized
          | ok others =>
              rw [remaining] at normalized
              cases normalized
              rcases ih remaining with ⟨equal, kept⟩
              constructor
              · rw [List.filterMap_cons_some normal, equal]
              · intro other member
                rcases List.mem_cons.mp member with rfl | later
                · rw [normal]
                  rfl
                · exact kept other later

theorem normalizeAll_eq_error {error reason : String} {candidates : List (List Char)}
    (rejected : normalizeAll error candidates = .error reason) :
    ∃ candidate ∈ candidates, normalizeDomain candidate = none := by
  induction candidates with
  | nil => cases rejected
  | cons candidate rest ih =>
      unfold normalizeAll at rejected
      cases normal : normalizeDomain candidate with
      | none => exact ⟨candidate, List.mem_cons_self, normal⟩
      | some domain =>
          rw [normal] at rejected
          cases remaining : normalizeAll error rest with
          | error other =>
              rw [remaining] at rejected
              cases rejected
              rcases ih remaining with ⟨dropped, member, none⟩
              exact ⟨dropped, List.mem_cons_of_mem _ member, none⟩
          | ok others =>
              rw [remaining] at rejected
              cases rejected

/-- No candidates are left of no parts, or of an address alone. -/
theorem candidates_eq_nil {parts : List (List Char)} (none : candidates parts = []) :
    parts = [] ∨ ∃ address, parts = [address] ∧ (parseIpAddr address).isSome := by
  unfold candidates at none
  cases parts with
  | nil => exact Or.inl rfl
  | cons first rest =>
      by_cases address : (parseIpAddr first).isSome = true
      · rw [if_pos (by simpa using address)] at none
        rw [List.tail_cons] at none
        subst rest
        exact Or.inr ⟨first, rfl, address⟩
      · rw [if_neg (by simpa using address)] at none
        cases none

theorem validateLine_eq_ok {path : String} {number : Nat} {line : List Char}
    {found : List (List Char)} (validated : validateLine path number line = .ok found) :
    found = (tokens line).filterMap normalizeDomain ∧ Kept line := by
  unfold validateLine at validated
  dsimp only at validated
  rw [splitWhitespace_trim] at validated
  by_cases empty : trim (before '#' line) = []
  · rw [if_pos empty] at validated
    cases validated
    have none : tokens line = [] := by
      unfold tokens
      rw [← splitWhitespace_trim, empty]
      rfl
    rw [Kept, none]
    exact ⟨rfl, fun token member => absurd member List.not_mem_nil⟩
  · rw [if_neg empty] at validated
    split at validated
    · cases validated
    · exact normalizeAll_eq_ok validated

theorem validateLine_eq_error {path error : String} {number : Nat} {line : List Char}
    (rejected : validateLine path number line = .error error) :
    (∃ token ∈ tokens line, normalizeDomain token = none) ∨ Bare line := by
  unfold validateLine at rejected
  dsimp only at rejected
  by_cases empty : trim (before '#' line) = []
  · rw [if_pos empty] at rejected
    cases rejected
  · rw [if_neg empty] at rejected
    split at rejected
    · rename_i none
      rcases candidates_eq_nil none with noParts | ⟨address, alone, parsed⟩
      · rw [splitWhitespace_trim] at noParts
        exact absurd (trim_eq_nil_of_splitWhitespace_eq_nil noParts) empty
      · rw [splitWhitespace_trim] at alone
        exact Or.inr ⟨address, alone, parsed⟩
    · rw [splitWhitespace_trim] at rejected
      exact Or.inl (normalizeAll_eq_error rejected)

/-! ## Files -/

theorem validateLines_eq_ok {path : String} {number : Nat} {lines : List (List Char)}
    {domains result : Finset (List Char)}
    (validated : validateLines path number domains lines = .ok result) :
    result = domains ∪ (lines.flatMap fun line => (tokens line).filterMap normalizeDomain).toFinset ∧
      ∀ line ∈ lines, Kept line := by
  induction lines generalizing number domains with
  | nil =>
      cases validated
      exact ⟨by simp, fun line member => absurd member List.not_mem_nil⟩
  | cons line rest ih =>
      unfold validateLines at validated
      cases first : validateLine path number line with
      | error error =>
          rw [first] at validated
          cases validated
      | ok found =>
          rw [first] at validated
          rcases validateLine_eq_ok first with ⟨rfl, kept⟩
          rcases ih validated with ⟨equal, remaining⟩
          constructor
          · rw [equal, List.flatMap_cons, List.toFinset_append, Finset.union_assoc]
          · exact List.forall_mem_cons.mpr ⟨kept, remaining⟩

theorem validateLines_eq_error {path error : String} {number : Nat} {lines : List (List Char)}
    {domains : Finset (List Char)}
    (rejected : validateLines path number domains lines = .error error) :
    ∃ line ∈ lines, (∃ token ∈ tokens line, normalizeDomain token = none) ∨ Bare line := by
  induction lines generalizing number domains with
  | nil => cases rejected
  | cons line rest ih =>
      unfold validateLines at rejected
      cases first : validateLine path number line with
      | error _ => exact ⟨line, List.mem_cons_self, validateLine_eq_error first⟩
      | ok found =>
          rw [first] at rejected
          rcases ih rejected with ⟨other, member, fault⟩
          exact ⟨other, List.mem_cons_of_mem _ member, fault⟩

/-- The tokens of a text. -/
def textTokens (text : List Char) : List (List Char) :=
  (lines text).flatMap tokens

theorem mem_textDomains_iff {text domain : List Char} :
    domain ∈ textDomains text ↔ ∃ token ∈ textTokens text, normalizeDomain token = some domain := by
  simp only [textDomains, textTokens, List.mem_flatMap, List.mem_filterMap]
  constructor
  · rintro ⟨line, inside, token, member, normal⟩
    exact ⟨token, ⟨line, inside, member⟩, normal⟩
  · rintro ⟨token, ⟨line, inside, member⟩, normal⟩
    exact ⟨line, inside, token, member, normal⟩

def HostsFile.tokens : HostsFile → List (List Char)
  | readable text => textTokens text
  | missing | unreadable _ => []

theorem validateHostsFile_eq_ok {path : String} {file : HostsFile} {count : Nat}
    (validated : validateHostsFile path file = .ok count) :
    ∃ text, file = .readable text ∧ (textDomains text).toFinset.card = count ∧
      ∀ line ∈ lines text, Kept line := by
  cases file with
  | missing | unreadable _ => cases validated
  | readable text =>
      cases loop : validateLines path 1 ∅ (lines text) with
      | error error =>
          simp only [validateHostsFile, loop] at validated
          cases validated
      | ok domains =>
          simp only [validateHostsFile, loop] at validated
          cases validated
          rcases validateLines_eq_ok loop with ⟨equal, kept⟩
          rw [Finset.empty_union] at equal
          exact ⟨text, rfl, congrArg Finset.card equal.symm, kept⟩

theorem validateHostsFile_eq_error {path error : String} {text : List Char}
    (rejected : validateHostsFile path (.readable text) = .error error) :
    ∃ line ∈ lines text, (∃ token ∈ tokens line, normalizeDomain token = none) ∨ Bare line := by
  cases loop : validateLines path 1 ∅ (lines text) with
  | error _ => exact validateLines_eq_error loop
  | ok domains =>
      simp only [validateHostsFile, loop] at rejected
      cases rejected

end Blocklist

open Blocklist

/-- What the strict validator accepts, the compiler compiles to the same number
of domains, which are the normal forms of the tokens, none of them dropped.  What
it rejects has a token that the compiler drops, or an address alone on a line. -/
theorem validateHostsFile_agrees {F : Type} {fst : FstCrate F} (documented : fst.Documented)
    (path : String) (file : HostsFile) :
    (∀ count, validateHostsFile path file = .ok count →
      (∃ output, compileHosts fst [file] = .ok (output, count) ∧
        ∀ domain, domain ∈ fst.stream output ↔
          ∃ token ∈ file.tokens, normalizeDomain token = some domain) ∧
      ∀ token ∈ file.tokens, (normalizeDomain token).isSome) ∧
    ∀ text error, file = .readable text → validateHostsFile path file = .error error →
      (∃ token ∈ file.tokens, normalizeDomain token = none) ∨ ∃ line ∈ lines text, Bare line := by
  constructor
  · intro count validated
    rcases validateHostsFile_eq_ok validated with ⟨text, rfl, number, kept⟩
    have readable : ∀ input ∈ [HostsFile.readable text], ∀ error, input ≠ .unreadable error := by
      simp
    rcases exists_compile documented none readable with ⟨output, compiledCount, compiled⟩
    have exact := compiled_of_compileHosts documented compiled
    have all : [HostsFile.readable text].flatMap HostsFile.domains = textDomains text := by
      simp [HostsFile.domains]
    rw [all] at exact
    constructor
    · refine ⟨output, ?_, ?_⟩
      · rw [← number, exact.card]
        exact compiled
      · intro domain
        rw [exact.mem_stream, List.mem_toFinset, mem_textDomains_iff]
        rfl
    · intro token member
      rcases List.mem_flatMap.mp member with ⟨line, inside, there⟩
      exact kept line inside token there
  · rintro text error rfl rejected
    rcases validateHostsFile_eq_error rejected with ⟨line, inside, ⟨token, member, dropped⟩ | bare⟩
    · exact Or.inl ⟨token, List.mem_flatMap.mpr ⟨line, inside, member⟩, dropped⟩
    · exact Or.inr ⟨line, inside, bare⟩

namespace Sample

/-- A hosts file whose second line is not a name. -/
def traversal : HostsFile :=
  .readable "0.0.0.0 ads.example.com\n../etc/passwd\n".toList

end Sample

/-- A file that is accepted with its two names, and one that is rejected. -/
theorem validateHostsFile_agrees_of_hostsFile :
    (∃ output, compileHosts Sample.fst [Sample.hostsFile] = .ok (output, 2)) ∧
      ∀ text, Sample.traversal = .readable text →
        (∃ token ∈ Sample.traversal.tokens, normalizeDomain token = none) ∨
          ∃ line ∈ lines text, Bare line := by
  have accepted : (validateHostsFile "custom_hosts.txt" Sample.hostsFile).toOption = some 2 := by
    decide +kernel
  have rejected : (validateHostsFile "custom_hosts.txt" Sample.traversal).toOption = none := by
    decide +kernel
  constructor
  · cases validated : validateHostsFile "custom_hosts.txt" Sample.hostsFile with
    | error error =>
        rw [validated] at accepted
        cases accepted
    | ok count =>
        rw [validated] at accepted
        cases accepted
        rcases ((validateHostsFile_agrees Sample.fst_documented _ _).1 2 validated).1 with
          ⟨output, compiled, _⟩
        exact ⟨output, compiled⟩
  · intro text equal
    cases validated : validateHostsFile "custom_hosts.txt" Sample.traversal with
    | error error =>
        exact (validateHostsFile_agrees Sample.fst_documented _ _).2 text error equal validated
    | ok count =>
        rw [validated] at rejected
        cases rejected

end XanhTab
