import XanhTab.Blocklist.Hosts

/-!
# What the blocklist contains

The domains that the hosts files list, and that a lookup in the compiled list
finds exactly them and what is below them.
-/

namespace XanhTab

open Text Reader

/-- What the `fst` crate documents: sets keep the keys that were inserted in
order, keys out of order are refused, and a union streams the keys of both sets
in order. -/
structure FstCrate.Documented {F : Type} (fst : FstCrate F) : Prop where
  ordered : ∀ set, (fst.stream set).Pairwise (· < ·)
  contains : ∀ set key, fst.contains set key = true ↔ key ∈ fst.stream set
  len : ∀ set, fst.len set = (fst.stream set).length
  accepts : ∀ keys, keys.Pairwise (· < ·) → ∃ set, fst.build keys = .ok set
  rejects : ∀ keys, ¬ keys.Pairwise (· ≤ ·) → ∃ error, fst.build keys = .error error
  built : ∀ keys set, keys.Pairwise (· < ·) → fst.build keys = .ok set → fst.stream set = keys
  union_ordered : ∀ first second, (fst.union first second).Pairwise (· < ·)
  mem_union : ∀ first second key,
    key ∈ fst.union first second ↔ key ∈ fst.stream first ∨ key ∈ fst.stream second

namespace Blocklist

/-! ## The domains that are listed -/

/-- The tokens of the part of a line before a comment, without the address that
may lead them. -/
def tokens (line : List Char) : List (List Char) :=
  candidates (splitWhitespace (before '#' line))

/-- The normal forms of the tokens of a text. -/
def textDomains (text : List Char) : List (List Char) :=
  (lines text).flatMap fun line => (tokens line).filterMap normalizeDomain

def HostsFile.domains : HostsFile → List (List Char)
  | readable text => textDomains text
  | missing | unreadable _ => []

/-- The domains of a base set together with those of the files. -/
def listed {F : Type} (fst : FstCrate F) (base : Option F) (inputs : List HostsFile) :
    Finset (List Char) :=
  (base.elim [] fst.stream).toFinset ∪ (inputs.flatMap HostsFile.domains).toFinset

/-- The host is the domain or below it. -/
def Covers (domain host : List Char) : Prop :=
  host = domain ∨ '.' :: domain <:+ host

/-! ## Compiling -/

theorem parseHostsLine_eq (line : List Char) :
    parseHostsLine line = (tokens line).filterMap normalizeDomain := by
  unfold parseHostsLine tokens
  dsimp only
  rw [splitWhitespace_trim]
  by_cases empty : trim (before '#' line) = []
  · have none : splitWhitespace (before '#' line) = [] := by
      rw [← splitWhitespace_trim, empty]
      rfl
    rw [if_pos empty, none]
    rfl
  · rw [if_neg empty]

theorem foldl_lines (lines : List (List Char)) (domains : Finset (List Char)) :
    lines.foldl (fun domains line => domains ∪ (parseHostsLine line).toFinset) domains =
      domains ∪ (lines.flatMap fun line => (tokens line).filterMap normalizeDomain).toFinset := by
  induction lines generalizing domains with
  | nil => simp
  | cons line rest ih =>
      rw [List.foldl_cons, ih, List.flatMap_cons, List.toFinset_append, parseHostsLine_eq,
        Finset.union_assoc]

theorem collect_eq {inputs : List HostsFile} {domains result : Finset (List Char)}
    (collected : collect domains inputs = .ok result) :
    result = domains ∪ (inputs.flatMap HostsFile.domains).toFinset := by
  induction inputs generalizing domains with
  | nil =>
      cases collected
      simp
  | cons input rest ih =>
      cases input with
      | missing => exact ih collected
      | unreadable error => cases collected
      | readable text =>
          rw [ih collected, foldl_lines, List.flatMap_cons, List.toFinset_append,
            Finset.union_assoc]
          rfl

variable {F : Type} {fst : FstCrate F} {base : Option F} {inputs : List HostsFile} {output : F}
  {count : Nat}

/-- The output streams each domain once, and they are as many as is returned. -/
structure Compiled (fst : FstCrate F) (domains : Finset (List Char)) (output : F) (count : Nat) :
    Prop where
  mem_stream : ∀ domain, domain ∈ fst.stream output ↔ domain ∈ domains
  length : (fst.stream output).length = count
  card : domains.card = count

theorem compiled_of_build (documented : fst.Documented) {keys : List (List Char)}
    {domains : Finset (List Char)} (ordered : keys.Pairwise (· < ·))
    (members : ∀ domain, domain ∈ keys ↔ domain ∈ domains) (built : fst.build keys = .ok output) :
    Compiled fst domains output keys.length := by
  have streamed := documented.built keys output ordered built
  have distinct : keys.Nodup := ordered.imp fun below => ne_of_lt below
  have same : domains = keys.toFinset := by
    ext domain
    rw [List.mem_toFinset, members]
  constructor
  · intro domain
    rw [streamed, members]
  · rw [streamed]
  · rw [same, List.toFinset_card_of_nodup distinct]

theorem compiled_of_compileHosts (documented : fst.Documented)
    (compiled : compileHosts fst inputs = .ok (output, count)) :
    Compiled fst (inputs.flatMap HostsFile.domains).toFinset output count := by
  unfold compileHosts at compiled
  cases collected : collect ∅ inputs with
  | error error =>
      rw [collected] at compiled
      cases compiled
  | ok domains =>
      rw [collected] at compiled
      have all := collect_eq collected
      rw [Finset.empty_union] at all
      cases built : fst.build (sorted domains) with
      | error error =>
          simp only [Except.bind, built, Except.map] at compiled
          cases compiled
      | ok set =>
          simp only [Except.bind, built, Except.map] at compiled
          cases compiled
          have members : ∀ domain, domain ∈ sorted domains ↔ domain ∈ domains :=
            fun domain => Finset.mem_sort _
          have fromKeys := compiled_of_build documented (Finset.sortedLT_sort domains).pairwise
            members built
          rw [Finset.length_sort, all] at fromKeys
          rw [all]
          exact fromKeys

theorem compiled_of_compile (documented : fst.Documented)
    (compiled : compile fst base inputs = .ok (output, count)) :
    Compiled fst (listed fst base inputs) output count := by
  cases base with
  | none =>
      have fromFiles := compiled_of_compileHosts documented compiled
      have same : listed fst none inputs = (inputs.flatMap HostsFile.domains).toFinset :=
        Finset.empty_union _
      rw [same]
      exact fromFiles
  | some base =>
      unfold compile mergeHostsWithBase at compiled
      cases custom : compileHosts fst inputs with
      | error error =>
          rw [custom] at compiled
          cases compiled
      | ok result =>
          rcases result with ⟨set, number⟩
          rw [custom] at compiled
          have fromFiles := compiled_of_compileHosts documented custom
          cases built : fst.build (fst.union base set) with
          | error error =>
              simp only [Except.bind, built, Except.map] at compiled
              cases compiled
          | ok merged =>
              simp only [Except.bind, built, Except.map] at compiled
              cases compiled
              apply compiled_of_build documented (documented.union_ordered base set) _ built
              intro domain
              rw [documented.mem_union, fromFiles.mem_stream]
              simp [listed]

/-- Files that are missing or readable can always be compiled. -/
theorem exists_compile (documented : fst.Documented) (base : Option F)
    (accessible : ∀ input ∈ inputs, ∀ error, input ≠ .unreadable error) :
    ∃ output count, compile fst base inputs = .ok (output, count) := by
  have collected : ∀ domains, ∃ result, collect domains inputs = .ok result := by
    induction inputs with
    | nil => exact fun domains => ⟨domains, rfl⟩
    | cons input rest ih =>
        intro domains
        have later := ih fun input member => accessible input (List.mem_cons_of_mem _ member)
        cases input with
        | missing => exact later domains
        | unreadable error => exact absurd rfl (accessible _ List.mem_cons_self error)
        | readable text => exact later _
  have fromFiles : ∃ output count, compileHosts fst inputs = .ok (output, count) := by
    rcases collected ∅ with ⟨domains, collected⟩
    rcases documented.accepts _ (Finset.sortedLT_sort domains).pairwise with ⟨set, built⟩
    refine ⟨set, domains.card, ?_⟩
    simp only [compileHosts, collected, Except.bind, built, Except.map]
  cases base with
  | none => exact fromFiles
  | some base =>
      rcases fromFiles with ⟨custom, number, compiled⟩
      rcases documented.accepts _ (documented.union_ordered base custom) with ⟨merged, built⟩
      refine ⟨merged, (fst.union base custom).length, ?_⟩
      simp only [compile, mergeHostsWithBase, compiled, Except.bind, built, Except.map]

/-! ## Lookup -/

theorem contains_openFile_iff (documented : fst.Documented) (host : List Char) :
    (contains fst host (openFile (some output))).1 = true ↔
      ∃ domain ∈ fst.stream output, Covers domain (normalizeHost host) := by
  have labelled : ['.'].intercalate ((normalizeHost host).splitOn '.') = normalizeHost host :=
    List.intercalate_splitOn ..
  have plain : ∀ label ∈ (normalizeHost host).splitOn '.', '.' ∉ label :=
    fun label member => not_mem_of_mem_splitOn member
  have found : (contains fst host (openFile (some output))).1 = true ↔
      ∃ index < ((normalizeHost host).splitOn '.').length, fst.contains output
        (['.'].intercalate (((normalizeHost host).splitOn '.').drop index)) = true := by
    simp only [contains, openFile]
    split
    · rename_i any
      simpa using any
    · rename_i none
      simpa using none
  rw [found]
  constructor
  · rintro ⟨index, within, contained⟩
    refine ⟨_, (documented.contains _ _).mp contained, ?_⟩
    have suffix := (exists_intercalate_drop_iff (List.splitOn_ne_nil _ _) plain _).mp
      ⟨index, within, rfl⟩
    rw [labelled] at suffix
    exact suffix.imp_left Eq.symm
  · rintro ⟨domain, member, covers⟩
    have suffix := (exists_intercalate_drop_iff (List.splitOn_ne_nil _ (normalizeHost host)) plain
      domain).mpr (by
        rw [labelled]
        exact covers.imp_left Eq.symm)
    rcases suffix with ⟨index, within, equal⟩
    refine ⟨index, within, ?_⟩
    rw [equal]
    exact (documented.contains _ _).mpr member

end Blocklist

open Blocklist

/-- A compiled list that is opened again contains exactly the hosts that are, or
are below, a listed domain, and its length is the number of these domains. -/
theorem blocklist_exact {F : Type} {fst : FstCrate F} (documented : fst.Documented)
    {base : Option F} {inputs : List HostsFile} {output : F} {count : Nat}
    (compiled : compile fst base inputs = .ok (output, count)) :
    (∀ host, (contains fst host (openFile (some output))).1 = true ↔
        ∃ domain ∈ listed fst base inputs, Covers domain (normalizeHost host)) ∧
      count = (listed fst base inputs).card ∧
      (openFile (some output)).len fst = (listed fst base inputs).card := by
  have exact := compiled_of_compile documented compiled
  refine ⟨?_, exact.card.symm, ?_⟩
  · intro host
    rw [contains_openFile_iff documented]
    simp only [exact.mem_stream]
  · show fst.len output = _
    rw [documented.len, exact.length, exact.card]

namespace Sample

theorem fst_documented : fst.Documented where
  ordered set := set.property
  contains set key := by simp [fst]
  len _ := rfl
  accepts keys ordered := ⟨⟨keys, ordered⟩, dif_pos ordered⟩
  rejects keys disordered := by
    refine ⟨"unordered", dif_neg ?_⟩
    intro ordered
    exact disordered (ordered.imp le_of_lt)
  built keys set ordered built := by
    simp only [fst, dif_pos ordered] at built
    cases built
    rfl
  union_ordered first second :=
    (Finset.sortedLT_sort (first.val.toFinset ∪ second.val.toFinset)).pairwise
  mem_union first second key := by
    simp [fst]

/-- One line of a hosts file, with an address, an alias and a comment. -/
def hostsFile : HostsFile :=
  .readable "0.0.0.0 Ads.example.com cdn.example.net. # both\n".toList

end Sample

/-- Both names of the line are listed, and what is below them is found. -/
theorem blocklist_exact_of_hostsFile :
    ∃ output count, compile Sample.fst none [Sample.hostsFile] = .ok (output, count) ∧ count = 2 ∧
      (contains Sample.fst "pixel.ads.example.com".toList (openFile (some output))).1 = true := by
  have accessible : ∀ input ∈ [Sample.hostsFile], ∀ error, input ≠ .unreadable error := by
    simp [Sample.hostsFile]
  rcases exists_compile Sample.fst_documented none accessible with ⟨output, count, compiled⟩
  have exact := blocklist_exact Sample.fst_documented compiled
  have domains : [Sample.hostsFile].flatMap HostsFile.domains =
      ["ads.example.com".toList, "cdn.example.net".toList] := by
    decide +kernel
  have all : listed Sample.fst none [Sample.hostsFile] =
      {"ads.example.com".toList, "cdn.example.net".toList} := by
    simp only [listed, domains]
    rfl
  refine ⟨output, count, compiled, ?_, ?_⟩
  · rw [exact.2.1, all]
    decide +kernel
  · refine (exact.1 _).mpr ⟨"ads.example.com".toList, ?_, Or.inr ?_⟩
    · rw [all]
      exact Finset.mem_insert_self _ _
    · decide +kernel

end XanhTab
