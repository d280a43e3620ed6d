import Mathlib.Data.Char
import Mathlib.Data.Finset.Sort
import Mathlib.Data.List.Lex
import XanhTab.Netd.Reader
import XanhTab.Text.Basic

/-!
# The blocklist

The hosts compiler and the lookup of `blocklist.rs`.  Files are kept as what
they contain; a text is a list of characters, and the order of such lists is
that of the UTF-8 bytes.  The sets of the `fst` crate are a parameter.
-/

namespace XanhTab

open Text Reader

/-- What is used of the `fst` crate, for some type of sets. -/
structure FstCrate (F : Type) where
  /-- The keys in the order of a stream. -/
  stream : F → List (List Char)
  contains : F → List Char → Bool
  len : F → Nat
  /-- A builder that the keys are inserted into in order, and then finished. -/
  build : List (List Char) → Except String F
  /-- The stream of the union of two sets. -/
  union : F → F → List (List Char)

namespace Blocklist

/-- A hosts file, which need not exist or be readable. -/
inductive HostsFile
  | missing
  | unreadable (error : String)
  | readable (text : List Char)
  deriving DecidableEq, Repr

/-! ## Domains -/

/-- `normalize_host`. -/
def normalizeHost (host : List Char) : List Char :=
  lowercase (trimEndMatches '.' (trim host))

def validLabel (label : List Char) : Bool :=
  label ≠ [] && utf8Length label ≤ 63 && label.head?.any Char.isAlphanum &&
    label.getLast?.any Char.isAlphanum && label.all fun c => c.isAlphanum || c == '-'

/-- `normalize_domain`. -/
def normalizeDomain (candidate : List Char) : Option (List Char) :=
  let host := normalizeHost candidate
  if host = [] ∨ host = "localhost".toList ∨ '.' ∉ host ∨ 253 < utf8Length host ∨
      (parseIpAddr host).isSome then none
  else if (host.splitOn '.').all validLabel then some host
  else none

/-- The parts of a line that may be domains. -/
def candidates (parts : List (List Char)) : List (List Char) :=
  if parts.head?.any fun part => (parseIpAddr part).isSome then parts.tail else parts

/-- `parse_hosts_line`. -/
def parseHostsLine (line : List Char) : List (List Char) :=
  let content := trim (before '#' line)
  if content = [] then []
  else (candidates (splitWhitespace content)).filterMap normalizeDomain

/-! ## Compiling -/

/-- The domains of the files that exist, inserted into a `BTreeSet`. -/
def collect (domains : Finset (List Char)) : List HostsFile → Except String (Finset (List Char))
  | [] => .ok domains
  | .missing :: rest => collect domains rest
  | .unreadable error :: _ => .error error
  | .readable text :: rest =>
      collect ((lines text).foldl (fun domains line => domains ∪ (parseHostsLine line).toFinset)
        domains) rest

/-- The keys of a `BTreeSet` in order. -/
abbrev sorted (domains : Finset (List Char)) : List (List Char) :=
  domains.sort (· ≤ ·)

variable {F : Type} (fst : FstCrate F)

/-- `compile_hosts`, with the set that it writes. -/
def compileHosts (inputs : List HostsFile) : Except String (F × Nat) :=
  (collect ∅ inputs).bind fun domains =>
    (fst.build (sorted domains)).map fun set => (set, domains.card)

/-- `merge_hosts_with_base`, with the set that it writes. -/
def mergeHostsWithBase (base : F) (inputs : List HostsFile) : Except String (F × Nat) :=
  (compileHosts fst inputs).bind fun (custom, _) =>
    (fst.build (fst.union base custom)).map fun set => (set, (fst.union base custom).length)

/-- The list is compiled from the files alone, or merged with a base. -/
def compile (base : Option F) (inputs : List HostsFile) : Except String (F × Nat) :=
  match base with
  | none => compileHosts fst inputs
  | some base => mergeHostsWithBase fst base inputs

end Blocklist

/-! ## Lookup -/

/-- `Blocklist`.  The number of hits has 64 bits and wraps. -/
structure Blocklist (F : Type) where
  set : Option F := none
  hits : Nat := 0

namespace Blocklist

variable {F : Type} (fst : FstCrate F)

/-- `Blocklist::open`, of a file that need not exist. -/
def openFile (file : Option F) : Blocklist F :=
  { set := file }

/-- `Blocklist::contains`. -/
def contains (host : List Char) (blocklist : Blocklist F) : Bool × Blocklist F :=
  match blocklist.set with
  | none => (false, blocklist)
  | some set =>
      let labels := (normalizeHost host).splitOn '.'
      if (List.range labels.length).any fun index =>
          fst.contains set (['.'].intercalate (labels.drop index)) then
        (true, { blocklist with hits := (blocklist.hits + 1) % 2 ^ 64 })
      else (false, blocklist)

/-- `Blocklist::len`. -/
def len (blocklist : Blocklist F) : Nat :=
  blocklist.set.elim 0 fst.len

end Blocklist

namespace Sample

/-- Sets as the lists of their keys. -/
abbrev KeySet := { keys : List (List Char) // keys.Pairwise (· < ·) }

def fst : FstCrate KeySet where
  stream set := set.val
  contains set key := set.val.contains key
  len set := set.val.length
  build keys := if ordered : keys.Pairwise (· < ·) then .ok ⟨keys, ordered⟩ else .error "unordered"
  union first second := Blocklist.sorted (first.val.toFinset ∪ second.val.toFinset)

end Sample

end XanhTab
