import XanhTab.Blocklist.Build

/-!
# The traces of a blocklist build

What a build leaves behind, whichever step fails.  The outer function removes its
own two temporaries, but not the one that the hosts compiler builds its set in.
-/

namespace XanhTab

open Function

namespace Path

end Path

namespace Blocklist.Build

variable {D F : Type} {output : Place D}

/-- The temporary of the hosts compiler. -/
def nestedFst (output : Place D) : Place D :=
  mergedFst (customFst output)

variable [DecidableEq D] {format : FstFormat F} {fails : BuildStep → Bool} {fs : FileSystem D}

/-! ## One file -/

/-- A file is created at the place, or where a link there leads. -/
def Creates (fails : BuildStep → Bool) (file : Temporary) (place : Place D) (fs : FileSystem D) :
    Prop :=
  fails (.create file) = false ∧ (fs.create place).isSome = true

/-- The keys can be written. -/
def Writes (format : FstFormat F) (fails : BuildStep → Bool) (file : Temporary)
    (keys : List (List Char)) : Prop :=
  (∀ index < keys.length, fails (.insert file index) = false) ∧
    (∃ set, format.build keys = .ok set) ∧ fails (.finish file) = false

/-- The keys are read from the inputs, and the nested temporary is created. -/
structure Reaches (fails : BuildStep → Bool) (inputs : List (Place D)) (output : Place D)
    (fs : FileSystem D) (keys : List (List Char)) : Prop where
  collected : ∃ domains, collect ∅ (readInputs fails inputs fs) = .ok domains ∧
    keys = sorted domains
  parent : fails (.createParent .nested) = false
  creates : Creates fails .nested (nestedFst output) fs

/-- The nested temporary is written and renamed. -/
structure Completes (format : FstFormat F) (fails : BuildStep → Bool) (output : Place D)
    (fs : FileSystem D) (keys : List (List Char)) : Prop where
  header : fails (.header .nested) = false
  writes : Writes format fails .nested keys
  rename : fails (.rename .nested) = false
  free : fs (customFst output) ≠ some .directory

/-- The files after a compilation. -/
def compiledFiles (output : Place D) (content : ByteArray) (fs : FileSystem D) : FileSystem D :=
  update (update fs (customFst output) (some (.file content))) (nestedFst output) none

/-- All outcomes of the hosts compiler. -/
inductive Compiled (format : FstFormat F) (fails : BuildStep → Bool) (inputs : List (Place D))
    (output : Place D) (fs : FileSystem D) : Ending × FileSystem D → Prop
  | unreached (step : BuildStep) : (∀ keys, ¬ Reaches fails inputs output fs keys) →
      Compiled format fails inputs output fs (.failed step, fs)
  | abandoned (keys : List (List Char)) (content : ByteArray) (step : BuildStep) :
      Reaches fails inputs output fs keys → ¬ Completes format fails output fs keys →
      Compiled format fails inputs output fs
        (.failed step, update fs (nestedFst output) (some (.file content)))
  | compiled (keys : List (List Char)) (set : F) : Reaches fails inputs output fs keys →
      Completes format fails output fs keys → format.build keys = .ok set →
      Compiled format fails inputs output fs
        (.finished keys.length, compiledFiles output (format.encode set) fs)

variable {base : Place D} {inputs : List (Place D)}

/-- The hosts compiler is reached. -/
structure Begins (format : FstFormat F) (fails : BuildStep → Bool) (base : Place D)
    (inputs : List (Place D)) (output : Place D) (fs : FileSystem D) (keys : List (List Char)) :
    Prop where
  opens : (openFst format fails .openBase base fs).isSome = true
  parent : fails (.createParent .merged) = false
  reaches : Reaches fails inputs output fs keys

/-- The nested temporary is not left behind where there was none, and the base is
not one of the two files that are truncated while it is mapped. -/
structure Clean (format : FstFormat F) (fails : BuildStep → Bool) (base : Place D)
    (inputs : List (Place D)) (output : Place D) (fs : FileSystem D) : Prop where
  renamed : ∀ keys, Begins format fails base inputs output fs keys →
    Completes format fails output fs keys ∨ fs (nestedFst output) ≠ none
  mapped : ∀ keys, Begins format fails base inputs output fs keys →
    Completes format fails output fs keys → fails .openCustom = false →
      base ≠ nestedFst output ∧
        (base = mergedFst output → fails (.create .merged) = true ∨ fails (.header .merged) = true)

end Blocklist.Build

namespace Sample

open Blocklist.Build

end Sample

namespace Blocklist.Build

end Blocklist.Build

end XanhTab
