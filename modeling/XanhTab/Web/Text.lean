import Mathlib.Data.List.DropRight
import Mathlib.Data.List.Induction

/-!
# Texts in the web client

Operations of JavaScript on strings, over lists of characters.  What counts as white
space differs from the standard library of the daemon in two characters.
-/

namespace XanhTab.Web

/-- `\s` in a regular expression. -/
def isSpace (c : Char) : Bool :=
  (9 ≤ c.toNat && c.toNat ≤ 13) || (0x2000 ≤ c.toNat && c.toNat ≤ 0x200A) ||
    [0x20, 0xA0, 0x1680, 0x2028, 0x2029, 0x202F, 0x205F, 0x3000, 0xFEFF].contains c.toNat

/-- `String.prototype.trim`. -/
def trim (text : List Char) : List Char :=
  (text.dropWhile isSpace).rdropWhile isSpace

/-- The upper case of each character, which may be several.  Outside ASCII only white
space is known to have none. -/
structure CaseMapping where
  upper : Char → List Char
  ascii : ∀ c, c.toNat < 128 → upper c = [c.toUpper]
  space : ∀ c, isSpace c = true → upper c = [c]

/-- `String.prototype.toUpperCase`. -/
def toUpperCase (mapping : CaseMapping) (text : List Char) : List Char :=
  text.flatMap mapping.upper

/-- What stands between runs of white space; in a run that has begun, more white space
separates nothing. -/
def splitRuns : Bool → List Char → List (List Char)
  | _, [] => [[]]
  | begun, c :: rest =>
      if isSpace c then
        if begun then splitRuns true rest else [] :: splitRuns true rest
      else (splitRuns false rest).modifyHead (c :: ·)

/-- `split(/\s+/)`. -/
def splitSpaces (text : List Char) : List (List Char) :=
  splitRuns false text

def Blank (text : List Char) : Prop :=
  ∀ c ∈ text, isSpace c = true

/-! ## Trimming -/

theorem dropWhile_append_of_blank {blank text : List Char} (spaces : Blank blank) :
    (blank ++ text).dropWhile isSpace = text.dropWhile isSpace := by
  induction blank with
  | nil => rfl
  | cons c rest ih =>
      rcases List.forall_mem_cons.mp spaces with ⟨space, spaces⟩
      rw [List.cons_append, List.dropWhile_cons_of_pos space, ih spaces]

theorem rdropWhile_append_of_blank {blank text : List Char} (spaces : Blank blank) :
    (text ++ blank).rdropWhile isSpace = text.rdropWhile isSpace := by
  induction blank using List.reverseRecOn with
  | nil => rw [List.append_nil]
  | append_singleton rest c ih =>
      have space := spaces c (List.mem_append_right _ (List.mem_singleton_self c))
      rw [← List.append_assoc, List.rdropWhile_concat_pos _ _ _ space,
        ih fun other member => spaces other (List.mem_append_left _ member)]

/-- White space around a text that begins and ends with other characters is taken away. -/
theorem trim_around {before after middle : List Char} {first last : Char}
    (spacesBefore : Blank before) (spacesAfter : Blank after)
    (begins : middle.head? = some first) (beginsPlain : isSpace first = false)
    (ends : middle.getLast? = some last) (endsPlain : isSpace last = false) :
    trim (before ++ middle ++ after) = middle := by
  unfold trim
  rw [List.append_assoc, dropWhile_append_of_blank spacesBefore]
  rcases List.head?_eq_some_iff.mp begins with ⟨rest, rfl⟩
  rw [List.cons_append, List.dropWhile_cons_of_neg (by simp [beginsPlain]), ← List.cons_append,
    rdropWhile_append_of_blank spacesAfter]
  rcases List.getLast?_eq_some_iff.mp ends with ⟨front, equal⟩
  rw [equal]
  exact List.rdropWhile_concat_neg _ _ _ (by simp [endsPlain])

/-! ## Runs of white space -/

theorem toUpperCase_append (mapping : CaseMapping) (front back : List Char) :
    toUpperCase mapping (front ++ back) = toUpperCase mapping front ++ toUpperCase mapping back :=
  List.flatMap_append

theorem toUpperCase_of_blank (mapping : CaseMapping) {blank : List Char} (spaces : Blank blank) :
    toUpperCase mapping blank = blank := by
  induction blank with
  | nil => rfl
  | cons c rest ih =>
      rcases List.forall_mem_cons.mp spaces with ⟨space, spaces⟩
      unfold toUpperCase at ih ⊢
      rw [List.flatMap_cons, mapping.space c space, ih spaces]
      rfl

theorem splitRuns_cons_of_plain {begun : Bool} {c : Char} (plain : isSpace c = false)
    (text : List Char) :
    splitRuns begun (c :: text) = (splitRuns false text).modifyHead (c :: ·) := by
  rw [splitRuns, if_neg (by simp [plain])]

theorem splitRuns_append_of_blank {blank : List Char} (spaces : Blank blank) (text : List Char) :
    splitRuns true (blank ++ text) = splitRuns true text := by
  induction blank with
  | nil => rfl
  | cons c rest ih =>
      rcases List.forall_mem_cons.mp spaces with ⟨space, spaces⟩
      rw [List.cons_append, splitRuns, if_pos space, if_pos rfl, ih spaces]

/-- A run of white space before another character separates once. -/
theorem splitSpaces_of_run {run : List Char} (some : run ≠ []) (spaces : Blank run) {c : Char}
    (plain : isSpace c = false) (text : List Char) :
    splitSpaces (run ++ c :: text) = [] :: splitSpaces (c :: text) := by
  rcases List.exists_cons_of_ne_nil some with ⟨first, rest, rfl⟩
  rcases List.forall_mem_cons.mp spaces with ⟨space, spaces⟩
  unfold splitSpaces
  rw [List.cons_append, splitRuns, if_pos space, if_neg Bool.false_ne_true,
    splitRuns_append_of_blank spaces, splitRuns_cons_of_plain plain, splitRuns_cons_of_plain plain]

end XanhTab.Web
