import Mathlib.Algebra.GroupWithZero.Nat
import Mathlib.Data.List.DropRight
import Mathlib.Data.List.Infix

/-!
# Texts

Operations of the standard library on strings, over lists of characters.  A
character is white space if it has the Unicode property of that name; letter
case is that of ASCII.
-/

namespace XanhTab.Text

/-- `char::is_whitespace`. -/
def isWhitespace (c : Char) : Bool :=
  (9 ≤ c.toNat && c.toNat ≤ 13) || (0x2000 ≤ c.toNat && c.toNat ≤ 0x200A) ||
    [0x20, 0x85, 0xA0, 0x1680, 0x2028, 0x2029, 0x202F, 0x205F, 0x3000].contains c.toNat

/-- `str::trim`. -/
def trim (text : List Char) : List Char :=
  (text.dropWhile isWhitespace).rdropWhile isWhitespace

/-- `str::trim_end_matches`, for one character. -/
def trimEndMatches (c : Char) (text : List Char) : List Char :=
  text.rdropWhile (· == c)

/-- `str::to_ascii_lowercase`. -/
def lowercase (text : List Char) : List Char :=
  text.map Char.toLower

/-- `str::split_once`, for one character. -/
def splitOnce (separator : Char) : List Char → Option (List Char × List Char)
  | [] => none
  | c :: rest =>
      if c = separator then some ([], rest)
      else (splitOnce separator rest).map fun parts => (c :: parts.1, parts.2)

/-- `str::rsplit_once`, for one character. -/
def rsplitOnce (separator : Char) (text : List Char) : Option (List Char × List Char) :=
  (splitOnce separator text.reverse).map fun parts => (parts.2.reverse, parts.1.reverse)

/-- The part before the first occurrence of a character, or all of the text. -/
def before (separator : Char) (text : List Char) : List Char :=
  text.takeWhile (· ≠ separator)

/-- `str::split_whitespace`. -/
def splitWhitespace (text : List Char) : List (List Char) :=
  (text.splitOnP isWhitespace).filter (· ≠ [])

/-- A line that is ended by a line feed, without the carriage return before it. -/
def stripReturn (line : List Char) : List Char :=
  if line.getLast? = some '\r' then line.dropLast else line

/-- `str::lines`, and the lines of a buffered reader. -/
def lines (text : List Char) : List (List Char) :=
  (text.splitOn '\n').dropLast.map stripReturn ++
    ((text.splitOn '\n').getLast?.toList.filter (· ≠ []))

/-- The number of bytes. -/
def utf8Length (text : List Char) : Nat :=
  (text.map Char.utf8Size).sum

/-- A character of ASCII is one byte. -/
theorem utf8Length_of_ascii {text : List Char} (ascii : ∀ c ∈ text, c.toNat < 128) :
    utf8Length text = text.length := by
  unfold utf8Length
  induction text with
  | nil => rfl
  | cons c rest ih =>
      rcases List.forall_mem_cons.mp ascii with ⟨small, ascii⟩
      have single : c.utf8Size = 1 := Char.utf8Size_eq_one_iff.mpr (Nat.le_of_lt_succ small)
      rw [List.map_cons, List.sum_cons, single, ih ascii, List.length_cons, Nat.add_comm]

/-! ## Splitting once -/

theorem splitOnce_eq_some_iff {separator : Char} {text front back : List Char} :
    splitOnce separator text = some (front, back) ↔
      text = front ++ separator :: back ∧ separator ∉ front := by
  induction text generalizing front with
  | nil => simp [splitOnce]
  | cons c rest ih =>
      unfold splitOnce
      by_cases here : c = separator
      · subst c
        rw [if_pos rfl]
        constructor
        · rintro ⟨⟩
          simp
        · rintro ⟨equal, absent⟩
          cases front with
          | nil =>
              cases equal
              rfl
          | cons first front =>
              injection equal with head
              subst first
              simp at absent
      · rw [if_neg here, Option.map_eq_some_iff]
        constructor
        · rintro ⟨⟨first, second⟩, found, equal⟩
          cases equal
          rcases ih.mp found with ⟨rfl, absent⟩
          refine ⟨rfl, ?_⟩
          intro member
          rcases List.mem_cons.mp member with head | later
          · exact here head.symm
          · exact absent later
        · rintro ⟨equal, absent⟩
          cases front with
          | nil =>
              injection equal with head
              exact absurd head here
          | cons first front =>
              injection equal with head tail
              subst first
              refine ⟨(front, back), ih.mpr ⟨tail, ?_⟩, rfl⟩
              intro member
              exact absent (List.mem_cons_of_mem _ member)

theorem rsplitOnce_eq_some_iff {separator : Char} {text front back : List Char} :
    rsplitOnce separator text = some (front, back) ↔
      text = front ++ separator :: back ∧ separator ∉ back := by
  unfold rsplitOnce
  rw [Option.map_eq_some_iff]
  constructor
  · rintro ⟨⟨first, second⟩, found, equal⟩
    cases equal
    rcases splitOnce_eq_some_iff.mp found with ⟨reversed, absent⟩
    constructor
    · rw [← List.reverse_reverse text, reversed]
      simp
    · simpa using absent
  · rintro ⟨rfl, absent⟩
    refine ⟨(back.reverse, front.reverse), splitOnce_eq_some_iff.mpr ⟨?_, ?_⟩, ?_⟩
    · simp
    · simpa using absent
    · simp

/-- The parts between separators contain none. -/
theorem not_mem_of_mem_splitOn {separator : Char} {text part : List Char}
    (member : part ∈ text.splitOn separator) : separator ∉ part := by
  induction text generalizing part with
  | nil =>
      rw [List.splitOn_nil] at member
      rw [List.mem_singleton.mp member]
      exact List.not_mem_nil
  | cons c rest ih =>
      rw [List.splitOn_cons_eq_if_modifyHead] at member
      by_cases here : (c == separator) = true
      · rw [if_pos here] at member
        rcases List.mem_cons.mp member with rfl | later
        · exact List.not_mem_nil
        · exact ih later
      · rw [if_neg here] at member
        cases parts : rest.splitOn separator with
        | nil => exact absurd parts (List.splitOn_ne_nil _ _)
        | cons first more =>
            rw [parts] at member ih
            rcases List.mem_cons.mp member with rfl | later
            · intro inside
              rcases List.mem_cons.mp inside with rfl | inside
              · exact here (beq_self_eq_true _)
              · exact ih List.mem_cons_self inside
            · exact ih (List.mem_cons_of_mem _ later)

/-! ## Words -/

/-- White space around a text separates no words. -/
theorem splitWhitespace_cons_of_isWhitespace {c : Char} (blank : isWhitespace c = true)
    (text : List Char) : splitWhitespace (c :: text) = splitWhitespace text := by
  unfold splitWhitespace
  rw [List.splitOnP_cons_eq_if_modifyHead, if_pos blank]
  rfl

theorem splitWhitespace_concat_of_isWhitespace {c : Char} (blank : isWhitespace c = true)
    (text : List Char) : splitWhitespace (text ++ [c]) = splitWhitespace text := by
  unfold splitWhitespace
  rw [List.splitOnP_append_cons _ _ blank, List.filter_append]
  simp

theorem splitWhitespace_dropWhile (text : List Char) :
    splitWhitespace (text.dropWhile isWhitespace) = splitWhitespace text := by
  induction text with
  | nil => rfl
  | cons c rest ih =>
      by_cases blank : isWhitespace c = true
      · rw [List.dropWhile_cons_of_pos blank, ih, splitWhitespace_cons_of_isWhitespace blank]
      · rw [List.dropWhile_cons_of_neg blank]

theorem splitWhitespace_rdropWhile (text : List Char) :
    splitWhitespace (text.rdropWhile isWhitespace) = splitWhitespace text := by
  induction text using List.reverseRecOn with
  | nil => rfl
  | append_singleton rest c ih =>
      by_cases blank : isWhitespace c = true
      · rw [List.rdropWhile_concat_pos _ _ _ blank, ih, splitWhitespace_concat_of_isWhitespace blank]
      · rw [List.rdropWhile_concat_neg _ _ _ blank]

theorem splitWhitespace_trim (text : List Char) :
    splitWhitespace (trim text) = splitWhitespace text := by
  unfold trim
  rw [splitWhitespace_rdropWhile, splitWhitespace_dropWhile]

/-- A text without words is blank. -/
theorem trim_eq_nil_of_splitWhitespace_eq_nil {text : List Char}
    (wordless : splitWhitespace text = []) : trim text = [] := by
  have blank : ∀ c ∈ text, isWhitespace c = true := by
    induction text with
    | nil => exact fun c member => absurd member List.not_mem_nil
    | cons first rest ih =>
        by_cases white : isWhitespace first = true
        · rw [splitWhitespace_cons_of_isWhitespace white] at wordless
          exact List.forall_mem_cons.mpr ⟨white, ih wordless⟩
        · unfold splitWhitespace at wordless
          rw [List.splitOnP_cons_eq_if_modifyHead, if_neg white] at wordless
          cases parts : rest.splitOnP isWhitespace with
          | nil => exact absurd parts (List.splitOnP_ne_nil _ _)
          | cons part more =>
              rw [parts] at wordless
              simp at wordless
  unfold trim
  rw [List.dropWhile_eq_nil_iff.mpr blank]
  rfl

/-! ## Suffixes that begin at a separator -/

section Suffix

variable {α : Type} {separator : α}

theorem cons_suffix_append_cons_iff {front back suffix : List α} (absent : separator ∉ front) :
    separator :: suffix <:+ front ++ separator :: back ↔
      suffix = back ∨ separator :: suffix <:+ back := by
  induction front with
  | nil =>
      rw [List.nil_append, List.suffix_cons_iff]
      simp
  | cons first rest ih =>
      rcases not_or.mp (fun either => absent (List.mem_cons.mpr either)) with ⟨differs, later⟩
      rw [List.cons_append, List.suffix_cons_iff, ih later]
      constructor
      · rintro (equal | found)
        · injection equal with head
          exact absurd head differs
        · exact found
      · exact Or.inr

/-- The parts from some part on make up the text or what follows one of its
separators. -/
theorem exists_intercalate_drop_iff {parts : List (List α)} (present : parts ≠ [])
    (plain : ∀ part ∈ parts, separator ∉ part) (suffix : List α) :
    (∃ index < parts.length, [separator].intercalate (parts.drop index) = suffix) ↔
      suffix = [separator].intercalate parts ∨
        separator :: suffix <:+ [separator].intercalate parts := by
  induction parts with
  | nil => exact absurd rfl present
  | cons first rest ih =>
      have absent := plain first List.mem_cons_self
      have shift : (∃ index < (first :: rest).length,
            [separator].intercalate ((first :: rest).drop index) = suffix) ↔
          suffix = [separator].intercalate (first :: rest) ∨
            ∃ index < rest.length, [separator].intercalate (rest.drop index) = suffix := by
        constructor
        · rintro ⟨index, within, equal⟩
          cases index with
          | zero => exact Or.inl equal.symm
          | succ index => exact Or.inr ⟨index, Nat.lt_of_succ_lt_succ within, equal⟩
        · rintro (equal | ⟨index, within, equal⟩)
          · exact ⟨0, Nat.zero_lt_succ _, equal.symm⟩
          · exact ⟨index + 1, Nat.succ_lt_succ within, equal⟩
      rw [shift]
      cases rest with
      | nil =>
          have whole : [separator].intercalate [first] = first := by simp [List.intercalate]
          rw [whole]
          constructor
          · rintro (equal | ⟨index, within, _⟩)
            · exact Or.inl equal
            · exact absurd within (Nat.not_lt_zero _)
          · rintro (equal | found)
            · exact Or.inl equal
            · exact absurd (found.subset List.mem_cons_self) absent
      | cons second rest =>
          have whole : [separator].intercalate (first :: second :: rest) =
              first ++ separator :: [separator].intercalate (second :: rest) := by
            simp [List.intercalate]
          rw [ih (List.cons_ne_nil _ _) (fun part member =>
            plain part (List.mem_cons_of_mem _ member)), whole,
            cons_suffix_append_cons_iff absent]

end Suffix

end XanhTab.Text
