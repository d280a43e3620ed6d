import Mathlib.Data.BitVec
import XanhTab.Text.Numeral

/-!
# Addresses and their text

IP addresses, the text that `Display` gives them, and its reading.  The text of
an IPv6 address leaves out its longest run of zero segments, if that has more
than one, and ends with an IPv4 address if it stands for one.
-/

namespace XanhTab

open Numeral

inductive IpAddr
  | v4 (bits : BitVec 32)
  | v6 (bits : BitVec 128)
  deriving DecidableEq, Repr

namespace IpAddr

/-! ## Writing -/

/-- `Ipv4Addr::octets`. -/
def octets (bits : BitVec 32) : List Nat :=
  decompose 256 4 bits.toNat

/-- `Ipv6Addr::segments`. -/
def segments (bits : BitVec 128) : List Nat :=
  decompose 65536 8 bits.toNat

/-- The text of an IPv4 address. -/
def displayV4 (bits : BitVec 32) : List Char :=
  ['.'].intercalate ((octets bits).map (Nat.toDigits 10))

/-- A run of zero segments. -/
structure Span where
  start : Nat := 0
  len : Nat := 0

/-- One step of the search for the longest run; the second span is the one that
is still growing. -/
def Span.step (spans : Span × Span) (entry : Nat × Nat) : Span × Span :=
  if entry.1 = 0 then
    let current : Span :=
      { start := if spans.2.len = 0 then entry.2 else spans.2.start, len := spans.2.len + 1 }
    (if spans.1.len < current.len then current else spans.1, current)
  else (spans.1, {})

def longestZeros (parts : List Nat) : Span :=
  (parts.zipIdx.foldl Span.step ({}, {})).1

/-- Segments with colons between them. -/
def joined (parts : List Nat) : List Char :=
  [':'].intercalate (parts.map (Nat.toDigits 16))

/-- `Ipv6Addr::to_ipv4_mapped`. -/
def mapped (parts : List Nat) : Option (BitVec 32) :=
  match parts with
  | [0, 0, 0, 0, 0, 65535, high, low] => some (BitVec.ofNat 32 (compose 65536 [high, low]))
  | _ => none

/-- The text of an IPv6 address. -/
def displayV6 (bits : BitVec 128) : List Char :=
  match mapped (segments bits) with
  | some short => "::ffff:".toList ++ displayV4 short
  | none =>
      let zeros := longestZeros (segments bits)
      if 1 < zeros.len then
        joined ((segments bits).take zeros.start) ++ [':', ':'] ++
          joined ((segments bits).drop (zeros.start + zeros.len))
      else joined (segments bits)

/-- `Display`. -/
def display : IpAddr → String
  | v4 bits => String.ofList (displayV4 bits)
  | v6 bits => String.ofList (displayV6 bits)

/-! ## Reading -/

def readOctet (text : List Char) : Option Nat :=
  (read 10 text).bind fun n => if n < 256 then some n else none

/-- The number of an IPv4 address. -/
def readV4 (text : List Char) : Option Nat :=
  ((text.splitOn '.').mapM readOctet).bind fun parts =>
    if parts.length = 4 then some (compose 256 parts) else none

def readSegment (text : List Char) : Option Nat :=
  (read 16 text).bind fun n => if n < 65536 then some n else none

/-- Segments, the last two of which may be given as an IPv4 address. -/
def readSegments : List (List Char) → Option (List Nat)
  | [] => some []
  | [last] =>
      if '.' ∈ last then (readV4 last).map (decompose 65536 2)
      else (readSegment last).map ([·])
  | first :: rest => (readSegment first).bind fun n => (readSegments rest).map (n :: ·)

/-- The parts before and after the first double colon. -/
def cut : List Char → Option (List Char × List Char)
  | ':' :: ':' :: rest => some ([], rest)
  | c :: rest => (cut rest).map fun parts => (c :: parts.1, parts.2)
  | [] => none

/-- One side of a double colon, which may be empty. -/
def readSide (text : List Char) : Option (List Nat) :=
  if text = [] then some [] else readSegments (text.splitOn ':')

/-- The number of an IPv6 address. -/
def readV6 (text : List Char) : Option Nat :=
  match cut text with
  | none => (readSegments (text.splitOn ':')).bind fun parts =>
      if parts.length = 8 then some (compose 65536 parts) else none
  | some (front, back) => (readSide front).bind fun front => (readSide back).bind fun back =>
      if front.length + back.length < 8 then
        some (compose 65536
          (front ++ List.replicate (8 - (front.length + back.length)) 0 ++ back))
      else none

/-! ## IPv4 addresses are read back -/

theorem octets_spec (bits : BitVec 32) :
    (octets bits).length = 4 ∧ (∀ part ∈ octets bits, part < 256) ∧
      compose 256 (octets bits) = bits.toNat := by
  refine ⟨length_decompose .., fun part => lt_of_mem_decompose (by decide), ?_⟩
  exact compose_decompose (by simpa using bits.isLt)

theorem segments_spec (bits : BitVec 128) :
    (segments bits).length = 8 ∧ (∀ part ∈ segments bits, part < 65536) ∧
      compose 65536 (segments bits) = bits.toNat := by
  refine ⟨length_decompose .., fun part => lt_of_mem_decompose (by decide), ?_⟩
  exact compose_decompose (by simpa using bits.isLt)

theorem mapM_read {α : Type} {write : α → List Char} {reader : List Char → Option α} {parts : List α}
    (reads : ∀ part ∈ parts, reader (write part) = some part) :
    (parts.map write).mapM reader = some parts := by
  induction parts with
  | nil => rfl
  | cons part rest ih =>
      have first := reads part List.mem_cons_self
      have others := ih fun part member => reads part (List.mem_cons_of_mem _ member)
      simp [List.mapM_cons, first, others]

theorem readV4_displayV4 (bits : BitVec 32) : readV4 (displayV4 bits) = some bits.toNat := by
  rcases octets_spec bits with ⟨length, small, value⟩
  have apart : ∀ text ∈ (octets bits).map (Nat.toDigits 10), '.' ∉ text := by
    intro text member
    rcases List.mem_map.mp member with ⟨part, _, rfl⟩
    exact not_mem_toDigits (by decide) (by decide) part (by decide)
  have present : (octets bits).map (Nat.toDigits 10) ≠ [] := by
    intro absent
    rw [List.map_eq_nil_iff.mp absent] at length
    cases length
  have octet : ∀ part ∈ octets bits, readOctet (Nat.toDigits 10 part) = some part := by
    intro part member
    unfold readOctet
    rw [read_toDigits (by decide) (by decide), Option.bind_some, if_pos (small part member)]
  unfold readV4 displayV4
  rw [List.splitOn_intercalate '.' apart present, mapM_read octet, Option.bind_some,
    if_pos length, value]

/-! ## IPv6 addresses are read back -/

/-- The segments with the run left out. -/
def Span.IsRun (parts : List Nat) (span : Span) : Prop :=
  ∃ front back, parts = front ++ List.replicate span.len 0 ++ back ∧ front.length = span.start

/-- What the search knows of the segments that it has seen. -/
structure Span.Seen (parts : List Nat) (spans : Span × Span) : Prop where
  longest : spans.1.IsRun parts
  current : ∃ front, parts = front ++ List.replicate spans.2.len 0 ∧
    (spans.2.len ≠ 0 → front.length = spans.2.start)

theorem Span.IsRun.extend {parts : List Nat} {span : Span} (run : span.IsRun parts) (part : Nat) :
    span.IsRun (parts ++ [part]) := by
  rcases run with ⟨front, back, equal, start⟩
  refine ⟨front, back ++ [part], ?_, start⟩
  rw [equal, List.append_assoc]

theorem Span.Seen.step {parts : List Nat} {spans : Span × Span} (seen : Span.Seen parts spans)
    (part : Nat) : Span.Seen (parts ++ [part]) (Span.step spans (part, parts.length)) := by
  unfold Span.step
  dsimp only
  by_cases zero : part = 0
  · rw [if_pos zero]
    rcases seen.current with ⟨front, equal, start⟩
    have grown : parts ++ [part] = front ++ List.replicate (spans.2.len + 1) 0 := by
      rw [zero, equal, List.append_assoc, List.replicate_succ']
    have begins : front.length = if spans.2.len = 0 then parts.length else spans.2.start := by
      by_cases fresh : spans.2.len = 0
      · rw [if_pos fresh, equal, fresh]
        simp
      · rw [if_neg fresh]
        exact start fresh
    constructor
    · dsimp only
      split
      · exact ⟨front, [], by rw [grown, List.append_nil], begins⟩
      · exact seen.longest.extend part
    · exact ⟨front, grown, fun _ => begins⟩
  · rw [if_neg zero]
    constructor
    · exact seen.longest.extend part
    · exact ⟨parts ++ [part], by simp, fun impossible => absurd rfl impossible⟩

theorem seen_of_foldl (parts : List Nat) :
    Span.Seen parts (parts.zipIdx.foldl Span.step ({}, {})) := by
  induction parts using List.reverseRecOn with
  | nil =>
      constructor
      · exact ⟨[], [], rfl, rfl⟩
      · exact ⟨[], rfl, fun _ => rfl⟩
  | append_singleton parts part ih =>
      rw [List.zipIdx_append, List.foldl_append]
      simpa using ih.step part

theorem longestZeros_isRun (parts : List Nat) : (longestZeros parts).IsRun parts :=
  (seen_of_foldl parts).longest

theorem colon_not_mem (part : Nat) : ':' ∉ Nat.toDigits 16 part :=
  not_mem_toDigits (by decide) (by decide) part (by decide)

theorem readSegment_toDigits {part : Nat} (small : part < 65536) :
    readSegment (Nat.toDigits 16 part) = some part := by
  unfold readSegment
  rw [read_toDigits (by decide) (by decide), Option.bind_some, if_pos small]

theorem readSegments_map {parts : List Nat} (small : ∀ part ∈ parts, part < 65536) :
    readSegments (parts.map (Nat.toDigits 16)) = some parts := by
  induction parts with
  | nil => rfl
  | cons part rest ih =>
      have first := readSegment_toDigits (small part List.mem_cons_self)
      have others := ih fun part member => small part (List.mem_cons_of_mem _ member)
      cases rest with
      | nil =>
          have plain : '.' ∉ Nat.toDigits 16 part :=
            not_mem_toDigits (by decide) (by decide) part (by decide)
          simp [readSegments, plain, first]
      | cons second rest =>
          simp only [List.map_cons, readSegments] at others ⊢
          rw [first, others]
          rfl

theorem splitOn_joined {parts : List Nat} (present : parts ≠ []) :
    (joined parts).splitOn ':' = parts.map (Nat.toDigits 16) := by
  apply List.splitOn_intercalate
  · intro text member
    rcases List.mem_map.mp member with ⟨part, _, rfl⟩
    exact colon_not_mem part
  · exact fun absent => present (List.map_eq_nil_iff.mp absent)

theorem joined_cons_cons (first second : Nat) (rest : List Nat) :
    joined (first :: second :: rest) =
      Nat.toDigits 16 first ++ ':' :: joined (second :: rest) := by
  simp [joined, List.intercalate_cons_cons]

/-- A joined text begins with a digit. -/
theorem joined_cons (first : Nat) (rest : List Nat) :
    ∃ c text, joined (first :: rest) = c :: text ∧ c ≠ ':' := by
  rcases List.exists_cons_of_ne_nil (Nat.toDigits_ne_nil (n := first) (b := 16)) with
    ⟨c, digits, equal⟩
  have other : c ≠ ':' := by
    rintro rfl
    exact colon_not_mem first (equal ▸ List.mem_cons_self)
  cases rest with
  | nil => exact ⟨c, digits, by simp [joined, equal], other⟩
  | cons second rest => exact ⟨c, _, by rw [joined_cons_cons, equal]; rfl, other⟩

theorem readSide_joined {parts : List Nat} (small : ∀ part ∈ parts, part < 65536) :
    readSide (joined parts) = some parts := by
  unfold readSide
  cases parts with
  | nil => rfl
  | cons first rest =>
      rcases joined_cons first rest with ⟨c, text, equal, _⟩
      rw [if_neg (by rw [equal]; exact List.cons_ne_nil c text),
        splitOn_joined (List.cons_ne_nil first rest), readSegments_map small]

theorem cut_cons {c : Char} {rest : List Char} (other : c = ':' → ∀ tail, rest ≠ ':' :: tail) :
    cut (c :: rest) = (cut rest).map fun parts => (c :: parts.1, parts.2) := by
  rw [cut]
  rintro tail rfl rfl
  exact other rfl tail rfl

theorem cut_append {front : List Char} (plain : ':' ∉ front) (rest : List Char) :
    cut (front ++ rest) = (cut rest).map fun parts => (front ++ parts.1, parts.2) := by
  induction front with
  | nil => simp
  | cons c front ih =>
      have other : c ≠ ':' := by
        rintro rfl
        exact plain List.mem_cons_self
      rw [List.cons_append, cut_cons fun colon => absurd colon other,
        ih fun member => plain (List.mem_cons_of_mem c member), Option.map_map]
      rfl

/-- There is no double colon in a joined text, nor one that begins in it. -/
theorem cut_joined (first : Nat) (rest : List Nat) (tail : List Char) :
    cut (joined (first :: rest) ++ tail) =
      (cut tail).map fun parts => (joined (first :: rest) ++ parts.1, parts.2) := by
  induction rest generalizing first with
  | nil =>
      have single : joined [first] = Nat.toDigits 16 first := by simp [joined]
      rw [single]
      exact cut_append (colon_not_mem first) tail
  | cons second rest ih =>
      rcases joined_cons second rest with ⟨c, text, equal, other⟩
      have colon : cut (':' :: (joined (second :: rest) ++ tail)) =
          (cut (joined (second :: rest) ++ tail)).map fun parts => (':' :: parts.1, parts.2) := by
        apply cut_cons
        intro _ later same
        rw [equal, List.cons_append] at same
        exact other (List.cons.inj same).1
      rw [joined_cons_cons, List.append_assoc, List.cons_append, cut_append (colon_not_mem first),
        colon, ih, Option.map_map, Option.map_map]
      congr 1
      funext parts
      simp

theorem cut_sides (front : List Nat) (back : List Char) :
    cut (joined front ++ ':' :: ':' :: back) = some (joined front, back) := by
  have colons : cut (':' :: ':' :: back) = some ([], back) := by rw [cut]
  cases front with
  | nil => exact colons
  | cons first rest => rw [cut_joined, colons, Option.map_some, List.append_nil]

theorem cut_joined_eq_none (parts : List Nat) : cut (joined parts) = none := by
  cases parts with
  | nil => rfl
  | cons first rest =>
      have alone := cut_joined first rest []
      rwa [List.append_nil] at alone

/-- An address that is written without leaving anything out. -/
theorem readV6_joined {parts : List Nat} (length : parts.length = 8)
    (small : ∀ part ∈ parts, part < 65536) :
    readV6 (joined parts) = some (compose 65536 parts) := by
  have present : parts ≠ [] := by
    rintro rfl
    cases length
  unfold readV6
  rw [cut_joined_eq_none]
  dsimp only
  rw [splitOn_joined present, readSegments_map small, Option.bind_some, if_pos length]

/-- An address that is written without a run of zero segments. -/
theorem readV6_sides {front back : List Nat} {len : Nat} (positive : 0 < len)
    (length : front.length + len + back.length = 8)
    (frontSmall : ∀ part ∈ front, part < 65536) {text : List Char}
    (backRead : readSide text = some back) :
    readV6 (joined front ++ ':' :: ':' :: text) =
      some (compose 65536 (front ++ List.replicate len 0 ++ back)) := by
  have count : 8 - (front.length + back.length) = len := by omega
  unfold readV6
  rw [cut_sides]
  dsimp only
  rw [readSide_joined frontSmall, Option.bind_some, backRead, Option.bind_some,
    if_pos (by omega), count]

/-- The text of an IPv4 address has digits and dots only. -/
theorem not_mem_displayV4 {c : Char} (other : digitValue c = none) (dot : c ≠ '.')
    (bits : BitVec 32) : c ∉ displayV4 bits := by
  have digits : ∀ part : Nat, c ∉ Nat.toDigits 10 part := fun part =>
    not_mem_toDigits (by decide) (by decide) part other
  simp [displayV4, octets, decompose, List.intercalate_cons_cons, digits, dot]

theorem colon_not_mem_displayV4 (bits : BitVec 32) : ':' ∉ displayV4 bits :=
  not_mem_displayV4 (by decide) (by decide) bits

/-- An address that stands for an IPv4 address. -/
theorem readSide_mapped {high low : Nat} (highSmall : high < 65536) (lowSmall : low < 65536) :
    readSide ("ffff:".toList ++ displayV4 (BitVec.ofNat 32 (compose 65536 [high, low]))) =
      some [65535, high, low] := by
  have dotted : ∀ bits, '.' ∈ displayV4 bits := by
    intro bits
    simp [displayV4, octets, decompose, List.intercalate_cons_cons]
  have value : (BitVec.ofNat 32 (compose 65536 [high, low])).toNat = high * 65536 + low := by
    simp [compose]
    omega
  have parts : decompose 65536 2 (high * 65536 + low) = [high, low] := by
    simp [decompose]
    omega
  have first : "ffff:".toList = ['f', 'f', 'f', 'f'] ++ [':'] := String.toList_ofList
  have plain : ':' ∉ ['f', 'f', 'f', 'f'] := by decide
  have read : readSegment ['f', 'f', 'f', 'f'] = some 65535 := by decide
  unfold readSide
  rw [first, List.append_assoc, List.singleton_append, if_neg (by simp),
    List.splitOn_append_cons_self_of_not_mem plain, List.splitOn_eq_singleton (colon_not_mem_displayV4 _)]
  simp only [readSegments, if_pos (dotted _), readV4_displayV4, value, read, Option.map_some, parts,
    Option.bind_some]

theorem mapped_eq_some {parts : List Nat} {short : BitVec 32} (found : mapped parts = some short) :
    ∃ high low, parts = [0, 0, 0, 0, 0, 65535, high, low] ∧
      short = BitVec.ofNat 32 (compose 65536 [high, low]) := by
  unfold mapped at found
  split at found
  · rename_i high low
    exact ⟨high, low, rfl, (Option.some.inj found).symm⟩
  · cases found

theorem readV6_displayV6 (bits : BitVec 128) : readV6 (displayV6 bits) = some bits.toNat := by
  rcases segments_spec bits with ⟨length, small, value⟩
  rw [← value]
  unfold displayV6
  cases found : mapped (segments bits) with
  | some short =>
      rcases mapped_eq_some found with ⟨high, low, equal, rfl⟩
      rw [equal] at small ⊢
      have text : "::ffff:".toList = joined [] ++ ':' :: ':' :: "ffff:".toList := by
        rw [String.toList_ofList, String.toList_ofList]
        rfl
      dsimp only
      rw [text, List.append_assoc, List.cons_append, List.cons_append]
      have empty : ∀ part ∈ ([] : List Nat), part < 65536 := fun _ member => nomatch member
      exact readV6_sides (by decide : 0 < 5) rfl empty
        (readSide_mapped (small high (by simp)) (small low (by simp)))
  | none =>
      dsimp only
      rcases longestZeros_isRun (segments bits) with ⟨front, back, equal, start⟩
      by_cases long : 1 < (longestZeros (segments bits)).len
      · rw [if_pos long]
        generalize (longestZeros (segments bits)) = zeros at *
        rw [equal] at small length ⊢
        have taken : (front ++ List.replicate zeros.len 0 ++ back).take zeros.start = front := by
          rw [← start, List.append_assoc, List.take_left]
        have dropped : (front ++ List.replicate zeros.len 0 ++ back).drop
            (zeros.start + zeros.len) = back := by
          apply List.drop_left'
          rw [List.length_append, List.length_replicate, start]
        rw [taken, dropped, List.append_assoc]
        apply readV6_sides (Nat.lt_of_succ_lt long)
        · simpa [List.length_append, Nat.add_assoc] using length
        · exact fun part member => small part (by simp [member])
        · exact readSide_joined fun part member => small part (by simp [member])
      · rw [if_neg long]
        exact readV6_joined length small

/-! ## The characters of a text -/

theorem not_mem_joined {c : Char} (other : digitValue c = none) (colon : c ≠ ':')
    (parts : List Nat) : c ∉ joined parts := by
  have digits : ∀ part : Nat, c ∉ Nat.toDigits 16 part := fun part =>
    not_mem_toDigits (by decide) (by decide) part other
  induction parts with
  | nil => exact List.not_mem_nil
  | cons first rest ih =>
      cases rest with
      | nil => simpa [joined] using digits first
      | cons second rest =>
          rw [joined_cons_cons]
          simp [digits, colon, ih]

/-- The text of an IPv6 address has digits, colons and dots only. -/
theorem not_mem_displayV6 {c : Char} (other : digitValue c = none) (colon : c ≠ ':')
    (dot : c ≠ '.') (bits : BitVec 128) : c ∉ displayV6 bits := by
  unfold displayV6
  split
  · rename_i short _
    have letters : "::ffff:".toList = [':', ':', 'f', 'f', 'f', 'f', ':'] := String.toList_ofList
    have digit : c ≠ 'f' := by
      rintro rfl
      exact absurd other (by decide)
    intro member
    rcases List.mem_append.mp member with early | late
    · rw [letters] at early
      simp [colon, digit] at early
    · exact not_mem_displayV4 other dot short late
  · dsimp only
    split
    · simp [not_mem_joined other colon, colon]
    · exact not_mem_joined other colon _

/-- An IPv6 address is known by its colons. -/
theorem colon_mem_displayV6 (bits : BitVec 128) : ':' ∈ displayV6 bits := by
  unfold displayV6
  split
  · exact List.mem_append_left _ (by simp)
  · dsimp only
    split
    · simp
    · simp [joined, segments, decompose, List.intercalate_cons_cons]

end IpAddr

end XanhTab
