import Mathlib.Algebra.Order.Ring.Rat
import Mathlib.Data.List.Perm.Basic

/-!
# The release evaluator

`evaluate-x0.sh`, over files as their lists of lines.  What `awk` reads a field
as is a parameter; a comparison is one of numbers if the field looks like a
number, and one of texts if it does not.
-/

namespace XanhTab.Evaluator

abbrev Line := List Char

/-- The number that `awk` reads a field as, if the field looks like one. -/
structure Awk where
  number : List Char → Option ℚ

/-- `$n`, if the line has so many fields. -/
def field (line : Line) (n : Nat) : Option (List Char) :=
  (line.splitOn ',')[n - 1]?

namespace Awk

variable (awk : Awk)

/-- `$n < bound`. -/
def below (line : Line) (n bound : Nat) : Bool :=
  match field line n with
  | none => 0 < bound
  | some text =>
      match awk.number text with
      | some value => value < bound
      | none => text < (toString bound).toList

/-- `$n == 0`. -/
def isZero (line : Line) (n : Nat) : Bool :=
  match field line n with
  | none => true
  | some text =>
      match awk.number text with
      | some value => value = 0
      | none => text = ['0']

end Awk

/-- `$1 == profile`. -/
def hasProfile (profile : String) (line : Line) : Bool :=
  (field line 1).getD [] = profile.toList

/-- The release profile. -/
def releaseProfile : String :=
  "720p15"

/-- What a command substitution makes of lines that are not empty. -/
def captured (printed : List (List Char)) : List Char :=
  ['\n'].intercalate printed

def pass : List Char :=
  "pass".toList

/-! ## The filters -/

/-- The stream filter of a profile. -/
def streamPasses (awk : Awk) (line : Line) : Bool :=
  awk.below line 2 2 && awk.isZero line 4 && awk.isZero line 5

def latencyPasses (awk : Awk) (line : Line) : Bool :=
  awk.below line 2 250

/-- One `pass` for each line of the profile that passes. -/
def floor (passes : Line → Bool) (lines : List Line) : List Char :=
  captured ((lines.filter fun line => hasProfile releaseProfile line && passes line).map
    fun _ => pass)

/-- One `pass` unless a line after the first is bad. -/
def unlessBad (bad : Line → Bool) (lines : List Line) : List Char :=
  captured (if lines.tail.any bad then [] else [pass])

/-! ## The verdict -/

/-- The captured files.  A file that is missing has no lines either. -/
structure Results where
  samples : List Line
  stream : List Line
  latency : List Line
  deriving DecidableEq, Repr

/-- The exit status of the script: 0 is GO, 1 is NO-GO, 2 is incomplete. -/
def evaluate (awk : Awk) (results : Results) : Nat :=
  if results.samples = [] ∨ results.stream = [] ∨ results.latency = [] then 2
  else if floor (streamPasses awk) results.stream = pass ∧
      unlessBad (fun line => awk.below line 4 48) results.samples = pass ∧
      unlessBad (fun line => !awk.below line 8 409600) results.samples = pass ∧
      floor (latencyPasses awk) results.latency = pass then 0
  else 1

/-! ## The criteria -/

/-- The number in a field. -/
def measured (awk : Awk) (line : Line) (n : Nat) : Option ℚ :=
  (field line n).bind awk.number

/-- Less than 2% of the frames dropped, no OOM, no sustained throttle. -/
def StreamGood (awk : Awk) (line : Line) : Prop :=
  (∃ drop, measured awk line 2 = some drop ∧ drop < 2) ∧ measured awk line 4 = some 0 ∧
    measured awk line 5 = some 0

/-- Latency below 250 ms. -/
def LatencyGood (awk : Awk) (line : Line) : Prop :=
  ∃ latency, measured awk line 2 = some latency ∧ latency < 250

/-- At least 48 MiB available, and the browser tree below 400 MiB. -/
def SampleGood (awk : Awk) (line : Line) : Prop :=
  (∃ available, measured awk line 4 = some available ∧ 48 ≤ available) ∧
    ∃ resident, measured awk line 8 = some resident ∧ resident < 409600

/-- The lines of the release profile. -/
def tested (lines : List Line) : List Line :=
  lines.filter (hasProfile releaseProfile)

/-- There is a line of the release profile, and all of them are good. -/
def AllGood (good : Line → Prop) (lines : List Line) : Prop :=
  tested lines ≠ [] ∧ ∀ line ∈ tested lines, good line

/-- What a release needs. -/
structure Criteria (awk : Awk) (results : Results) : Prop where
  stream : AllGood (StreamGood awk) results.stream
  latency : AllGood (LatencyGood awk) results.latency
  samples : ∀ line ∈ results.samples.tail, SampleGood awk line

/-- The field is there and looks like a number. -/
def Numeric (awk : Awk) (line : Line) (n : Nat) : Prop :=
  ∃ value, measured awk line n = some value

def StreamNumeric (awk : Awk) (line : Line) : Prop :=
  Numeric awk line 2 ∧ Numeric awk line 4 ∧ Numeric awk line 5

def SampleNumeric (awk : Awk) (line : Line) : Prop :=
  Numeric awk line 4 ∧ Numeric awk line 8

/-- The files are there, and what is measured in them are numbers. -/
structure Results.WellFormed (awk : Awk) (results : Results) : Prop where
  samples : results.samples ≠ []
  stream : results.stream ≠ []
  latency : results.latency ≠ []
  sampleNumbers : ∀ line ∈ results.samples.tail, SampleNumeric awk line
  streamNumbers : ∀ line ∈ tested results.stream, StreamNumeric awk line
  latencyNumbers : ∀ line ∈ tested results.latency, Numeric awk line 2

/-! ## The filters on numbers -/

section Filters

variable {awk : Awk} {line : Line} {n bound : Nat}

theorem below_iff {value : ℚ} (number : measured awk line n = some value) :
    awk.below line n bound = true ↔ value < bound := by
  rcases Option.bind_eq_some_iff.mp number with ⟨text, present, read⟩
  simp [Awk.below, present, read]

theorem isZero_iff {value : ℚ} (number : measured awk line n = some value) :
    awk.isZero line n = true ↔ value = 0 := by
  rcases Option.bind_eq_some_iff.mp number with ⟨text, present, read⟩
  simp [Awk.isZero, present, read]

theorem streamPasses_iff (numeric : StreamNumeric awk line) :
    streamPasses awk line = true ↔ StreamGood awk line := by
  rcases numeric with ⟨⟨drop, dropped⟩, ⟨oom, ooms⟩, ⟨throttle, throttled⟩⟩
  unfold streamPasses StreamGood
  rw [Bool.and_eq_true, Bool.and_eq_true, below_iff dropped, isZero_iff ooms,
    isZero_iff throttled, dropped, ooms, throttled]
  simp [and_assoc]

theorem latencyPasses_iff (numeric : Numeric awk line 2) :
    latencyPasses awk line = true ↔ LatencyGood awk line := by
  rcases numeric with ⟨latency, measurement⟩
  unfold latencyPasses LatencyGood
  rw [below_iff measurement, measurement]
  simp

theorem sampleGood_iff (numeric : SampleNumeric awk line) :
    SampleGood awk line ↔ awk.below line 4 48 = false ∧ awk.below line 8 409600 = true := by
  rcases numeric with ⟨⟨available, memory⟩, ⟨resident, size⟩⟩
  unfold SampleGood
  rw [← Bool.not_eq_true, below_iff memory, below_iff size, memory, size]
  simp [not_lt]

end Filters

/-! ## The verdict on numbers -/

/-- The lines of the release profile that pass. -/
def passing (passes : Line → Bool) (lines : List Line) : List Line :=
  (tested lines).filter passes

/-- Exactly one line of the release profile passes. -/
def Once (passes : Line → Bool) (lines : List Line) : Prop :=
  (passing passes lines).length = 1

/-- There is a line of the release profile, and all of them pass. -/
def Every (passes : Line → Bool) (lines : List Line) : Prop :=
  tested lines ≠ [] ∧ ∀ line ∈ tested lines, passes line = true

/-- No sample is bad. -/
def SamplesPass (awk : Awk) (lines : List Line) : Prop :=
  ∀ line ∈ lines.tail, awk.below line 4 48 = false ∧ awk.below line 8 409600 = true

theorem captured_pass_iff {lines : List Line} :
    captured (lines.map fun _ => pass) = pass ↔ lines.length = 1 := by
  cases lines with
  | nil => simp [captured, List.intercalate, pass]
  | cons first rest =>
      cases rest with
      | nil => simp [captured, List.intercalate]
      | cons second rest =>
          constructor
          · intro equal
            have lengths := congrArg List.length equal
            simp [captured, List.intercalate, pass] at lengths
          · intro length
            simp at length

theorem floor_eq_pass_iff {passes : Line → Bool} {lines : List Line} :
    floor passes lines = pass ↔ Once passes lines := by
  unfold floor Once passing tested
  rw [captured_pass_iff, List.filter_filter]
  simp only [Bool.and_comm]

theorem unlessBad_eq_pass_iff {bad : Line → Bool} {lines : List Line} :
    unlessBad bad lines = pass ↔ ∀ line ∈ lines.tail, bad line = false := by
  unfold unlessBad
  by_cases some : lines.tail.any bad = true
  · rw [if_pos some]
    constructor
    · intro equal
      simp [captured, List.intercalate, pass] at equal
    · intro none
      rcases List.any_eq_true.mp some with ⟨line, member, bad⟩
      rw [none line member] at bad
      cases bad
  · rw [if_neg some]
    constructor
    · intro _ line member
      cases found : bad line with
      | false => rfl
      | true => exact absurd (List.any_eq_true.mpr ⟨line, member, found⟩) some
    · intro _
      simp [captured, List.intercalate]

theorem ne_nil_of_once {passes : Line → Bool} {lines : List Line} (once : Once passes lines) :
    lines ≠ [] := by
  rintro rfl
  cases once

theorem evaluate_eq_zero_iff {awk : Awk} {results : Results} :
    evaluate awk results = 0 ↔
      results.samples ≠ [] ∧ Once (streamPasses awk) results.stream ∧
        SamplesPass awk results.samples ∧ Once (latencyPasses awk) results.latency := by
  have samples : (unlessBad (fun line => awk.below line 4 48) results.samples = pass ∧
      unlessBad (fun line => !awk.below line 8 409600) results.samples = pass) ↔
        SamplesPass awk results.samples := by
    rw [unlessBad_eq_pass_iff, unlessBad_eq_pass_iff]
    constructor
    · rintro ⟨memory, size⟩ line member
      exact ⟨memory line member, by simpa using size line member⟩
    · intro passes
      exact ⟨fun line member => (passes line member).1,
        fun line member => by simpa using (passes line member).2⟩
  unfold evaluate
  by_cases missing : results.samples = [] ∨ results.stream = [] ∨ results.latency = []
  · rw [if_pos missing]
    constructor
    · intro impossible
      cases impossible
    · rintro ⟨present, stream, _, latency⟩
      rcases missing with none | none | none
      · exact absurd none present
      · exact absurd none (ne_nil_of_once stream)
      · exact absurd none (ne_nil_of_once latency)
  · rw [if_neg missing]
    have present : results.samples ≠ [] := fun none => missing (Or.inl none)
    by_cases go : floor (streamPasses awk) results.stream = pass ∧
        unlessBad (fun line => awk.below line 4 48) results.samples = pass ∧
        unlessBad (fun line => !awk.below line 8 409600) results.samples = pass ∧
        floor (latencyPasses awk) results.latency = pass
    · rw [if_pos go]
      rcases go with ⟨stream, memory, size, latency⟩
      exact ⟨fun _ => ⟨present, floor_eq_pass_iff.mp stream, samples.mp ⟨memory, size⟩,
        floor_eq_pass_iff.mp latency⟩, fun _ => rfl⟩
    · rw [if_neg go]
      constructor
      · intro impossible
        cases impossible
      · rintro ⟨_, stream, passes, latency⟩
        refine absurd ?_ go
        rcases samples.mpr passes with ⟨memory, size⟩
        exact ⟨floor_eq_pass_iff.mpr stream, memory, size, floor_eq_pass_iff.mpr latency⟩

/-- On numbers, the criteria are that every line passes. -/
theorem criteria_iff {awk : Awk} {results : Results} (wellFormed : results.WellFormed awk) :
    Criteria awk results ↔ Every (streamPasses awk) results.stream ∧
      SamplesPass awk results.samples ∧ Every (latencyPasses awk) results.latency := by
  constructor
  · rintro ⟨⟨streamed, stream⟩, ⟨timed, latency⟩, samples⟩
    refine ⟨⟨streamed, fun line member => ?_⟩, fun line member => ?_,
      ⟨timed, fun line member => ?_⟩⟩
    · exact (streamPasses_iff (wellFormed.streamNumbers line member)).mpr (stream line member)
    · exact (sampleGood_iff (wellFormed.sampleNumbers line member)).mp (samples line member)
    · exact (latencyPasses_iff (wellFormed.latencyNumbers line member)).mpr (latency line member)
  · rintro ⟨⟨streamed, stream⟩, samples, ⟨timed, latency⟩⟩
    constructor
    · exact ⟨streamed, fun line member =>
        (streamPasses_iff (wellFormed.streamNumbers line member)).mp (stream line member)⟩
    · exact ⟨timed, fun line member =>
        (latencyPasses_iff (wellFormed.latencyNumbers line member)).mp (latency line member)⟩
    · exact fun line member =>
        (sampleGood_iff (wellFormed.sampleNumbers line member)).mpr (samples line member)

/-- Of at most one line, one passes exactly if there is one and it does. -/
theorem once_iff_every {passes : Line → Bool} {lines : List Line}
    (single : (tested lines).length ≤ 1) : Once passes lines ↔ Every passes lines := by
  unfold Once Every passing
  cases lone : tested lines with
  | nil => simp
  | cons line rest =>
      rw [lone] at single
      cases rest with
      | nil =>
          by_cases good : passes line = true
          · simp [good]
          · simp [good]
      | cons other rest => simp at single

/-- Of more lines, not exactly one passes if all do. -/
theorem not_every_of_once {passes : Line → Bool} {lines : List Line}
    (several : 1 < (tested lines).length) (once : Once passes lines) : ¬ Every passes lines := by
  rintro ⟨_, every⟩
  unfold Once passing at once
  rw [List.filter_eq_self.mpr every] at once
  omega

end XanhTab.Evaluator
