import XanhTab.Release.Evaluator

/-!
# What the verdict says

The filters print one line for each row that passes, and the verdict compares
what they print with a single `pass`.  So it says what the criteria say as long
as the release profile has been measured once.
-/

namespace XanhTab

namespace Evaluator

/-! ## More and other rows -/

/-- One more row of a file. -/
inductive Measurement
  | sample (line : Line)
  | stream (line : Line)
  | latency (line : Line)
  deriving DecidableEq, Repr

def Measurement.isSample : Measurement → Bool
  | sample _ => true
  | stream _ | latency _ => false

/-- The row consists of numbers and violates a criterion. -/
def Measurement.Fails (awk : Awk) : Measurement → Prop
  | sample line => SampleNumeric awk line ∧ ¬ SampleGood awk line
  | stream line => hasProfile releaseProfile line = true ∧ StreamNumeric awk line ∧
      ¬ StreamGood awk line
  | latency line => hasProfile releaseProfile line = true ∧ Numeric awk line 2 ∧
      ¬ LatencyGood awk line

/-- The rows of one file, with one more somewhere among them. -/
inductive Adds : Measurement → Results → Results → Prop
  | sample {line header : Line} {lines lines' stream latency : List Line} :
      lines'.Perm (line :: lines) →
      Adds (.sample line) ⟨header :: lines, stream, latency⟩ ⟨header :: lines', stream, latency⟩
  | stream {line : Line} {samples stream stream' latency : List Line} :
      stream'.Perm (line :: stream) →
      Adds (.stream line) ⟨samples, stream, latency⟩ ⟨samples, stream', latency⟩
  | latency {line : Line} {samples stream latency latency' : List Line} :
      latency'.Perm (line :: latency) →
      Adds (.latency line) ⟨samples, stream, latency⟩ ⟨samples, stream, latency'⟩

/-- The same rows in another order. -/
inductive Reorders : Results → Results → Prop
  | rows {header : Line} {lines lines' stream stream' latency latency' : List Line} :
      lines'.Perm lines → stream'.Perm stream → latency'.Perm latency →
      Reorders ⟨header :: lines, stream, latency⟩ ⟨header :: lines', stream', latency'⟩

/-! ## The property and its condition -/

/-- The verdict is that of the criteria, it does not depend on the order of the
rows, and it is not GO with one more row that fails, whatever it was before. -/
structure Sound (awk : Awk) (results : Results) (measurement : Measurement) : Prop where
  verdict : evaluate awk results = 0 ↔ Criteria awk results
  order : ∀ results', Reorders results results' → evaluate awk results' = evaluate awk results
  never : ∀ results', Adds measurement results results' → evaluate awk results ≠ 0 →
    evaluate awk results' ≠ 0
  stands : ∀ results', Adds measurement results results' → evaluate awk results = 0 →
    evaluate awk results' ≠ 0

/-- Exactly one row of the release profile passes in each of the two files. -/
def OneEach (awk : Awk) (results : Results) : Prop :=
  Once (streamPasses awk) results.stream ∧ Once (latencyPasses awk) results.latency

/-- All rows of the release profile pass in each of the two files. -/
def AllEach (awk : Awk) (results : Results) : Prop :=
  Every (streamPasses awk) results.stream ∧ Every (latencyPasses awk) results.latency

/-- A sample is bad, or the release profile has been measured at most once, or
the rows of the profile decide neither way. -/
def Unambiguous (awk : Awk) (results : Results) : Prop :=
  ¬ SamplesPass awk results.samples ∨
    ((tested results.stream).length ≤ 1 ∧ (tested results.latency).length ≤ 1) ∨
    (¬ OneEach awk results ∧ ¬ AllEach awk results)

/-- The row is a sample, or one of the others would not have been enough. -/
def Noticed (awk : Awk) (results : Results) (measurement : Measurement) : Prop :=
  measurement.isSample = true ∨ ¬ SamplesPass awk results.samples ∨ ¬ OneEach awk results

variable {awk : Awk} {results results' : Results} {measurement : Measurement}

theorem verdict_iff (wellFormed : results.WellFormed awk) :
    (evaluate awk results = 0 ↔ Criteria awk results) ↔ Unambiguous awk results := by
  rw [evaluate_eq_zero_iff, criteria_iff wellFormed]
  unfold Unambiguous OneEach AllEach
  have present := wellFormed.samples
  by_cases good : SamplesPass awk results.samples
  · by_cases single : (tested results.stream).length ≤ 1 ∧ (tested results.latency).length ≤ 1
    · have stream : Once (streamPasses awk) results.stream ↔ Every (streamPasses awk) results.stream :=
        once_iff_every single.1
      have latency :
          Once (latencyPasses awk) results.latency ↔ Every (latencyPasses awk) results.latency :=
        once_iff_every single.2
      simp [present, good, single, stream, latency]
    · have apart : ¬ ((Once (streamPasses awk) results.stream ∧
          Once (latencyPasses awk) results.latency) ∧
          Every (streamPasses awk) results.stream ∧ Every (latencyPasses awk) results.latency) := by
        rintro ⟨⟨oneStream, oneLatency⟩, allStream, allLatency⟩
        apply single
        constructor
        · by_contra several
          exact not_every_of_once (Nat.lt_of_not_le several) oneStream allStream
        · by_contra several
          exact not_every_of_once (Nat.lt_of_not_le several) oneLatency allLatency
      simp only [ne_eq, present, not_false_eq_true, true_and, good, single, false_or, not_true]
      tauto
  · simp [good]

/-! ## Reordering -/

theorem floor_perm {passes : Line → Bool} {lines lines' : List Line} (same : lines'.Perm lines) :
    floor passes lines' = floor passes lines := by
  unfold floor
  rw [List.map_const', List.map_const', (same.filter _).length_eq]

theorem unlessBad_perm {bad : Line → Bool} {header : Line} {lines lines' : List Line}
    (same : lines'.Perm lines) :
    unlessBad bad (header :: lines') = unlessBad bad (header :: lines) := by
  unfold unlessBad
  rw [List.tail_cons, List.tail_cons, same.any_eq]

theorem eq_nil_iff_of_perm {lines lines' : List Line} (same : lines'.Perm lines) :
    lines' = [] ↔ lines = [] := by
  rw [← List.length_eq_zero_iff, ← List.length_eq_zero_iff, same.length_eq]

theorem evaluate_reorders (reorders : Reorders results results') :
    evaluate awk results' = evaluate awk results := by
  cases reorders with
  | rows lines stream latency =>
      unfold evaluate
      simp only [floor_perm stream, floor_perm latency, unlessBad_perm lines, reduceCtorEq,
        eq_nil_iff_of_perm stream, eq_nil_iff_of_perm latency]

/-! ## One more row -/

/-- A row that does not pass does not count. -/
theorem once_cons_iff {passes : Line → Bool} {line : Line} {lines lines' : List Line}
    (added : lines'.Perm (line :: lines)) (fails : passes line = false) :
    Once passes lines' ↔ Once passes lines := by
  have same : (passing passes lines').length = (passing passes lines).length := by
    unfold passing tested
    rw [List.filter_filter, List.filter_filter, (added.filter _).length_eq,
      List.filter_cons_of_neg (by simp [fails])]
  unfold Once
  rw [same]

/-- With a row that fails the verdict is GO only if the row is no sample and the
verdict was GO without it. -/
theorem evaluate_adds_iff (fails : measurement.Fails awk) (adds : Adds measurement results results') :
    evaluate awk results' = 0 ↔ measurement.isSample = false ∧ evaluate awk results = 0 := by
  rw [evaluate_eq_zero_iff, evaluate_eq_zero_iff]
  cases adds with
  | @sample line header lines lines' stream latency added =>
      have bad : ¬ SamplesPass awk (header :: lines') := by
        intro passes
        have good := passes line (added.mem_iff.mpr List.mem_cons_self)
        exact fails.2 ((sampleGood_iff fails.1).mpr good)
      simp [bad, Measurement.isSample]
  | @stream line samples stream stream' latency added =>
      have unpassed : streamPasses awk line = false := by
        rw [← Bool.not_eq_true, streamPasses_iff fails.2.1]
        exact fails.2.2
      simp only [once_cons_iff added unpassed, Measurement.isSample, true_and]
  | @latency line samples stream latency latency' added =>
      have unpassed : latencyPasses awk line = false := by
        rw [← Bool.not_eq_true, latencyPasses_iff fails.2.1]
        exact fails.2.2
      simp only [once_cons_iff added unpassed, Measurement.isSample, true_and]

theorem exists_adds (present : results.samples ≠ []) (measurement : Measurement) :
    ∃ results', Adds measurement results results' := by
  rcases results with ⟨_ | ⟨header, lines⟩, stream, latency⟩
  · exact absurd rfl present
  · cases measurement with
    | sample line => exact ⟨_, .sample (List.Perm.refl _)⟩
    | stream line => exact ⟨_, .stream (List.Perm.refl _)⟩
    | latency line => exact ⟨_, .latency (List.Perm.refl _)⟩

theorem stands_iff (wellFormed : results.WellFormed awk) (fails : measurement.Fails awk) :
    (∀ results', Adds measurement results results' → evaluate awk results = 0 →
      evaluate awk results' ≠ 0) ↔ Noticed awk results measurement := by
  have go : evaluate awk results = 0 ↔
      SamplesPass awk results.samples ∧ OneEach awk results := by
    rw [evaluate_eq_zero_iff]
    unfold OneEach
    constructor
    · rintro ⟨_, stream, samples, latency⟩
      exact ⟨samples, stream, latency⟩
    · rintro ⟨samples, stream, latency⟩
      exact ⟨wellFormed.samples, stream, samples, latency⟩
  unfold Noticed
  constructor
  · intro stands
    rcases exists_adds wellFormed.samples measurement with ⟨results', adds⟩
    by_cases sample : measurement.isSample = true
    · exact Or.inl sample
    · refine Or.inr (not_and_or.mp ?_)
      intro both
      have before := go.mpr both
      apply stands results' adds before
      exact (evaluate_adds_iff fails adds).mpr ⟨Bool.eq_false_of_not_eq_true sample, before⟩
  · intro noticed results' adds before after
    rcases (evaluate_adds_iff fails adds).mp after with ⟨other, _⟩
    rcases go.mp before with ⟨samples, one⟩
    rcases noticed with sample | bad | several
    · rw [other] at sample
      cases sample
    · exact bad samples
    · exact several one

end Evaluator

open Evaluator

/-- The verdict is sound exactly if the rows of the release profile are
unambiguous and the row that fails is noticed. -/
theorem sound_iff {awk : Awk} {results : Results} {measurement : Measurement}
    (wellFormed : results.WellFormed awk) (fails : measurement.Fails awk) :
    Sound awk results measurement ↔
      Unambiguous awk results ∧ Noticed awk results measurement := by
  constructor
  · intro sound
    exact ⟨(verdict_iff wellFormed).mp sound.verdict, (stands_iff wellFormed fails).mp sound.stands⟩
  · rintro ⟨unambiguous, noticed⟩
    constructor
    · exact (verdict_iff wellFormed).mpr unambiguous
    · exact fun results' reorders => evaluate_reorders reorders
    · intro results' adds before after
      exact before ((evaluate_adds_iff fails adds).mp after).2
    · exact (stands_iff wellFormed fails).mpr noticed

/-- Files that are there, with numbers in all the fields that are read. -/
def Evaluator.Results.isWellFormed (awk : Awk) (results : Results) : Bool :=
  results.samples ≠ [] && results.stream ≠ [] && results.latency ≠ [] &&
    (results.samples.tail.all fun line => [4, 8].all fun n => (measured awk line n).isSome) &&
    ((tested results.stream).all fun line => [2, 4, 5].all fun n => (measured awk line n).isSome) &&
    (tested results.latency).all fun line => (measured awk line 2).isSome

theorem Evaluator.Results.wellFormed_of_check {awk : Awk} {results : Results}
    (checked : results.isWellFormed awk = true) : results.WellFormed awk := by
  simp only [isWellFormed, Bool.and_eq_true, decide_eq_true_eq, List.all_eq_true, List.all_cons,
    List.all_nil, Bool.and_true, Option.isSome_iff_exists] at checked
  rcases checked with ⟨⟨⟨⟨⟨samples, stream⟩, latency⟩, sampleNumbers⟩, streamNumbers⟩, latencyNumbers⟩
  exact ⟨samples, stream, latency, sampleNumbers, streamNumbers, latencyNumbers⟩

namespace Sample

/-- Digits read as a natural number. -/
def digits (text : List Char) : Option Nat :=
  if text = [] ∨ ¬ text.all Char.isDigit then none
  else some (text.foldl (fun value c => 10 * value + (c.toNat - '0'.toNat)) 0)

/-- Numbers without sign, point or exponent. -/
def awk : Awk where
  number text := (digits text).map fun value => value

/-- A line of text. -/
def row (text : String) : Line :=
  text.toList

/-- The release profile is measured twice, and fails the second time. -/
def repeated : Results where
  samples := [row ("timestamp,profile,site_index,mem_available_mib,temperature_c,throttled," ++
      "wifi_signal_dbm,browser_tree_rss_kib,browser_tree_cpu_percent"),
    row "2026-08-20T10:00:00Z,720p15,1,120,55,0x0,-50,300000,80"]
  stream := [row "profile,drop_percent,packet_loss_percent,oom_count,sustained_throttle_seconds",
    row "720p15,1,0,0,0", row "720p15,40,0,3,0"]
  latency := [row "profile,input_to_paint_p95_ms", row "720p15,180"]

/-- The release profile is measured once. -/
def single : Results :=
  { repeated with stream := repeated.stream.take 2 }

/-- A sample that leaves too little memory. -/
def exhausted : Measurement :=
  .sample (row "2026-08-20T11:00:00Z,720p15,2,12,60,0x0,-52,320000,95")

end Sample

/-- Two runs of the release profile, one of which dropped frames and ran out of
memory, are GO. -/
theorem not_verdict_of_repeated :
    ¬ ∀ (awk : Awk) (results : Results), results.WellFormed awk →
      (evaluate awk results = 0 ↔ Criteria awk results) := by
  intro always
  have wellFormed : Sample.repeated.WellFormed Sample.awk := by
    apply Evaluator.Results.wellFormed_of_check
    decide +kernel
  have go : evaluate Sample.awk Sample.repeated = 0 := by
    decide +kernel
  have criteria := (always Sample.awk Sample.repeated wellFormed).mp go
  have there : Sample.row "720p15,40,0,3,0" ∈ tested Sample.repeated.stream := by
    decide +kernel
  rcases criteria.stream.2 _ there with ⟨⟨drop, read, below⟩, _⟩
  have dropped : measured Sample.awk (Sample.row "720p15,40,0,3,0") 2 = some 40 := by
    decide +kernel
  rw [dropped] at read
  rw [← Option.some.inj read] at below
  exact absurd below (by decide)

/-- One run of the release profile, and a sample that fails. -/
theorem sound_iff_of_single : Sound Sample.awk Sample.single Sample.exhausted := by
  have wellFormed : Sample.single.WellFormed Sample.awk := by
    apply Evaluator.Results.wellFormed_of_check
    decide +kernel
  have memory : measured Sample.awk (Sample.row
      "2026-08-20T11:00:00Z,720p15,2,12,60,0x0,-52,320000,95") 4 = some 12 := by
    decide +kernel
  have size : measured Sample.awk (Sample.row
      "2026-08-20T11:00:00Z,720p15,2,12,60,0x0,-52,320000,95") 8 = some 320000 := by
    decide +kernel
  have fails : Sample.exhausted.Fails Sample.awk := by
    refine ⟨⟨⟨12, memory⟩, ⟨320000, size⟩⟩, ?_⟩
    rintro ⟨⟨available, read, enough⟩, _⟩
    rw [memory] at read
    rw [← Option.some.inj read] at enough
    exact absurd enough (by decide)
  have once : (tested Sample.single.stream).length ≤ 1 ∧
      (tested Sample.single.latency).length ≤ 1 := by
    decide +kernel
  exact (sound_iff wellFormed fails).mpr ⟨Or.inr (Or.inl once), Or.inl rfl⟩

end XanhTab
