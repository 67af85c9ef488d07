import Mathlib.Data.List.Induction
import Reckoner.Proofs.CommandLine.Scan

/-!
# Options by their tally

What options come to depends on how often each choice is made, and on nothing else. Counting
flags may be repeated at will: their counts stop at 255. The banner can be hidden once and a
language given once; a second time is refused.

The invariant of the scan is `Reading.Reflects`: the reading holds the tally of the choices made
so far. `Reading.Reflects.counts` says what one choice does to it, and `Reading.foldlM_grant`
carries it through all of them.

* `toOption_parse_render`: the options that the arguments of some occurrences come to.
* `parse_by_choices`: they are accepted iff no single choice is made twice; order, grouping and
  spelling do not matter; and all options can be asked for.
-/

namespace Reckoner.CommandLine

/-! ## Counts -/

theorem toNat_ofNat_min (n : Nat) : (UInt8.ofNat (min 255 n)).toNat = min 255 n := by
  rw [UInt8.toNat_ofNat']
  omega

theorem ofNat_min_eq_zero_iff (n : Nat) : UInt8.ofNat (min 255 n) = 0 ↔ n = 0 := by
  have hzero : (0 : UInt8).toNat = 0 := rfl
  rw [← UInt8.toNat_inj, toNat_ofNat_min, hzero]
  omega

theorem ofNat_min_toNat (n : UInt8) : UInt8.ofNat (min 255 n.toNat) = n := by
  have hlt := n.toNat_lt
  have hmin : min 255 n.toNat = n.toNat := by
    omega
  rw [hmin, UInt8.ofNat_toNat]

/-- One more is counted up to 255, where a count stays. -/
theorem increment_ofNat (n : Nat) :
    Reading.increment (UInt8.ofNat (min 255 n)) = UInt8.ofNat (min 255 (n + 1)) := by
  have hcount := toNat_ofNat_min n
  unfold Reading.increment
  split
  · rename_i hfull
    rw [hfull] at hcount
    have hmore : min 255 (n + 1) = 255 := by
      change 255 = _ at hcount
      omega
    rw [hmore]
    rfl
  · rename_i hroom
    have hless : min 255 n ≠ 255 := fun h => hroom (by rw [h]; rfl)
    have hmore : min 255 (n + 1) = min 255 n + 1 := by
      omega
    rw [hmore, UInt8.ofNat_add]
    rfl

/-! ## Tallies -/

/-- The languages among some choices. -/
def languages (choices : List Choice) : List Language :=
  choices.filterMap Choice.language?

/-- No choice is made twice that can be made once. -/
def Admissible (choices : List Choice) : Prop :=
  choices.count .hideBanner ≤ 1 ∧ (languages choices).length ≤ 1

instance (choices : List Choice) : Decidable (Admissible choices) :=
  inferInstanceAs (Decidable (_ ∧ _))

/-- The options that some choices come to. -/
def optionsOf (choices : List Choice) : Options where
  language := (languages choices).head?.getD .english
  noBanner := decide (.hideBanner ∈ choices)
  quiet := UInt8.ofNat (min 255 (choices.count (.raise .quiet)))
  verbose := UInt8.ofNat (min 255 (choices.count (.raise .verbose)))

theorem languages_cons (choice : Choice) (choices : List Choice) :
    languages (choice :: choices) = choice.language?.toList ++ languages choices := by
  cases choice <;> rfl

theorem languages_append (choices others : List Choice) :
    languages (choices ++ others) = languages choices ++ languages others :=
  List.filterMap_append

theorem languages_concat (choices : List Choice) (choice : Choice) :
    languages (choices ++ [choice]) = languages choices ++ choice.language?.toList := by
  rw [languages_append, languages_cons]
  exact congrArg _ (List.append_nil _)

theorem Admissible.of_concat {choices : List Choice} {choice : Choice}
    (h : Admissible (choices ++ [choice])) : Admissible choices := by
  obtain ⟨hbanner, hlanguage⟩ := h
  rw [List.count_append] at hbanner
  rw [languages_concat, List.length_append] at hlanguage
  exact ⟨by omega, by omega⟩

theorem languages_perm {choices others : List Choice} (h : others.Perm choices) :
    (languages others).Perm (languages choices) :=
  h.filterMap Choice.language?

theorem admissible_perm {choices others : List Choice} (h : others.Perm choices) :
    Admissible others ↔ Admissible choices := by
  rw [Admissible, Admissible, h.count_eq, (languages_perm h).length_eq]

/-- At most one language is given, so its place among the choices does not matter. -/
theorem optionsOf_perm {choices others : List Choice} (hadmissible : Admissible choices)
    (h : others.Perm choices) : optionsOf others = optionsOf choices := by
  have hlanguages : languages others = languages choices := by
    have hsame := languages_perm h
    obtain ⟨_, hfew⟩ := hadmissible
    cases hlist : languages choices with
    | nil =>
      rw [hlist] at hsame
      exact hsame.eq_nil
    | cons language rest =>
      rw [hlist] at hsame hfew
      obtain rfl : rest = [] := by simpa using hfew
      exact List.perm_singleton.mp hsame
  simp only [optionsOf, hlanguages, h.count_eq, h.mem_iff]

namespace Reading

/-! ## One choice -/

theorem contains_use (r : Reading) (flag : Flag) :
    (r.use flag).used.contains .lang = (r.used.contains .lang || flag == .lang) := by
  simp only [use, List.contains_eq_mem, List.mem_append, List.mem_filter, List.mem_singleton]
  cases flag <;> simp

/-- A reading holds the tally of some choices. -/
structure Reflects (r : Reading) (choices : List Choice) : Prop where
  options : r.options = optionsOf choices
  used : r.used.contains .lang = !(languages choices).isEmpty

theorem reflects_start : Reflects .start [] :=
  ⟨rfl, rfl⟩

theorem Reflects.use {r : Reading} {choices : List Choice} {options : Options} {flag : Flag}
    (h : Reflects r choices) {choice : Choice}
    (hoptions : options = optionsOf (choices ++ [choice]))
    (hflag : (flag == .lang) = choice.language?.isSome) :
    Reflects (Reading.use { r with options } flag) (choices ++ [choice]) := by
  refine ⟨hoptions, ?_⟩
  have hused := h.used
  rw [contains_use, hflag, languages_concat]
  cases hlanguage : choice.language? <;> simp_all

/-- A choice is counted, or it is refused because it was made before. -/
def Counts (r : Reading) (choices : List Choice) (choice : Choice) : Prop :=
  (Admissible (choices ++ [choice]) ∧
    ∃ s, r.grant choice = .ok s ∧ Reflects s (choices ++ [choice])) ∨
  (¬ Admissible (choices ++ [choice]) ∧ ∃ stop, r.grant choice = .error stop)

section

variable {r : Reading} {choices : List Choice}

/-- A counting flag can be repeated at will. -/
theorem Reflects.raise (h : Reflects r choices) (hadmissible : Admissible choices)
    (counter : Counter) : Counts r choices (.raise counter) := by
  have hstill : Admissible (choices ++ [.raise counter]) := by
    refine ⟨?_, ?_⟩
    · simpa using hadmissible.1
    · simpa [languages_concat, Choice.language?] using hadmissible.2
  refine .inl ⟨hstill, ?_⟩
  cases counter with
  | quiet =>
    refine ⟨_, rfl, h.use ?_ rfl⟩
    simp [h.options, optionsOf, increment_ofNat, languages_concat, Choice.language?]
  | verbose =>
    refine ⟨_, rfl, h.use ?_ rfl⟩
    simp [h.options, optionsOf, increment_ofNat, languages_concat, Choice.language?]

theorem Reflects.hideBanner (h : Reflects r choices) (hadmissible : Admissible choices) :
    Counts r choices .hideBanner := by
  have hnoBanner : r.options.noBanner = decide (.hideBanner ∈ choices) := by
    rw [h.options, optionsOf]
  by_cases hbefore : .hideBanner ∈ choices
  · refine .inr ⟨fun htwice => ?_, .refused (.repeated .noBanner), ?_⟩
    · have hcount := List.count_pos_iff.mpr hbefore
      have hone := htwice.1
      rw [List.count_append, List.count_singleton_self] at hone
      omega
    · rw [grant, if_pos (by simp [hnoBanner, hbefore]), refuse]
  · have hstill : Admissible (choices ++ [.hideBanner]) := by
      refine ⟨?_, ?_⟩
      · simp [List.count_eq_zero.mpr hbefore]
      · simpa [languages_concat, Choice.language?] using hadmissible.2
    refine .inl ⟨hstill, _, if_neg (by simp [hnoBanner, hbefore]), h.use ?_ rfl⟩
    simp [h.options, optionsOf, languages_concat, Choice.language?]

theorem Reflects.language (h : Reflects r choices) (hadmissible : Admissible choices)
    (chosen : Language) : Counts r choices (.language chosen) := by
  cases hbefore : languages choices with
  | nil =>
    have hunused : ¬ r.used.contains .lang = true := by
      rw [h.used, hbefore]
      decide
    have hstill : Admissible (choices ++ [.language chosen]) := by
      refine ⟨?_, ?_⟩
      · simpa using hadmissible.1
      · simp [languages_concat, hbefore, Choice.language?]
    refine .inl ⟨hstill, _, if_neg hunused, h.use ?_ rfl⟩
    simp [h.options, optionsOf, languages_concat, hbefore, Choice.language?]
  | cons language rest =>
    have hused : r.used.contains .lang = true := by
      rw [h.used, hbefore]
      rfl
    refine .inr ⟨fun htwice => ?_, .refused (.repeated .lang), ?_⟩
    · have hone := htwice.2
      rw [languages_concat, hbefore] at hone
      simp [Choice.language?] at hone
    · rw [grant, if_pos hused, refuse]

theorem Reflects.counts (h : Reflects r choices) (hadmissible : Admissible choices)
    (choice : Choice) : Counts r choices choice := by
  cases choice with
  | raise counter => exact h.raise hadmissible counter
  | hideBanner => exact h.hideBanner hadmissible
  | language chosen => exact h.language hadmissible chosen

end

theorem foldlM_grant (choices : List Choice) :
    (Admissible choices ∧
      ∃ r, choices.foldlM Reading.grant .start = .ok r ∧ Reflects r choices) ∨
    (¬ Admissible choices ∧ ∃ stop, choices.foldlM Reading.grant .start = .error stop) := by
  induction choices using List.reverseRecOn with
  | nil => exact .inl ⟨by decide, .start, rfl, reflects_start⟩
  | append_singleton choices choice ih =>
    rw [List.foldlM_append]
    rcases ih with ⟨hadmissible, r, hrun, hr⟩ | ⟨hrepeated, stop, hrun⟩
    · have hlast : ([choice].foldlM Reading.grant r) = r.grant choice := bind_pure _
      rw [hrun]
      change (_ ∧ ∃ s, [choice].foldlM Reading.grant r = _ ∧ _) ∨
        (_ ∧ ∃ stop, [choice].foldlM Reading.grant r = _)
      rw [hlast]
      exact hr.counts hadmissible choice
    · rw [hrun]
      exact .inr ⟨fun h => hrepeated h.of_concat, stop, rfl⟩

end Reading

/-! ## The options of a command line -/

/-- What the arguments of some occurrences come to. -/
theorem toOption_parse_render (occurrences : List Occurrence) :
    (parse (render occurrences)).toOption =
      if Admissible (occurrences.flatMap Occurrence.choices) then
        some (optionsOf (occurrences.flatMap Occurrence.choices))
      else none := by
  rw [parse_render]
  rcases Reading.foldlM_grant (occurrences.flatMap Occurrence.choices) with
    ⟨hadmissible, r, hrun, hr⟩ | ⟨hrepeated, stop, hrun⟩
  · rw [hrun, if_pos hadmissible, ← hr.options]
    rfl
  · rw [hrun, if_neg hrepeated]
    rfl

theorem parse_render_eq_ok_iff (occurrences : List Occurrence) (options : Options) :
    parse (render occurrences) = .ok options ↔
      Admissible (occurrences.flatMap Occurrence.choices) ∧
        options = optionsOf (occurrences.flatMap Occurrence.choices) := by
  have hoption : parse (render occurrences) = .ok options ↔
      (parse (render occurrences)).toOption = some options := by
    cases parse (render occurrences) <;> simp [Except.toOption]
  rw [hoption, toOption_parse_render]
  split <;> simp_all [eq_comm]

/-- The occurrences that ask for given options. -/
def Options.occurrences (options : Options) : List Occurrence :=
  .language .longEquals ⟨options.language.code, options.language, Language.parse_code _⟩ ::
    ((if options.noBanner then [.noBanner] else []) ++
      (List.replicate options.quiet.toNat (.long .quiet) ++
        List.replicate options.verbose.toNat (.long .verbose)))

theorem choices_replicate_long (n : Nat) (counter : Counter) :
    (List.replicate n (.long counter)).flatMap Occurrence.choices =
      List.replicate n (.raise counter) := by
  rw [List.flatMap_replicate]
  exact List.flatten_replicate_singleton

theorem choices_occurrences (options : Options) :
    options.occurrences.flatMap Occurrence.choices =
      .language options.language ::
        ((if options.noBanner then [.hideBanner] else []) ++
          (List.replicate options.quiet.toNat (.raise .quiet) ++
            List.replicate options.verbose.toNat (.raise .verbose))) := by
  rw [Options.occurrences, List.flatMap_cons, List.flatMap_append, List.flatMap_append,
    choices_replicate_long, choices_replicate_long]
  cases options.noBanner <;> rfl

theorem languages_replicate_raise (n : Nat) (counter : Counter) :
    languages (List.replicate n (.raise counter)) = [] := by
  rw [languages, List.filterMap_replicate]
  rfl

/-- All options can be asked for. -/
theorem parse_render_occurrences (options : Options) :
    parse (render options.occurrences) = .ok options := by
  rw [parse_render_eq_ok_iff, choices_occurrences]
  obtain ⟨language, noBanner, quiet, verbose⟩ := options
  have hlanguages : languages (.language language ::
      ((if noBanner then [.hideBanner] else []) ++
        (List.replicate quiet.toNat (.raise .quiet) ++
          List.replicate verbose.toNat (.raise .verbose)))) = [language] := by
    rw [languages_cons, languages_append, languages_append, languages_replicate_raise,
      languages_replicate_raise]
    cases noBanner <;> rfl
  rw [Admissible, optionsOf, hlanguages]
  refine ⟨⟨?_, Nat.le_refl 1⟩, ?_⟩
  · cases noBanner <;> simp [List.count_replicate]
  · cases noBanner <;> simp [List.count_replicate, List.mem_replicate, ofNat_min_toNat]

/-- The options of a command line are the tally of its choices. -/
theorem parse_by_choices (occurrences : List Occurrence) :
    let choices := occurrences.flatMap Occurrence.choices
    ((∃ options, parse (render occurrences) = .ok options) ↔
      choices.count .hideBanner ≤ 1 ∧ (languages choices).length ≤ 1) ∧
    (∀ options, parse (render occurrences) = .ok options →
      options.quiet.toNat = min 255 (choices.count (.raise .quiet)) ∧
      options.verbose.toNat = min 255 (choices.count (.raise .verbose)) ∧
      options.noBanner = decide (.hideBanner ∈ choices) ∧
      options.language = (languages choices).head?.getD .english ∧
      (options.quiet = 0 ↔ .raise .quiet ∉ choices) ∧
      (options.verbose = 0 ↔ .raise .verbose ∉ choices)) ∧
    (∀ others : List Occurrence, (others.flatMap Occurrence.choices).Perm choices →
      (parse (render others)).toOption = (parse (render occurrences)).toOption) ∧
    ∀ options : Options, parse (render options.occurrences) = .ok options := by
  intro choices
  refine ⟨?_, ?_, ?_, parse_render_occurrences⟩
  · simp only [parse_render_eq_ok_iff]
    constructor
    · rintro ⟨options, hadmissible, _⟩
      exact hadmissible
    · intro hadmissible
      exact ⟨_, hadmissible, rfl⟩
  · intro options hoptions
    obtain ⟨_, rfl⟩ := (parse_render_eq_ok_iff occurrences options).mp hoptions
    refine ⟨toNat_ofNat_min _, toNat_ofNat_min _, rfl, rfl, ?_, ?_⟩
    · exact (ofNat_min_eq_zero_iff _).trans List.count_eq_zero
    · exact (ofNat_min_eq_zero_iff _).trans List.count_eq_zero
  · intro others hperm
    rw [toOption_parse_render, toOption_parse_render]
    by_cases hadmissible : Admissible choices
    · rw [if_pos hadmissible, if_pos ((admissible_perm hperm).mpr hadmissible),
        optionsOf_perm hadmissible hperm]
    · rw [if_neg hadmissible, if_neg fun h => hadmissible ((admissible_perm hperm).mp h)]

/-- More quiet flags than a byte can count, a mixed cluster and a language. -/
def manyFlags : List Occurrence :=
  List.replicate 256 (.cluster .quiet []) ++
    [.cluster .verbose [.quiet, .verbose],
      .language .shortEquals ⟨"PORTUGUESE", .portuguese, by decide⟩]

theorem parse_manyFlags :
    parse (List.replicate 256 "-q" ++ ["-vqv", "-l=PORTUGUESE"]) =
      .ok ⟨.portuguese, false, 255, 2⟩ := by
  have hrender : render manyFlags = List.replicate 256 "-q" ++ ["-vqv", "-l=PORTUGUESE"] := by
    decide +kernel
  obtain ⟨hq, hv, hb, hl⟩ :
      (manyFlags.flatMap Occurrence.choices).count (.raise .quiet) = 257 ∧
      (manyFlags.flatMap Occurrence.choices).count (.raise .verbose) = 2 ∧
      (manyFlags.flatMap Occurrence.choices).count .hideBanner = 0 ∧
      languages (manyFlags.flatMap Occurrence.choices) = [.portuguese] := by
    decide +kernel
  obtain ⟨haccepted, htally, _⟩ := parse_by_choices manyFlags
  rw [hb, hl] at haccepted
  obtain ⟨⟨language, noBanner, quiet, verbose⟩, hoptions⟩ := haccepted.mpr ⟨by decide, by decide⟩
  obtain ⟨hquiet, hverbose, hbanner, hlanguage, _⟩ := htally _ hoptions
  rw [hq] at hquiet
  rw [hv] at hverbose
  rw [decide_eq_false (List.count_eq_zero.mp hb)] at hbanner
  rw [hl] at hlanguage
  obtain rfl : quiet = 255 := UInt8.toNat_inj.mp hquiet
  obtain rfl : verbose = 2 := UInt8.toNat_inj.mp hverbose
  obtain rfl : noBanner = false := hbanner
  obtain rfl : language = .portuguese := hlanguage
  rw [← hrender, hoptions]

end Reckoner.CommandLine
