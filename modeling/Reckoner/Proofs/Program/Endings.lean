import Reckoner.Proofs.Page.Body
import Reckoner.Proofs.Program.Output
import Reckoner.Proofs.Text.Adorned

/-!
# Endings of a run

A run ends in one of three ways. Accepted arguments have the page printed, a request for the help
or version text has that text printed, and any other arguments are refused with an error text.
No step of the page fails, and a filter with a malformed directive is no error; only a filter at
which reading breaks down keeps the page from being printed. How a run ended can also be told from
what it wrote.

* `Page.transcript_parts`: the page is its banner, the demonstration and the closing rule.
* `CommandLine.error_isPrefix_write`: the text of a refusal announces an error.
* `Program.Ends`, `Program.ends_run`: how a run ends.
* `Program.Ends.unique`: what a run left tells how it ended, as the page is neither the help text
  nor the version text.
* `Program.three_endings`: the law for all arguments, and all environments with a plain filter.
* `Program.endings_missed`: a quiet page lacks the closing rule, and a run that breaks down ends in
  none of the three ways.
-/

namespace Reckoner

open Text

/-! ## Parts of the page -/

/-- A text is part of another one. -/
def Text.Includes (whole part : String) : Prop :=
  ∃ before after, whole = before ++ part ++ after

theorem Text.Includes.within {whole part : String} (h : Includes whole part)
    (before after : String) : Includes (before ++ whole ++ after) part := by
  obtain ⟨before', after', rfl⟩ := h
  refine ⟨before ++ before', after' ++ after, ?_⟩
  simp only [String.append_assoc]

namespace Page

section

variable (console : Console) (settings : Settings)

/-- The banner as it is printed, unless it is hidden. -/
def bannerPart : String :=
  if settings.noBanner ∨ 0 < settings.quiet then ""
  else lineOf (Frame.banner console.colors Frame.version)

/-- The demonstration as it is printed: title, body and closing text. -/
def demonstrationPart : String :=
  (if 0 < settings.quiet then (Phrases.ofLanguage settings.language).title ++ "\n"
    else lineOf (Frame.header console.colors (Phrases.ofLanguage settings.language).title)) ++
  textOf (shownBody console settings.language) ++
  (if 0 < settings.quiet then ""
    else lineOf (Frame.header console.colors (Phrases.ofLanguage settings.language).done))

/-- The closing rule as it is printed. -/
def closingPart : String :=
  if 0 < settings.quiet then "" else lineOf (Frame.footer console.colors)

end

theorem transcript_parts {console : Console}
    (h : ∀ text, console.filter.admits (.print text) = true) (settings : Settings) :
    console.transcript (events console.colors settings).entries =
      bannerPart console settings ++ demonstrationPart console settings ++
        closingPart console settings := by
  rw [transcript_events h, bannerPart, demonstrationPart, closingPart]
  by_cases hquiet : 0 < settings.quiet
  · rw [textOf_opening_of_quiet console hquiet, textOf_closing_of_quiet console hquiet,
      if_pos (.inr hquiet), if_pos hquiet, if_pos hquiet, if_pos hquiet]
    simp only [String.append_empty, String.empty_append]
  · rw [textOf_opening_of_loud console hquiet, textOf_closing_of_loud console hquiet,
      if_neg hquiet, if_neg hquiet, if_neg hquiet]
    simp only [hquiet, or_false, String.append_assoc]

theorem includes_textOf_output {steps : List Step} {step : Step} (h : step ∈ steps)
    (console : Console) : Includes (textOf (output console steps)) (lineOf step.line) := by
  obtain ⟨earlier, later, rfl⟩ := List.append_of_mem h
  have hstep : Includes (textOf (output console [step])) (lineOf step.line) := by
    refine ⟨textOf ((step.diagnostics.filter console.filter.admits).map
      fun event => .diagnostic (console.line event)), "", ?_⟩
    rw [output, List.flatMap_singleton, Step.output, textOf_append]
    simp [textOf, lineOf, Shown.text]
  have hsplit := textOf_output_append console [step] later
  rw [textOf_output_append, ← List.singleton_append, hsplit, ← String.append_assoc]
  exact hstep.within _ _

theorem includes_demonstrationPart {console : Console} {settings : Settings} {step : Step}
    (h : step ∈ walk console.colors (Phrases.ofLanguage settings.language)) :
    Includes (demonstrationPart console settings) (lineOf step.line) :=
  (includes_textOf_output h console).within _ _

/-- The page starts with a line of its frame. -/
theorem exists_transcript_eq {console : Console}
    (h : ∀ text, console.filter.admits (.print text) = true) (settings : Settings) :
    ∃ line ∈ frame console.colors (Phrases.ofLanguage settings.language), ∃ rest,
      console.transcript (events console.colors settings).entries = lineOf line ++ rest := by
  obtain ⟨line, rest, hopening⟩ :
      ∃ line rest, opening console.colors settings = .still line :: rest := by
    simp only [opening]
    split
    · exact ⟨_, _, rfl⟩
    · split <;> exact ⟨_, _, rfl⟩
  have hfirst : Step.still line ∈ opening console.colors settings := by
    rw [hopening]
    exact List.mem_cons_self
  refine ⟨line, line_mem_frame (.inl hfirst), ?_⟩
  rw [transcript_events h, hopening, textOf_output_still, String.append_assoc, String.append_assoc]
  exact ⟨_, rfl⟩

end Page

/-! ## Help and error texts -/

theorem Text.strip_opening_append (emphasis : Emphasis) (rest : List Char) :
    strip (emphasis.opening ++ rest) = strip rest := by
  cases emphasis <;>
    simp only [Emphasis.opening, List.append_assoc] <;>
    repeat rw [strip_sequence (List.all_eq_true.mp (by decide))]

theorem Text.strip_compose_append {span : Span} (h : escape ∉ span.text) (rest : List Char) :
    strip (span.compose ++ rest) = span.text ++ strip rest := by
  cases span with
  | plain text => exact strip_append h rest
  | emphasised emphasis text =>
    have words := strip_append (show escape ∉ text.toList from h) (reset ++ rest)
    rw [Span.compose, List.append_assoc, List.append_assoc, strip_opening_append, words, reset,
      strip_sequence (List.all_eq_true.mp (by decide)), Span.text]

/-- A text that starts with plain words is written with their first letter in front. -/
theorem Text.head?_write {words : String} (hshown : ∀ c ∈ words.toList, isShown c = true)
    (hne : words.toList ≠ []) (rest : RichText) (styled : Bool) :
    (RichText.write styled (.plain words :: rest)).toList.head? = words.toList.head? := by
  have hcompose : RichText.compose (.plain words :: rest) =
      words.toList ++ RichText.compose rest := rfl
  rw [RichText.write, String.toList_ofList, hcompose, visible_append hshown]
  split <;> exact List.head?_append_of_ne_nil _ hne

namespace CommandLine

theorem Refusal.exists_text_eq (refusal : Refusal) :
    ∃ rest, refusal.text = .emphasised .alarm "error:" :: .plain " " :: rest :=
  ⟨_, rfl⟩

/-- Style sequences aside, the text of a refusal starts with the word that announces an error. -/
theorem error_isPrefix_write (refusal : Refusal) (styled : Bool) :
    "error: ".toList <+: strip (refusal.text.write styled).toList := by
  obtain ⟨rest, htext⟩ := refusal.exists_text_eq
  have hcompose : refusal.text.compose = Span.compose (.emphasised .alarm "error:") ++
      (Span.compose (.plain " ") ++ RichText.compose rest) := by
    rw [htext]
    rfl
  have herror : escape ∉ Span.text (.emphasised .alarm "error:") := by decide
  have hblank : escape ∉ Span.text (.plain " ") := by decide
  cases styled with
  | true =>
    have hstrip : strip (refusal.text.write true).toList =
        "error: ".toList ++ strip (RichText.compose rest) := by
      rw [RichText.write, if_pos rfl, String.toList_ofList, hcompose, strip_compose_append herror,
        strip_compose_append hblank]
      rfl
    exact ⟨_, hstrip.symm⟩
  | false =>
    -- What is not shown goes before anything is stripped.
    have hstrip : strip (refusal.text.write false).toList =
        "error: ".toList ++ strip (visible (RichText.compose rest)) := by
      rw [RichText.write, if_neg Bool.false_ne_true, String.toList_ofList, hcompose,
        visible_compose_append (List.all_eq_true.mp (by decide)),
        visible_compose_append (List.all_eq_true.mp (by decide)), strip_append herror,
        strip_append hblank]
      rfl
    exact ⟨_, hstrip.symm⟩

end CommandLine

/-! ## Endings -/

namespace Program

/-- The page as it is printed: banner, demonstration and closing rule. -/
def pageText (environment : Environment) (options : CommandLine.Options) : String :=
  let console := console environment options.verbose
  Page.bannerPart console (settings options) ++ Page.demonstrationPart console (settings options) ++
    Page.closingPart console (settings options)

/-- The texts that are printed on request. -/
def requestedTexts : List RichText := [CommandLine.helpText, CommandLine.versionText]

theorem transcript_eq_pageText {environment : Environment} (h : environment.Plain)
    (options : CommandLine.Options) :
    (console environment options.verbose).transcript
      (Page.events environment.forcesColor (settings options)).entries =
        pageText environment options :=
  Page.transcript_parts (admits_print_of_plain h options.verbose) (settings options)

theorem run_eq_of_ok {environment : Environment} (h : environment.Plain)
    (hwhole : environment.tears = false) {arguments : List String}
    {options : CommandLine.Options} (hparse : CommandLine.parse arguments = .ok options) :
    run arguments environment = ⟨0, pageText environment options, ""⟩ := by
  rw [run_of_ok hparse hwhole, transcript_eq_pageText h]

theorem head?_requestedText {text : RichText} (h : text ∈ requestedTexts) (styled : Bool) :
    (text.write styled).toList.head? = some 'W' ∨ (text.write styled).toList.head? = some 'a' := by
  rcases List.mem_pair.mp h with rfl | rfl
  · left
    refine (head?_write (List.all_eq_true.mp ?_) ?_ _ styled).trans ?_ <;> decide
  · right
    refine (head?_write (List.all_eq_true.mp ?_) ?_ _ styled).trans ?_ <;> decide

theorem head?_of_mem_frame {colors : Bool} {language : Language} {line : List Char}
    (h : line ∈ Page.frame colors (Phrases.ofLanguage language)) :
    line ≠ [] ∧ line.head? ≠ some 'W' ∧ line.head? ≠ some 'a' := by
  have hall : ∀ line ∈ Page.frame colors (Phrases.ofLanguage language),
      line ≠ [] ∧ line.head? ≠ some 'W' ∧ line.head? ≠ some 'a' := by
    cases colors <;> cases language <;> decide +kernel
  exact hall line h

/-- The page is none of the texts that are printed on request: it starts with other letters. -/
theorem page_ne_text {environment : Environment} (hplain : environment.Plain)
    (options : CommandLine.Options) {text : RichText} (htext : text ∈ requestedTexts)
    (styled : Bool) : pageText environment options ≠ text.write styled := by
  have hprint : ∀ text,
      (console environment options.verbose).filter.admits (.print text) = true :=
    admits_print_of_plain hplain options.verbose
  obtain ⟨line, hline, rest, hpage⟩ := Page.exists_transcript_eq hprint (settings options)
  obtain ⟨hne, hhelp, hversion⟩ := head?_of_mem_frame hline
  have hhead : (pageText environment options).toList.head? = line.head? := by
    rw [← transcript_eq_pageText hplain]
    refine (congrArg (·.toList.head?) hpage).trans ?_
    simp [Page.lineOf, List.head?_append, List.head?_eq_some_head hne]
  intro heq
  rw [heq] at hhead
  rcases head?_requestedText htext styled with h | h
  · exact hhelp (hhead.symm.trans h)
  · exact hversion (hhead.symm.trans h)

/-- The ways in which a run can end. -/
inductive Ending where
  | page
  | text
  | refusal
deriving DecidableEq

/-- What a run leaves that ended in a way. -/
inductive Ends (environment : Environment) : Ending → Outcome → Prop
  | page (options : CommandLine.Options) :
    Ends environment .page ⟨0, pageText environment options, ""⟩
  | text {text : RichText} (h : text ∈ requestedTexts) :
    Ends environment .text ⟨0, text.write environment.stylesTexts, ""⟩
  | refusal {stderr : String} (h : "error: ".toList <+: strip stderr.toList) :
    Ends environment .refusal ⟨2, "", stderr⟩

/-- How a run with the given arguments is to end. -/
def endingOf (arguments : List String) : Ending :=
  match CommandLine.parse arguments with
  | .ok _ => .page
  | .error .help => .text
  | .error .version => .text
  | .error (.refused _) => .refusal

/-- What a run left tells how it ended. -/
theorem Ends.unique {environment : Environment} (hplain : environment.Plain)
    {ending ending' : Ending} {outcome : Outcome} (h : Ends environment ending outcome)
    (h' : Ends environment ending' outcome) : ending = ending' := by
  have hpage (options : CommandLine.Options) {text : RichText} (htext : text ∈ requestedTexts) :
      pageText environment options ≠ text.write environment.stylesTexts :=
    page_ne_text hplain options htext environment.stylesTexts
  -- Only a refusal has another code: between the page and a text the output has to decide.
  cases h with
  | page options =>
    generalize hout : (⟨0, pageText environment options, ""⟩ : Outcome) = outcome at h'
    cases h' with
    | page _ => rfl
    | text htext => exact absurd (congrArg Outcome.stdout hout) (hpage options htext)
    | refusal _ => cases hout
  | @text text htext =>
    generalize hout : (⟨0, text.write environment.stylesTexts, ""⟩ : Outcome) = outcome at h'
    cases h' with
    | page options => exact absurd (congrArg Outcome.stdout hout).symm (hpage options htext)
    | text _ => rfl
    | refusal _ => cases hout
  | refusal _ =>
    cases h'
    rfl

theorem endingOf_eq_page_iff {arguments : List String} :
    endingOf arguments = .page ↔ ∃ options, CommandLine.parse arguments = .ok options := by
  unfold endingOf
  split <;> simp_all

theorem ends_run (arguments : List String) {environment : Environment}
    (hplain : environment.Plain)
    (hruns : endingOf arguments = .page → environment.tears = false) :
    Ends environment (endingOf arguments) (run arguments environment) := by
  cases hparse : CommandLine.parse arguments with
  | ok options =>
    have hwhole := hruns (endingOf_eq_page_iff.mpr ⟨options, hparse⟩)
    rw [run_eq_of_ok hplain hwhole hparse, endingOf, hparse]
    exact .page options
  | error stop =>
    cases stop with
    | help =>
      simp only [run, endingOf, hparse]
      exact .text List.mem_cons_self
    | version =>
      simp only [run, endingOf, hparse]
      exact .text (List.mem_cons_of_mem _ List.mem_cons_self)
    | refused refusal =>
      simp only [run, endingOf, hparse]
      exact .refusal (CommandLine.error_isPrefix_write refusal _)

/-- The line of the division by zero, with the reason why it has no value. -/
def refusedDivision (colors : Bool) (phrases : Phrases) : List Char :=
  (Line.failure "10 / 0" phrases.divisionByZero).form colors phrases

theorem includes_pageText (environment : Environment) (options : CommandLine.Options) :
    Includes (pageText environment options)
      (Page.lineOf (refusedDivision environment.forcesColor
        (Phrases.ofLanguage options.language))) := by
  -- It is the line of the fifth step.
  obtain ⟨step, hstep, hline⟩ :
      ∃ step ∈ Page.walk environment.forcesColor (Phrases.ofLanguage options.language),
        step.line = refusedDivision environment.forcesColor
          (Phrases.ofLanguage options.language) := by
    have hlength : 4 < (Walkthrough.plan (Phrases.ofLanguage options.language)).length := by
      simp [Walkthrough.plan]
    exact ⟨_, List.mem_map_of_mem (List.getElem_mem hlength), rfl⟩
  have hpart := @Page.includes_demonstrationPart (console environment options.verbose)
    (settings options) step hstep
  rw [hline] at hpart
  exact hpart.within _ _

/-- A run ends in one of three ways, and what it leaves tells in which. Accepted arguments have
the page printed, a request for the help or version text has that text printed, and refused
arguments have nothing printed but an error text. No step that could end the page early does so:
the directive that shows printed text can be read, the two computations that have to succeed do,
and the division by zero ends up as a line of the page. Nothing is said about accepted arguments
with a filter at which reading breaks down, which takes a blank in front of a directive and a
character of several bytes. -/
theorem three_endings (arguments : List String) {environment : Environment}
    (hplain : environment.Plain)
    (hruns : endingOf arguments = .page → environment.tears = false) :
    let outcome := run arguments environment
    (match CommandLine.parse arguments with
      | .ok options => outcome = ⟨0, pageText environment options, ""⟩
      | .error .help => outcome = ⟨0, CommandLine.helpText.write environment.stylesTexts, ""⟩
      | .error .version => outcome = ⟨0, CommandLine.versionText.write environment.stylesTexts, ""⟩
      | .error (.refused _) =>
        outcome.code = 2 ∧ outcome.stdout = "" ∧
          "error: ".toList <+: strip outcome.stderr.toList) ∧
    (∀ ending, Ends environment ending outcome ↔ ending = endingOf arguments) ∧
    Directive.parse Filter.showPrintedText.toList = .ok Filter.showPrinted ∧
    (∀ calculator : Calculator, (calculator.perform .divide 15 3).result.1 = .ok 5) ∧
    (factorial Walkthrough.factorialArgument).result = .ok 120 ∧
    (∀ calculator : Calculator,
      (calculator.perform .divide 10 0).result.1 = .error .divisionByZero) ∧
    (∀ language, (Walkthrough.steps language).run.result = .ok ()) ∧
    (∀ options, CommandLine.parse arguments = .ok options →
      Includes outcome.stdout (Page.lineOf (refusedDivision environment.forcesColor
        (Phrases.ofLanguage options.language)))) ∧
    (environment.tears = true →
      ∃ text part, environment.logFilter = some text ∧ part ∈ Filter.written text ∧
        (∃ c ∈ part.head?, isBlank c = true) ∧ ∃ c ∈ part, 128 ≤ c.toNat) := by
  intro outcome
  have hends := ends_run arguments hplain hruns
  have hpage : ∀ options, CommandLine.parse arguments = .ok options →
      outcome = ⟨0, pageText environment options, ""⟩ := by
    intro options hparse
    exact run_eq_of_ok hplain (hruns (endingOf_eq_page_iff.mpr ⟨options, hparse⟩)) hparse
  refine ⟨?_, ?_, ?_, ?_, ?_, ?_, ?_, ?_, Environment.exists_of_tears⟩
  · cases hparse : CommandLine.parse arguments with
    | ok options => exact hpage options hparse
    | error stop =>
      cases stop with
      | help => simp only [outcome, run, hparse]
      | version => simp only [outcome, run, hparse]
      | refused refusal =>
        simp only [outcome, run, hparse, true_and]
        exact CommandLine.error_isPrefix_write refusal _
  · exact fun ending => ⟨fun h => h.unique hplain hends, fun h => h ▸ hends⟩
  · rw [← Directive.parse?_eq_some_iff]
    decide +kernel
  · intro calculator
    obtain ⟨_, _, _, hquotient, _⟩ := Walkthrough.apply_operations
    rw [Calculator.perform_of_ok hquotient]
  · rw [Walkthrough.factorial_argument]
  · intro calculator
    obtain ⟨_, _, _, _, hrefused⟩ := Walkthrough.apply_operations
    rw [Calculator.perform_of_error hrefused]
  · intro language
    rw [Walkthrough.run_steps]
  · intro options hparse
    rw [hpage options hparse]
    exact includes_pageText environment options

/-- Everything off, one directive that is malformed, and colours and styles forced. -/
def hostile : Environment := ⟨some "off,abacus::print=off,=x", none, some "1"⟩

theorem three_endings_hostile :
    hostile.Plain ∧ hostile.tears = false ∧
    Includes (run ["-qq", "-lpt"] hostile).stdout
      (Page.lineOf (refusedDivision true .portuguese)) ∧
    Ends hostile .page (run ["-qq", "-lpt"] hostile) ∧
    ¬ Ends hostile .text (run ["-qq", "-lpt"] hostile) ∧
    Ends hostile .text (run ["-v", "--help", "-x"] hostile) ∧
    (run ["-v", "-x", "--help"] hostile).code = 2 ∧
    (run ["-v", "-x", "--help"] hostile).stdout = "" ∧
    escape ∈ (run ["-v", "-x", "--help"] hostile).stderr.toList ∧
    "error: ".toList <+: strip (run ["-v", "-x", "--help"] hostile).stderr.toList := by
  have hplain : hostile.Plain :=
    Environment.plain_of_text rfl (by decide)
  have hforced : hostile.forcesColor = true := by
    decide +kernel
  have hwhole : hostile.tears = false := by
    decide +kernel
  have hquiet : CommandLine.parse ["-qq", "-lpt"] = .ok ⟨.portuguese, false, 2, 0⟩ := by
    decide +kernel
  have hrefused : CommandLine.parse ["-v", "-x", "--help"] =
      .error (.refused (.unknownWord "-x")) := by
    decide +kernel
  have hpage : endingOf ["-qq", "-lpt"] = .page := by
    rw [endingOf, hquiet]
  have htext : endingOf ["-v", "--help", "-x"] = .text := by
    decide +kernel
  obtain ⟨_, hends, _, _, _, _, _, hincludes, _⟩ :=
    three_endings ["-qq", "-lpt"] hplain fun _ => hwhole
  obtain ⟨_, hhelp, _⟩ := three_endings ["-v", "--help", "-x"] hplain fun _ => hwhole
  obtain ⟨hoff, _⟩ := three_endings ["-v", "-x", "--help"] hplain fun _ => hwhole
  have hline := hincludes _ hquiet
  rw [hforced] at hline
  rw [hpage] at hends
  rw [htext] at hhelp
  rw [hrefused] at hoff
  obtain ⟨hcode, hstdout, hstderr⟩ := hoff
  refine ⟨hplain, hwhole, hline, (hends _).mpr rfl, fun h => ?_, (hhelp _).mpr rfl, hcode,
    hstdout, by decide +kernel, hstderr⟩
  cases (hends _).mp h

/-- A filter whose only directive stands behind a blank of two bytes. -/
def unreadable : Environment := ⟨some "\u00a0a=info", none, none⟩

/-- The closing rule is not part of a quiet page, and where reading the filter breaks down accepted
arguments lead to none of the three endings. -/
theorem endings_missed :
    endingOf ["-q"] = .page ∧
    ¬ (Page.lineOf (Frame.footer false)).toList <:+ (run ["-q"] ⟨none, none, none⟩).stdout.toList ∧
    unreadable.Plain ∧ endingOf [] = .page ∧ (run [] unreadable).code = 101 ∧
    ∀ ending, ¬ Ends unreadable ending (run [] unreadable) := by
  have hplain : unreadable.Plain :=
    Environment.plain_of_text rfl (by decide)
  have hcode : (run [] unreadable).code = 101 := by
    decide +kernel
  have hquiet : CommandLine.parse ["-q"] = .ok ⟨.english, false, 1, 0⟩ := by
    decide +kernel
  have hunset : Environment.Plain ⟨none, none, none⟩ :=
    Environment.plain_of_noBracket nofun
  refine ⟨by rw [endingOf, hquiet], ?_, hplain, by decide +kernel, hcode, ?_⟩
  · -- As lists of characters both texts are short enough to be compared.
    rw [run_eq_of_ok hunset rfl hquiet, pageText]
    simp only [Page.bannerPart, Page.demonstrationPart, Page.closingPart, Page.lineOf, Page.textOf,
      String.toList_append, String.toList_ofList]
    decide +kernel
  intro ending hends
  generalize run [] unreadable = outcome at hcode hends
  cases hends with
  | page options => cases hcode
  | text htext => cases hcode
  | refusal herror => cases hcode

end Program

end Reckoner
