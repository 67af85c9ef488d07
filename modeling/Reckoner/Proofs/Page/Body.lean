import Reckoner.Proofs.Page.Steps

/-!
# The body of the page

Between its title and its closing text the page has a body: the lines of the walkthrough and the
diagnostics that pass the filter. The settings decide what stands around the body. They do not
reach into it, although banner, title, closing text and footer are each silenced on their own, and
one of them by printing something else instead.

* `shownBody`: the body under a console.
* `transcript_events`: the page is what stands before the body, the body, and what stands after.
* `map_diagnostic?_shownBody`: where the diagnostics of the body stand, in any language.
* `settings_frame_body`: the law for all settings and plain filters.
-/

namespace Reckoner.Page

/-! ## Texts of lines -/

/-- A line of text with its line break. -/
def lineOf (text : List Char) : String :=
  String.ofList (text ++ ['\n'])

/-- The lines of an output, one after the other. -/
def textOf (shown : List Shown) : String :=
  String.ofList (shown.flatMap Shown.text)

theorem textOf_append (shown others : List Shown) :
    textOf (shown ++ others) = textOf shown ++ textOf others := by
  rw [textOf, List.flatMap_append, String.ofList_append]
  rfl

theorem textOf_output_append (console : Console) (steps others : List Step) :
    textOf (output console (steps ++ others)) =
      textOf (output console steps) ++ textOf (output console others) := by
  rw [output, List.flatMap_append, textOf_append]
  rfl

/-- A line that is printed without any work is shown alone. -/
theorem textOf_output_still (console : Console) (line : List Char) (rest : List Step) :
    textOf (output console (.still line :: rest)) =
      lineOf line ++ textOf (output console rest) := by
  have hline : textOf (output console [.still line]) = lineOf line := by
    simp [textOf, output, Step.output, Step.still, Shown.text, lineOf]
  rw [← hline]
  exact textOf_output_append console [.still line] rest

/-! ## Around the body -/

section

variable {settings : Settings} (console : Console)

theorem textOf_opening_of_quiet (h : 0 < settings.quiet) :
    textOf (output console (opening console.colors settings)) =
      (Phrases.ofLanguage settings.language).title ++ "\n" := by
  rw [opening, if_pos h, textOf_output_still, lineOf, String.ofList_append, String.ofList_toList]
  exact String.append_empty

theorem textOf_closing_of_quiet (h : 0 < settings.quiet) :
    textOf (output console (closing console.colors settings)) = "" := by
  rw [closing, if_pos h]
  rfl

theorem textOf_opening_of_loud (h : ¬ 0 < settings.quiet) :
    textOf (output console (opening console.colors settings)) =
      (if settings.noBanner then "" else lineOf (Frame.banner console.colors Frame.version)) ++
        lineOf (Frame.header console.colors (Phrases.ofLanguage settings.language).title) := by
  have hnone : textOf (output console []) = "" := rfl
  rw [opening, if_neg h]
  cases settings.noBanner with
  | true =>
    simp only [if_true, textOf_output_still, hnone, String.append_empty, String.empty_append]
  | false =>
    simp only [Bool.false_eq_true, if_false, textOf_output_still, hnone, String.append_empty]

theorem textOf_closing_of_loud (h : ¬ 0 < settings.quiet) :
    textOf (output console (closing console.colors settings)) =
      lineOf (Frame.header console.colors (Phrases.ofLanguage settings.language).done) ++
        lineOf (Frame.footer console.colors) := by
  have hnone : textOf (output console []) = "" := rfl
  rw [closing, if_neg h, textOf_output_still, textOf_output_still, hnone, String.append_empty]

end

/-! ## The body -/

/-- The body of the page: the lines of the walkthrough with the diagnostics between them. -/
def shownBody (console : Console) (language : Language) : List Shown :=
  output console (walk console.colors (Phrases.ofLanguage language))

theorem transcript_events {console : Console}
    (h : ∀ text, console.filter.admits (.print text) = true) (settings : Settings) :
    console.transcript (events console.colors settings).entries =
      textOf (output console (opening console.colors settings)) ++
        textOf (shownBody console settings.language) ++
        textOf (output console (closing console.colors settings)) := by
  rw [events_eq, Console.transcript, ← text_output h, steps, ← textOf, textOf_output_append,
    textOf_output_append]
  rfl

/-- The diagnostic that a line of the output shows, if it is one. -/
def Shown.diagnostic? : Shown → Option (List Char)
  | diagnostic text => some text
  | printed _ => none

theorem map_diagnostic?_output (console : Console) (steps : List Step) :
    (output console steps).map Shown.diagnostic? =
      (steps.map (·.diagnostics)).flatMap fun events =>
        (events.filter console.filter.admits).map (fun event => some (console.line event)) ++
          [none] := by
  have hstep : ∀ step : Step, (step.output console).map Shown.diagnostic? =
      (step.diagnostics.filter console.filter.admits).map
        (fun event => some (console.line event)) ++ [none] := by
    intro step
    rw [Step.output, List.map_append, List.map_map]
    rfl
  rw [output, List.map_flatMap, List.flatMap_map]
  simp only [hstep]

/-- Where the diagnostics of the body stand does not depend on the language: those of each step
come before its line, for which there is `none`. -/
theorem map_diagnostic?_shownBody (console : Console) (language : Language) :
    (shownBody console language).map Shown.diagnostic? =
      Walkthrough.reports.flatMap fun events =>
        (events.filter console.filter.admits).map (fun event => some (console.line event)) ++
          [none] := by
  rw [shownBody, map_diagnostic?_output, diagnostics_walk]

/-! ## The settings -/

/-- The settings frame the body and leave it as it is. Under every plain filter a quiet page is
the bare title and the body, whatever its quiet level and whether the banner is hidden or not. Any
other page has the banner unless it is hidden, the framed title, the same body, the framed closing
text and the footer. The body has every line of the walkthrough, and its diagnostics stand at the
same places in both languages. -/
theorem settings_frame_body (colors styledLabels : Bool) {filter : Filter}
    (hplain : filter.Plain) :
    let console : Console := ⟨filter.add Filter.showPrinted, colors, styledLabels⟩
    let whole (settings : Settings) : String :=
      console.transcript (events colors settings).entries
    let body (language : Language) : List Shown := shownBody console language
    (∀ language noBanner quiet, 0 < quiet →
      whole ⟨language, noBanner, quiet⟩ =
        (Phrases.ofLanguage language).title ++ "\n" ++ textOf (body language)) ∧
    (∀ language noBanner,
      whole ⟨language, noBanner, 0⟩ =
        (if noBanner then "" else lineOf (Frame.banner colors Frame.version)) ++
          lineOf (Frame.header colors (Phrases.ofLanguage language).title) ++
          textOf (body language) ++
          (lineOf (Frame.header colors (Phrases.ofLanguage language).done) ++
            lineOf (Frame.footer colors))) ∧
    (∀ language noBanner noBanner' quiet quiet', 0 < quiet → 0 < quiet' →
      whole ⟨language, noBanner, quiet⟩ = whole ⟨language, noBanner', quiet'⟩) ∧
    (∀ language, (body language).filter (!·.isDiagnostic) =
      (walk colors (Phrases.ofLanguage language)).map Step.printedLine) ∧
    (∀ language, (body language).map Shown.diagnostic? =
      Walkthrough.reports.flatMap fun events =>
        (events.filter console.filter.admits).map (fun event => some (console.line event)) ++
          [none]) ∧
    ∀ language other,
      (body language).map Shown.diagnostic? = (body other).map Shown.diagnostic? := by
  intro console whole body
  have hprint := hplain.admits_print
  have hquiet : ∀ language noBanner (quiet : UInt8), 0 < quiet →
      whole ⟨language, noBanner, quiet⟩ =
        (Phrases.ofLanguage language).title ++ "\n" ++ textOf (body language) := by
    intro language noBanner quiet hpos
    refine (@transcript_events console hprint ⟨language, noBanner, quiet⟩).trans ?_
    rw [textOf_opening_of_quiet console hpos, textOf_closing_of_quiet console hpos,
      String.append_empty]
  have hplaces := map_diagnostic?_shownBody console
  refine ⟨hquiet, ?_, ?_, ?_, hplaces, ?_⟩
  · intro language noBanner
    have hloud : ¬ (0 : UInt8) < 0 := by decide
    refine (@transcript_events console hprint ⟨language, noBanner, 0⟩).trans ?_
    rw [textOf_opening_of_loud console hloud, textOf_closing_of_loud console hloud]
  · intro language noBanner noBanner' quiet quiet' hpos hpos'
    rw [hquiet language noBanner quiet hpos, hquiet language noBanner' quiet' hpos']
  · exact fun language => printed_output console _
  · intro language other
    rw [hplaces language, hplaces other]

/-- Warnings, and as little printed text as a plain filter can ask for. -/
def warnings : Filter := Filter.parseValid "warn,abacus::print=off"

theorem settings_frame_body_warnings :
    let console : Console := ⟨warnings.add Filter.showPrinted, false, false⟩
    warnings.Plain ∧ (0 : UInt8) < 255 ∧
    console.transcript (events false ⟨.portuguese, true, 255⟩).entries =
      "Exemplo de Calculadora\n" ++ textOf (shownBody console .portuguese) ∧
    console.transcript (events false ⟨.portuguese, true, 0⟩).entries =
      lineOf (Frame.header false "Exemplo de Calculadora") ++
        textOf (shownBody console .portuguese) ++
        (lineOf (Frame.header false "concluído") ++ lineOf (Frame.footer false)) ∧
    textOf (shownBody console .portuguese) =
      "5 + 3 = 8\n10 - 4 = 6\n6 * 7 = 42\n15 / 3 = 5\n[*] rejected division by zero a=10.0\n" ++
        "10 / 0 = Erro: Divisão por zero não é permitida\n\nCalculadoras criadas: 2\n" ++
        "Fatorial de 5 = 120\n" ∧
    (shownBody console .english).map Shown.diagnostic? =
      [none, none, none, none, some "[*] rejected division by zero a=10.0\n".toList, none, none,
        none, none] := by
  intro console
  have hplain : warnings.Plain := Filter.plain_parseValid (by decide)
  obtain ⟨hquiet, hloud, _, _, _, hsame⟩ := settings_frame_body false false hplain
  refine ⟨hplain, by decide, hquiet .portuguese true 255 (by decide), ?_, by decide +kernel, ?_⟩
  · refine (hloud .portuguese true).trans ?_
    rw [if_pos rfl, String.empty_append]
    rfl
  · exact (hsame .english .portuguese).trans (by decide +kernel)

end Reckoner.Page
