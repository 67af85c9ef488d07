import Reckoner.Page
import Reckoner.Proofs.Event.Printed
import Reckoner.Proofs.Omission
import Reckoner.Proofs.Walkthrough

/-!
# Steps of the page

The page is printed step by step: some work is done and reported, and then a line is printed. The
output under a filter has the diagnostics that pass in front of the line of their own step, and
all lines whatever the filter is.

* `Page.events_eq`: the events of the page are those of its steps.
* `Page.text_output`: what the console writes is the output of the steps, one after the other.
* `Page.printed_output`, `Page.without_output_of_admits`: a filter that admits less leaves out
  diagnostics and nothing else.
* `Page.page_shown_stepwise`: the law of the page for all settings and plain filters.
-/

namespace Reckoner.Page

/-! ## Steps -/

/-- A step with its line as it is printed. -/
abbrev Step := Reckoner.Step (List Char)

/-- The events of a step. -/
def Step.events (step : Step) : List Event := step.diagnostics ++ [printed step.line]

/-- A line that is printed without any work. -/
def Step.still (line : List Char) : Step := ⟨[], line⟩

/-- The steps of the walkthrough with their lines as they are printed. -/
def walk (colors : Bool) (phrases : Phrases) : List Step :=
  (Walkthrough.plan phrases).map fun step => ⟨step.diagnostics, step.line.form colors phrases⟩

/-- The steps before the walkthrough: the banner, unless it is hidden, and the title. -/
def opening (colors : Bool) (settings : Settings) : List Step :=
  let title := (Phrases.ofLanguage settings.language).title
  if 0 < settings.quiet then [.still title.toList]
  else if settings.noBanner then [.still (Frame.header colors title)]
  else [.still (Frame.banner colors Frame.version), .still (Frame.header colors title)]

/-- The steps after the walkthrough, of which a quiet page has none. -/
def closing (colors : Bool) (settings : Settings) : List Step :=
  if 0 < settings.quiet then []
  else [.still (Frame.header colors (Phrases.ofLanguage settings.language).done),
    .still (Frame.footer colors)]

/-- The steps of the page in their order. -/
def steps (colors : Bool) (settings : Settings) : List Step :=
  opening colors settings ++ walk colors (Phrases.ofLanguage settings.language) ++
    closing colors settings

theorem diagnostics_walk (colors : Bool) (phrases : Phrases) :
    (walk colors phrases).map (·.diagnostics) = Walkthrough.reports := by
  rw [walk, List.map_map]
  exact Walkthrough.diagnostics_plan phrases

theorem body_eq (colors : Bool) (language : Language) :
    body colors language =
      ⟨.ok (), (walk colors (Phrases.ofLanguage language)).flatMap Step.events⟩ := by
  have hstep : ∀ step : Reckoner.Step Line,
      (Walkthrough.entriesOf step).map (eventOf colors (Phrases.ofLanguage language)) =
        Step.events ⟨step.diagnostics, step.line.form colors (Phrases.ofLanguage language)⟩ := by
    intro step
    simp [Walkthrough.entriesOf, Step.events, eventOf, Function.comp_def]
  rw [body, Walkthrough.run_steps, List.map_flatMap, walk, List.flatMap_map]
  simp only [hstep]

theorem events_opening (colors : Bool) (settings : Settings) :
    (opening colors settings).flatMap Step.events =
      banner colors settings.noBanner settings.quiet ++
        header colors settings.quiet (Phrases.ofLanguage settings.language).title := by
  by_cases hquiet : 0 < settings.quiet
  · simp [opening, banner, header, hquiet, Step.events, Step.still, printed]
  · cases hbanner : settings.noBanner <;>
      simp [opening, banner, header, hquiet, hbanner, Step.events, Step.still]

theorem events_closing (colors : Bool) (settings : Settings) :
    (closing colors settings).flatMap Step.events =
      closingHeader colors settings.quiet (Phrases.ofLanguage settings.language).done ++
        footer colors settings.quiet := by
  by_cases hquiet : 0 < settings.quiet
  · simp [closing, closingHeader, footer, hquiet]
  · simp [closing, closingHeader, header, footer, hquiet, Step.events, Step.still]

theorem events_eq (colors : Bool) (settings : Settings) :
    events colors settings = ⟨.ok (), (steps colors settings).flatMap Step.events⟩ := by
  rw [steps, List.flatMap_append, List.flatMap_append, events_opening, events_closing, events,
    body_eq]

/-! ## Output -/

/-- A line of the output. -/
inductive Shown where
  | diagnostic (text : List Char)
  | printed (text : List Char)
deriving DecidableEq

namespace Shown

/-- The text of a line, with its line break. -/
def text : Shown → List Char
  | diagnostic text => text
  | printed text => text

def isDiagnostic : Shown → Bool
  | diagnostic _ => true
  | printed _ => false

end Shown

/-- The output of a step: the diagnostics that pass the filter, and then the line. -/
def Step.output (console : Console) (step : Step) : List Shown :=
  (step.diagnostics.filter console.filter.admits).map
      (fun event => .diagnostic (console.line event)) ++
    [.printed (step.line ++ ['\n'])]

/-- The output of several steps. -/
def output (console : Console) (steps : List Step) : List Shown :=
  steps.flatMap (·.output console)

theorem Step.text_output {console : Console}
    (h : ∀ text, console.filter.admits (.print text) = true) (step : Step) :
    (step.output console).flatMap Shown.text = console.written step.events := by
  have hline : console.written [printed step.line] = step.line ++ ['\n'] := by
    rw [printed, Console.written_singleton_of_admits (h _), Console.line_print,
      String.toList_ofList]
  rw [Step.events, Console.written_append, hline, Step.output, List.flatMap_append,
    List.flatMap_map]
  simp [Console.written, Shown.text]

theorem text_output {console : Console}
    (h : ∀ text, console.filter.admits (.print text) = true) (steps : List Step) :
    (output console steps).flatMap Shown.text = console.written (steps.flatMap Step.events) := by
  induction steps with
  | nil => rfl
  | cons step rest ih =>
    rw [output, List.flatMap_cons, List.flatMap_append, Step.text_output h, List.flatMap_cons,
      Console.written_append, ← ih]
    rfl

/-- The line of a step as it is shown, whatever the filter. -/
def Step.printedLine (step : Step) : Shown := .printed (step.line ++ ['\n'])

theorem Step.printed_output (console : Console) (step : Step) :
    (step.output console).filter (!·.isDiagnostic) = [step.printedLine] := by
  rw [Step.output, List.filter_append, List.filter_eq_nil_iff.mpr]
  · rfl
  · intro shown hshown
    obtain ⟨event, _, rfl⟩ := List.mem_map.mp hshown
    simp [Shown.isDiagnostic]

theorem printed_output (console : Console) (steps : List Step) :
    (output console steps).filter (!·.isDiagnostic) = steps.map Step.printedLine := by
  induction steps with
  | nil => rfl
  | cons step rest ih =>
    rw [output, List.flatMap_cons, List.filter_append, Step.printed_output, List.map_cons, ← ih]
    rfl

theorem output_of_hidden {console : Console} {steps : List Step}
    (h : ∀ step ∈ steps, ∀ event ∈ step.diagnostics, console.filter.admits event = false) :
    output console steps = steps.map Step.printedLine := by
  induction steps with
  | nil => rfl
  | cons step rest ih =>
    have hstep : step.output console = [step.printedLine] := by
      have hnone : step.diagnostics.filter console.filter.admits = [] := by
        rw [List.filter_eq_nil_iff]
        intro event hevent
        simp [h step List.mem_cons_self event hevent]
      rw [Step.output, hnone]
      rfl
    rw [output, List.flatMap_cons, hstep, List.map_cons,
      ← ih fun other hother => h other (List.mem_cons_of_mem step hother)]
    rfl

/-- A filter that admits less shows the same lines, except for some diagnostics. -/
theorem without_output_of_admits {more less : Filter} {steps : List Step}
    (h : ∀ step ∈ steps, ∀ event ∈ step.diagnostics,
      less.admits event = true → more.admits event = true) (colors styledLabels : Bool) :
    Without (·.isDiagnostic = true) (output ⟨more, colors, styledLabels⟩ steps)
      (output ⟨less, colors, styledLabels⟩ steps) := by
  apply Without.flatMap
  intro step hstep
  have hless : step.diagnostics.filter less.admits =
      (step.diagnostics.filter more.admits).filter less.admits := by
    rw [List.filter_filter]
    refine List.filter_congr fun event hevent => ?_
    have himplies := h step hstep event hevent
    cases hadmits : less.admits event with
    | false => rfl
    | true => simp [himplies hadmits]
  rw [Step.output, Step.output, hless]
  refine Without.append ?_ (Without.refl _)
  apply without_map_filter
  intro event _ _
  rfl

/-! ## Diagnostics of the page -/

theorem Step.still_of_mem_opening {colors : Bool} {settings : Settings} {step : Step}
    (h : step ∈ opening colors settings) : step.diagnostics = [] := by
  simp only [opening] at h
  grind [Step.still]

theorem Step.still_of_mem_closing {colors : Bool} {settings : Settings} {step : Step}
    (h : step ∈ closing colors settings) : step.diagnostics = [] := by
  simp only [closing] at h
  grind [Step.still]

theorem mem_reports_of_mem_steps {colors : Bool} {settings : Settings} {step : Step}
    {event : Event} (hstep : step ∈ steps colors settings) (hevent : event ∈ step.diagnostics) :
    event ∈ Walkthrough.reports.flatten := by
  rw [steps, List.mem_append, List.mem_append] at hstep
  rcases hstep with (hstep | hstep) | hstep
  · simp [Step.still_of_mem_opening hstep] at hevent
  · rw [List.mem_flatten, ← diagnostics_walk colors (Phrases.ofLanguage settings.language)]
    exact ⟨_, List.mem_map_of_mem hstep, hevent⟩
  · simp [Step.still_of_mem_closing hstep] at hevent

theorem not_covers_of_mem_steps {colors : Bool} {settings : Settings} {step : Step}
    {event : Event} (hstep : step ∈ steps colors settings) (hevent : event ∈ step.diagnostics) :
    ¬ Filter.Covers Filter.showPrinted event :=
  (Walkthrough.report_of_mem_reports (mem_reports_of_mem_steps hstep hevent)).not_covers

/-! ## Line breaks -/

/-- The lines around the walkthrough. -/
def frame (colors : Bool) (phrases : Phrases) : List (List Char) :=
  [phrases.title.toList, Frame.banner colors Frame.version, Frame.header colors phrases.title,
    Frame.header colors phrases.done, Frame.footer colors]

theorem line_mem_frame {colors : Bool} {settings : Settings} {step : Step}
    (h : step ∈ opening colors settings ∨ step ∈ closing colors settings) :
    step.line ∈ frame colors (Phrases.ofLanguage settings.language) := by
  simp only [opening, closing] at h
  grind [Step.still, frame]

theorem break_not_mem_line {colors : Bool} {settings : Settings} {step : Step}
    (h : step ∈ steps colors settings) : '\n' ∉ step.line := by
  have hframe : ∀ line ∈ frame colors (Phrases.ofLanguage settings.language), '\n' ∉ line := by
    cases colors <;> cases settings.language <;> decide +kernel
  have hwalk : ∀ step ∈ walk colors (Phrases.ofLanguage settings.language),
      '\n' ∉ step.line := by
    cases colors <;> cases settings.language <;> decide +kernel
  rw [steps, List.mem_append, List.mem_append] at h
  rcases h with (h | h) | h
  · exact hframe _ (line_mem_frame (.inl h))
  · exact hwalk _ h
  · exact hframe _ (line_mem_frame (.inr h))

theorem line_of_mem_output {settings : Settings} {filter : Filter} {colors styledLabels : Bool}
    {shown : Shown}
    (h : shown ∈ output ⟨filter, colors, styledLabels⟩ (steps colors settings)) :
    ∃ content, shown.text = content ++ ['\n'] ∧ '\n' ∉ content := by
  obtain ⟨step, hstep, h⟩ := List.mem_flatMap.mp h
  rcases List.mem_append.mp h with h | h
  · obtain ⟨event, hevent, rfl⟩ := List.mem_map.mp h
    have hreport := mem_reports_of_mem_steps hstep (List.mem_filter.mp hevent).1
    exact (Walkthrough.report_of_mem_reports hreport).legible.exists_line _
  · rw [List.mem_singleton.mp h]
    exact ⟨step.line, rfl, break_not_mem_line hstep⟩

/-! ## The page under a filter -/

/-- The page is shown step by step. Under every plain filter the reports of a step that pass
stand right before its own line, after the line of the step before. The printed lines are the
same under all filters, and every filter shows what the most detailed one does except for some
diagnostics, or for all of them where everything is off. -/
theorem page_shown_stepwise (settings : Settings) (colors styledLabels : Bool) :
    let under (chosen : String) : Console :=
      ⟨(Filter.parseValid chosen).add Filter.showPrinted, colors, styledLabels⟩
    let steps := steps colors settings
    (events colors settings).result = .ok () ∧
    (walk colors (Phrases.ofLanguage settings.language)).map (·.diagnostics) = Walkthrough.reports ∧
    (∀ chosen : String, '[' ∉ chosen.toList →
      (under chosen).transcript (events colors settings).entries =
        String.ofList ((output (under chosen) steps).flatMap Shown.text) ∧
      (output (under chosen) steps).filter (!·.isDiagnostic) = steps.map Step.printedLine ∧
      Without (·.isDiagnostic = true) (output (under "trace") steps)
        (output (under chosen) steps)) ∧
    output (under "off") steps = (output (under "trace") steps).filter (!·.isDiagnostic) ∧
    ∀ shown ∈ output (under "trace") steps,
      ∃ content, shown.text = content ++ ['\n'] ∧ '\n' ∉ content := by
  intro under steps
  -- No report is printed text, so the two filters treat all of them alike.
  have htrace : ∀ step ∈ steps, ∀ event ∈ step.diagnostics,
      (under "trace").filter.admits event = true :=
    fun _ hstep _ hevent => Filter.admits_trace (not_covers_of_mem_steps hstep hevent)
  have hoff : ∀ step ∈ steps, ∀ event ∈ step.diagnostics,
      (under "off").filter.admits event = false :=
    fun _ hstep _ hevent => Filter.admits_off (not_covers_of_mem_steps hstep hevent)
  rw [events_eq]
  refine ⟨rfl, diagnostics_walk colors _, ?_, ?_, fun _ => line_of_mem_output⟩
  · intro chosen noBracket
    have hprint := (Filter.plain_parseValid noBracket).admits_print
    refine ⟨?_, printed_output _ steps, ?_⟩
    · rw [text_output hprint]
      rfl
    · exact without_output_of_admits
        (fun step hstep event hevent _ => htrace step hstep event hevent) colors styledLabels
  · rw [output_of_hidden hoff, printed_output]

/-- Warnings of the calculators only, and as little printed text as possible. -/
def warningsOnly : String := "trace,off,abacus_core::calculator=warn,abacus::print=off"

theorem page_shown_warningsOnly :
    '[' ∉ warningsOnly.toList ∧
    Console.transcript
        ⟨(Filter.parseValid warningsOnly).add Filter.showPrinted, false, false⟩
        (events false ⟨.english, true, 1⟩).entries =
      "Calculator Example\n5 + 3 = 8\n10 - 4 = 6\n6 * 7 = 42\n15 / 3 = 5\n" ++
        "[*] rejected division by zero a=10.0\n" ++
        "10 / 0 = Error: Division by zero is not allowed\n\n" ++
        "Calculators created: 2\nFactorial of 5 = 120\n" := by
  have noBracket : '[' ∉ warningsOnly.toList := by
    decide
  obtain ⟨_, _, hshown, _⟩ := page_shown_stepwise ⟨.english, true, 1⟩ false false
  refine ⟨noBracket, ?_⟩
  rw [(hshown warningsOnly noBracket).1]
  decide +kernel

end Reckoner.Page
