import Reckoner.Proofs.Page.Colors
import Reckoner.Proofs.Program.Output

/-!
# Escape characters in the output

Where colours are not forced, neither the symbols of levels nor the printed lines have an escape
character. The labels of fields and the help text take no part in that decision: they are styled
by a rule of their own. So the output of such a run is free of escape characters unless it shows
a report of the arithmetic with its labels, or the help text where styles are forced and colours
are not.

* `Console.escape_mem_line`: a styled label leaves an escape character in its line.
* `Page.escape_mem_line_iff`: the lines of a page without colours that have one.
* `Program.escape_mem_stdout_iff`: when the output of a run has one, for all arguments and
  environments that do not force colours.
* `Program.escape_of_verbose`: one flag and an empty environment suffice.
-/

namespace Reckoner

open Text

/-! ## Labels -/

/-- An event with a field that is shown with its name. -/
def Event.Labeled (event : Event) : Prop :=
  event.printedText? = none ∧
    ∃ field ∈ event.fields, field.name ≠ messageField ∧ Field.isMetadata field.name = false

instance : DecidablePred Event.Labeled :=
  fun event => inferInstanceAs (Decidable (event.printedText? = none ∧ _))

theorem Text.mem_intercalate {separator part : List Char} {parts : List (List Char)} {c : Char}
    (hpart : part ∈ parts) (hc : c ∈ part) : c ∈ separator.intercalate parts := by
  induction parts with
  | nil => cases hpart
  | cons first rest ih =>
    cases rest with
    | nil =>
      rw [List.intercalate_singleton, ← List.mem_singleton.mp hpart]
      exact hc
    | cons second rest =>
      rw [List.intercalate_cons_cons]
      rcases List.mem_cons.mp hpart with rfl | hpart
      · exact List.mem_append_left _ (List.mem_append_left _ hc)
      · exact List.mem_append_right _ (ih hpart)

namespace Console

theorem mem_written_iff {console : Console} {events : List Event} {c : Char} :
    c ∈ console.written events ↔
      ∃ event ∈ events, console.filter.admits event = true ∧ c ∈ console.line event := by
  simp only [written, List.mem_flatMap, List.mem_filter, and_assoc]

theorem escape_mem_line {event : Event} (h : event.Labeled) (filter : Filter) (colors : Bool) :
    escape ∈ line ⟨filter, colors, true⟩ event := by
  obtain ⟨hprinted, field, hfield, hname, hunmarked⟩ := h
  have hform : escape ∈ field.form true := by
    rw [Field.form, if_neg hname]
    simp [Field.label, Text.sequence]
  have hkept : field ∈ event.fields.filter (!Field.isMetadata ·.name) :=
    List.mem_filter.mpr ⟨hfield, by rw [hunmarked]; rfl⟩
  have hfields : escape ∈ Field.forms true event.fields :=
    mem_intercalate (List.mem_map_of_mem hkept) hform
  rw [line_of_unprinted hprinted]
  simp [hfields]

end Console

/-! ## A page without colours -/

namespace Page

theorem labeled_of_mem_reports {event : Event} (h : event ∈ Walkthrough.reports.flatten) :
    event.Labeled := by
  have hall : ∀ event ∈ Walkthrough.reports.flatten, event.Labeled := by
    decide +kernel
  exact hall event h

theorem mem_events_of_mem_reports {event : Event} (h : event ∈ Walkthrough.reports.flatten)
    (colors : Bool) (settings : Settings) : event ∈ (events colors settings).entries := by
  rw [← diagnostics_walk colors (Phrases.ofLanguage settings.language)] at h
  obtain ⟨_, hreports, hevent⟩ := List.mem_flatten.mp h
  obtain ⟨step, hstep, rfl⟩ := List.mem_map.mp hreports
  have hsteps : step ∈ steps colors settings :=
    List.mem_append_left _ (List.mem_append_right _ hstep)
  rw [events_eq]
  exact List.mem_flatMap.mpr ⟨step, hsteps, List.mem_append_left _ hevent⟩

/-- With nothing styled no line of a page without colours has an escape character. -/
theorem escape_not_mem_line {settings : Settings} {event : Event}
    (h : event ∈ (events false settings).entries) (filter : Filter) :
    escape ∉ Console.line ⟨filter, false, false⟩ event := by
  -- All lines of the page are seen through a filter that hides none.
  have hshown : Filter.admits [.plain "" (.upTo .trace)] event = true := by
    rw [Filter.admits_everywhere]
    cases event.level <;> rfl
  have hwritten := (Console.adorned_written (restyled_events settings)
    [.plain "" (.upTo .trace)]).escape_not_mem
  intro hmem
  exact hwritten (Console.mem_written_iff.mpr ⟨event, h, hshown, hmem⟩)

/-- With styled labels it is the lines of the reports that have one. -/
theorem escape_mem_line_iff {settings : Settings} {event : Event}
    (h : event ∈ (events false settings).entries) (filter : Filter) (styledLabels : Bool) :
    escape ∈ Console.line ⟨filter, false, styledLabels⟩ event ↔
      styledLabels = true ∧ event ∈ Walkthrough.reports.flatten := by
  have hplain := escape_not_mem_line h filter
  cases styledLabels with
  | false => simp [hplain]
  | true =>
    refine ⟨fun hmem => ⟨rfl, ?_⟩, fun ⟨_, hreport⟩ =>
      Console.escape_mem_line (labeled_of_mem_reports hreport) filter false⟩
    rw [events_eq] at h
    obtain ⟨step, hstep, hevent⟩ := List.mem_flatMap.mp h
    rcases List.mem_append.mp hevent with hevent | hevent
    · exact mem_reports_of_mem_steps hstep hevent
    · -- A printed line is the same whether labels are styled or not.
      rw [List.mem_singleton.mp hevent, printed, Console.line_print] at hmem hplain
      exact absurd hmem hplain

theorem escape_mem_written_iff (settings : Settings) (filter : Filter) (styledLabels : Bool) :
    escape ∈ Console.written ⟨filter, false, styledLabels⟩ (events false settings).entries ↔
      styledLabels = true ∧
        ∃ event ∈ Walkthrough.reports.flatten, filter.admits event = true := by
  rw [Console.mem_written_iff]
  constructor
  · rintro ⟨event, hevent, hadmits, hmem⟩
    obtain ⟨hstyled, hreport⟩ := (escape_mem_line_iff hevent filter styledLabels).mp hmem
    exact ⟨hstyled, event, hreport, hadmits⟩
  · rintro ⟨hstyled, event, hreport, hadmits⟩
    have hevent := mem_events_of_mem_reports hreport false settings
    exact ⟨event, hevent, hadmits,
      (escape_mem_line_iff hevent filter styledLabels).mpr ⟨hstyled, hreport⟩⟩

end Page

/-! ## A run that does not force colours -/

namespace Program

theorem escape_mem_helpText_iff (styled : Bool) :
    escape ∈ (CommandLine.helpText.write styled).toList ↔ styled = true := by
  cases styled with
  | false => simp [RichText.escape_not_mem_write]
  | true =>
    have hheading : .emphasised .heading "Options:" ∈ CommandLine.helpText := by
      simp [CommandLine.helpText]
    simp [RichText.escape_mem_write hheading]

theorem escape_not_mem_versionText (styled : Bool) :
    escape ∉ (CommandLine.versionText.write styled).toList := by
  cases styled with
  | false => exact RichText.escape_not_mem_write _
  | true => decide +kernel

/-- Without forced colours, help and error texts are styled only if the variable that forces
colours is `0`. -/
theorem stylesTexts_iff {environment : Environment} (h : environment.forcesColor = false) :
    environment.stylesTexts = true ↔
      environment.declinesStyle = false ∧ environment.forceColor = some "0" := by
  cases hforce : environment.forceColor with
  | none => simp [Environment.stylesTexts, hforce]
  | some text =>
    obtain rfl : text = "0" := by
      simpa [Environment.forcesColor, hforce] using h
    simp [Environment.stylesTexts, hforce]

theorem escape_mem_page_iff {arguments : List String} {options : CommandLine.Options}
    (hparse : CommandLine.parse arguments = .ok options) {environment : Environment}
    (hwhole : environment.tears = false) (h : environment.forcesColor = false) :
    escape ∈ (run arguments environment).stdout.toList ↔
      environment.declinesStyle = false ∧
        ∃ event ∈ Walkthrough.reports.flatten,
          (filter environment options.verbose).admits event = true := by
  have hwritten := Page.escape_mem_written_iff (settings options)
    (filter environment options.verbose) (!environment.declinesStyle)
  rw [Bool.not_eq_true'] at hwritten
  rw [run_of_ok hparse hwhole, Console.transcript, String.toList_ofList, console, h]
  exact hwritten

/-- A run that does not force colours writes an escape character iff styles are not declined and
it shows a report of the arithmetic, or its help text where the variable that forces colours is
`0`. A run that breaks down at its filter shows nothing. -/
theorem escape_mem_stdout_iff (arguments : List String) {environment : Environment}
    (h : environment.forcesColor = false) :
    escape ∈ (run arguments environment).stdout.toList ↔
      environment.declinesStyle = false ∧
        ((∃ options, CommandLine.parse arguments = .ok options ∧ environment.tears = false ∧
            ∃ event ∈ Walkthrough.reports.flatten,
              (filter environment options.verbose).admits event = true) ∨
          CommandLine.parse arguments = .error .help ∧ environment.forceColor = some "0") := by
  cases hparse : CommandLine.parse arguments with
  | ok options =>
    cases htears : environment.tears with
    | false => simp [escape_mem_page_iff hparse htears h]
    | true => simp [run_of_tears hparse htears, breakdown]
  | error stop =>
    cases stop with
    | help =>
      have htext := (escape_mem_helpText_iff environment.stylesTexts).trans (stylesTexts_iff h)
      simpa [run, hparse] using htext
    | version => simp [run, hparse, escape_not_mem_versionText]
    | refused refusal => simp [run, hparse]

theorem escape_mem_stdout_declined :
    Environment.forcesColor ⟨none, some "1", none⟩ = false ∧
    escape ∉ (run ["-vv"] ⟨none, some "1", none⟩).stdout.toList ∧
    Environment.forcesColor ⟨none, none, some "0"⟩ = false ∧
    escape ∈ (run ["--help"] ⟨none, none, some "0"⟩).stdout.toList := by
  refine ⟨rfl, ?_, rfl, ?_⟩
  · rw [escape_mem_stdout_iff ["-vv"] rfl]
    rintro ⟨hstyled, _⟩
    cases hstyled
  · rw [escape_mem_stdout_iff ["--help"] rfl]
    exact ⟨rfl, .inr ⟨by decide +kernel, rfl⟩⟩

/-- One flag and an empty environment: no colour is forced, and the labels of the reports are
styled all the same. -/
theorem escape_of_verbose :
    Environment.forcesColor ⟨none, none, none⟩ = false ∧
    escape ∈ (run ["-v"] ⟨none, none, none⟩).stdout.toList := by
  have hparse : CommandLine.parse ["-v"] = .ok ⟨.english, false, 0, 1⟩ := by decide +kernel
  refine ⟨rfl, ?_⟩
  rw [escape_mem_page_iff hparse rfl rfl]
  exact ⟨rfl, computingFactorial 5, by decide +kernel, by decide +kernel⟩

end Program

end Reckoner
