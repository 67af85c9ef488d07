import Reckoner.Proofs.Event.Restyled
import Reckoner.Proofs.Page.Steps
import Reckoner.Proofs.Session.Audit

/-!
# Colours of the page

Colours change how the page looks and nothing else. Rules are measured before they are painted,
a painted title stands unchanged in its painted rule, and the reports of the arithmetic have only
their symbols and labels styled. So the page in colours, without its style sequences, is the page
without colours, character for character.

* `Frame.adorned_header`, `Line.adorned_form`: the lines of the page in colours are adorned.
* `Session.escapeFree_of_mem_run`: no report of the arithmetic has an escape character.
* `Page.restyled_events`: the events of the page with and without colours.
* `Page.stripped_colors`: the law for the page, its parts, and the reports of all sessions.
-/

namespace Reckoner

open Text

/-! ## Lines of the page -/

namespace Frame

theorem escape_not_mem_enclose {text : List Char} (h : escape ∉ text) : escape ∉ enclose text := by
  have hopen : escape ∉ ['⟦', ' '] := by decide
  have hclose : escape ∉ [' ', '⟧'] := by decide
  rw [enclose, List.mem_append, List.mem_append, not_or, not_or]
  exact ⟨⟨hopen, h⟩, hclose⟩

theorem escape_not_mem_bannerText {version : String} (h : escape ∉ version.toList) :
    escape ∉ bannerText version := by
  have hname : escape ∉ "ABACUS v".toList := by decide
  refine escape_not_mem_enclose ?_
  rw [List.mem_append, not_or]
  exact ⟨hname, h⟩

theorem escape_not_mem_replicate {c : Char} (h : c ≠ escape) (n : Nat) :
    escape ∉ List.replicate n c :=
  fun hmem => h (List.eq_of_mem_replicate hmem).symm

theorem adorned_replicate {c : Char} (h : c ≠ escape) (n : Nat) :
    Adorned (List.replicate n c) (List.replicate n c) :=
  .refl (escape_not_mem_replicate h n)

theorem adorned_banner {version : String} (h : escape ∉ version.toList) :
    Adorned (banner true version) (banner false version) := by
  have htext := escape_not_mem_bannerText h
  have hrule := (adorned_replicate (by decide : '═' ≠ escape) (room (bannerText version) / 2)).paint
    ruleStyle
  exact (hrule.append ((Adorned.refl htext).paint bannerStyle)).append hrule

/-- The room for dashes is that of the bare title, and the title is painted within its rule. -/
theorem adorned_header {title : String} (h : escape ∉ title.toList) :
    Adorned (header true title) (header false title) := by
  have htitle : escape ∉ uppercase (enclose title.toList) :=
    escape_not_mem_uppercase (escape_not_mem_enclose h)
  have hdashes := adorned_replicate (by decide : '─' ≠ escape)
  have hline : Adorned (headerLine true title) (headerLine false title) :=
    ((hdashes _).append ((Adorned.refl htitle).paint titleStyle)).append (hdashes _)
  exact hline.paint ruleStyle

theorem adorned_footer : Adorned (footer true) (footer false) :=
  (adorned_replicate (by decide) totalWidth).paint ruleStyle

end Frame

namespace Line

/-- No text of a line has an escape character. -/
def EscapeFree : Line → Prop
  | result expression value => escape ∉ expression.toList ∧ escape ∉ value.toList
  | labeled label value => escape ∉ label.toList ∧ escape ∉ value.toList
  | failure expression reason => escape ∉ expression.toList ∧ escape ∉ reason.toList
  | blank => True

instance : DecidablePred EscapeFree
  | result _ _ => inferInstanceAs (Decidable (_ ∧ _))
  | labeled _ _ => inferInstanceAs (Decidable (_ ∧ _))
  | failure _ _ => inferInstanceAs (Decidable (_ ∧ _))
  | blank => inferInstanceAs (Decidable True)

theorem adorned_form {line : Line} (h : line.EscapeFree) {phrases : Phrases}
    (hphrases : escape ∉ phrases.errorLabel.toList) :
    Adorned (line.form true phrases) (line.form false phrases) := by
  have hblank : ' ' ≠ escape := by decide
  have hsign : ∀ sign, sign ≠ escape → Adorned (Frame.ruleStyle.paint [sign]) [sign] :=
    fun sign hne => (Adorned.cons hne .nil).paint Frame.ruleStyle
  cases line with
  | result expression value =>
    obtain ⟨hexpression, hvalue⟩ := h
    exact ((Adorned.refl hexpression).paint leadStyle).append (.cons hblank
      ((hsign '=' (by decide)).append (.cons hblank ((Adorned.refl hvalue).paint valueStyle))))
  | labeled label value =>
    obtain ⟨hlabel, hvalue⟩ := h
    exact ((Adorned.refl hlabel).paint leadStyle).append
      ((hsign ':' (by decide)).append (.cons hblank ((Adorned.refl hvalue).paint valueStyle)))
  | failure expression reason =>
    obtain ⟨hexpression, hreason⟩ := h
    have htext : Adorned (phrases.errorLabel.toList ++ ':' :: ' ' :: reason.toList)
        (phrases.errorLabel.toList ++ ':' :: ' ' :: reason.toList) :=
      (Adorned.refl hphrases).append (.cons (by decide) (.cons hblank (Adorned.refl hreason)))
    exact ((Adorned.refl hexpression).paint leadStyle).append (.cons hblank
      ((hsign '=' (by decide)).append (.cons hblank (htext.paint reasonStyle))))
  | blank => exact .nil

end Line

/-! ## Reports of the arithmetic -/

theorem Report.escapeFree {event : Event} (h : Report event) : event.EscapeFree := by
  intro field hfield
  have hlegible := h.legible.fields field hfield
  obtain ⟨form, hvalue, hform⟩ := hlegible.value
  refine ⟨hlegible.name.1.not_mem rfl, ?_⟩
  rw [hvalue]
  exact hform.not_mem rfl

/-- No report of a session has an escape character. -/
theorem Session.escapeFree_of_mem_run {bank : Bank} {requests : List Request} {event : Event}
    (h : event ∈ (run bank requests).entries) : event.EscapeFree :=
  (report_of_mem_run h).escapeFree

/-! ## The page -/

namespace Walkthrough

theorem escapeFree_line_of_mem_plan {language : Language} {step : Step Line}
    (h : step ∈ plan (Phrases.ofLanguage language)) : step.line.EscapeFree := by
  have hall : ∀ line ∈ (plan (Phrases.ofLanguage language)).map (·.line), line.EscapeFree := by
    cases language <;> decide +kernel
  exact hall step.line (List.mem_map_of_mem h)

theorem report_of_mem_plan {phrases : Phrases} {step : Step Line} {event : Event}
    (h : step ∈ plan phrases) (hevent : event ∈ step.diagnostics) : Report event := by
  refine report_of_mem_reports ?_
  rw [← diagnostics_plan phrases, List.mem_flatten]
  exact ⟨step.diagnostics, List.mem_map_of_mem h, hevent⟩

end Walkthrough

namespace Page

theorem restyled_banner (noBanner : Bool) (quiet : UInt8) :
    List.Forall₂ Restyled (banner true noBanner quiet) (banner false noBanner quiet) := by
  unfold banner
  split
  · exact .nil
  · exact .cons (.printed (Frame.adorned_banner (by decide))) .nil

theorem restyled_header {title : String} (h : escape ∉ title.toList) (quiet : UInt8) :
    List.Forall₂ Restyled (header true quiet title) (header false quiet title) := by
  unfold header
  split
  · have hname : escape ∉ Event.printedField.toList := by decide
    exact .cons (.same (List.forall_mem_singleton.mpr ⟨hname, h⟩)) .nil
  · exact .cons (.printed (Frame.adorned_header h)) .nil

theorem restyled_closingHeader {title : String} (h : escape ∉ title.toList) (quiet : UInt8) :
    List.Forall₂ Restyled (closingHeader true quiet title) (closingHeader false quiet title) := by
  unfold closingHeader
  split
  · exact .nil
  · exact restyled_header h quiet

theorem restyled_footer (quiet : UInt8) :
    List.Forall₂ Restyled (footer true quiet) (footer false quiet) := by
  unfold footer
  split
  · exact .nil
  · exact .cons (.printed Frame.adorned_footer) .nil

theorem escape_not_mem_phrases (language : Language) :
    escape ∉ (Phrases.ofLanguage language).title.toList ∧
      escape ∉ (Phrases.ofLanguage language).errorLabel.toList ∧
      escape ∉ (Phrases.ofLanguage language).done.toList := by
  cases language <;> decide

theorem restyled_entry {language : Language} {entry : Walkthrough.Entry}
    (h : entry ∈ (Walkthrough.steps language).run.entries) :
    Restyled (eventOf true (Phrases.ofLanguage language) entry)
      (eventOf false (Phrases.ofLanguage language) entry) := by
  rw [Walkthrough.run_steps] at h
  obtain ⟨step, hstep, hentry⟩ := List.mem_flatMap.mp h
  rcases List.mem_append.mp hentry with hentry | hentry
  · obtain ⟨event, hevent, rfl⟩ := List.mem_map.mp hentry
    exact .same (Walkthrough.report_of_mem_plan hstep hevent).escapeFree
  · rw [List.mem_singleton.mp hentry]
    exact .printed (Line.adorned_form (Walkthrough.escapeFree_line_of_mem_plan hstep)
      (escape_not_mem_phrases language).2.1)

theorem restyled_body (language : Language) :
    List.Forall₂ Restyled (body true language).entries (body false language).entries := by
  simp only [body, List.forall₂_map_left_iff, List.forall₂_map_right_iff, List.forall₂_same]
  exact fun _ => restyled_entry

theorem entries_events (colors : Bool) (settings : Settings) :
    (events colors settings).entries =
      banner colors settings.noBanner settings.quiet ++
        header colors settings.quiet (Phrases.ofLanguage settings.language).title ++
        (body colors settings.language).entries ++
        (closingHeader colors settings.quiet (Phrases.ofLanguage settings.language).done ++
          footer colors settings.quiet) := by
  rw [events, body_eq]

/-- The page in colours has the events of the page without colours, in other colours. -/
theorem restyled_events (settings : Settings) :
    List.Forall₂ Restyled (events true settings).entries (events false settings).entries := by
  obtain ⟨htitle, _, hdone⟩ := escape_not_mem_phrases settings.language
  rw [entries_events, entries_events]
  have hopening := List.rel_append (restyled_banner settings.noBanner settings.quiet)
    (restyled_header htitle settings.quiet)
  have hclosing := List.rel_append (restyled_closingHeader hdone settings.quiet)
    (restyled_footer settings.quiet)
  exact List.rel_append (List.rel_append hopening (restyled_body settings.language)) hclosing

/-- Colours change presentation only. What is written with colours, without its style sequences,
is what is written without colours: for the page under all settings and filters, for each of its
parts, for lines with any texts, and for the reports of every session. -/
theorem stripped_colors (filter : Filter) :
    let on : Console := ⟨filter, true, true⟩
    let off : Console := ⟨filter, false, false⟩
    (∀ settings, strip (on.written (events true settings).entries) =
      off.written (events false settings).entries) ∧
    (∀ noBanner quiet, strip (on.written (banner true noBanner quiet)) =
      off.written (banner false noBanner quiet)) ∧
    (∀ language, strip (on.written (body true language).entries) =
      off.written (body false language).entries) ∧
    (∀ quiet, strip (on.written (footer true quiet)) = off.written (footer false quiet)) ∧
    (∀ quiet title, escape ∉ title.toList →
      strip (on.written (header true quiet title)) = off.written (header false quiet title) ∧
      strip (on.written (closingHeader true quiet title)) =
        off.written (closingHeader false quiet title)) ∧
    (∀ (line : Line) (phrases : Phrases), line.EscapeFree →
      escape ∉ phrases.errorLabel.toList →
      strip (line.form true phrases) = line.form false phrases ∧
      strip (on.written [printed (line.form true phrases)]) =
        off.written [printed (line.form false phrases)]) ∧
    ∀ bank requests, strip (on.written (Session.run bank requests).entries) =
      off.written (Session.run bank requests).entries := by
  intro on off
  have hstrip : ∀ {events others : List Event}, List.Forall₂ Restyled events others →
      strip (on.written events) = off.written others :=
    fun h => strip_of_adorned (Console.adorned_written h filter)
  refine ⟨fun settings => hstrip (restyled_events settings),
    fun noBanner quiet => hstrip (restyled_banner noBanner quiet),
    fun language => hstrip (restyled_body language),
    fun quiet => hstrip (restyled_footer quiet), ?_, ?_, ?_⟩
  · intro quiet title htitle
    exact ⟨hstrip (restyled_header htitle quiet), hstrip (restyled_closingHeader htitle quiet)⟩
  · intro line phrases hline hphrases
    have hform := Line.adorned_form hline hphrases
    exact ⟨strip_of_adorned hform, hstrip (.cons (.printed hform) .nil)⟩
  · intro bank requests
    refine hstrip (List.forall₂_same.mpr fun _ hevent => ?_)
    exact .same (Session.escapeFree_of_mem_run hevent)

-- A title with a letter that becomes two, and a line with an empty text.
theorem stripped_colors_sharp :
    let on : Console := ⟨Filter.add [] Filter.showPrinted, true, true⟩
    let off : Console := ⟨Filter.add [] Filter.showPrinted, false, false⟩
    let line : Line := .failure "10 / 0" ""
    escape ∉ "straße".toList ∧
    strip (on.written (header true 0 "straße")) = off.written (header false 0 "straße") ∧
    Frame.header true "straße" ≠ Frame.header false "straße" ∧
    line.EscapeFree ∧
    strip (line.form true .english) = "10 / 0 = Error: ".toList ∧
    line.form true .english ≠ line.form false .english := by
  intro on off line
  have htitle : escape ∉ "straße".toList := by decide
  have hline : line.EscapeFree := by decide
  obtain ⟨_, _, _, _, hheader, hform, _⟩ := stripped_colors on.filter
  refine ⟨htitle, (hheader 0 "straße" htitle).1, by decide +kernel, hline, ?_, by decide +kernel⟩
  exact (hform line .english hline (by decide)).1

end Page

end Reckoner
