import Reckoner.Proofs.Page.Colors
import Reckoner.Proofs.Text.Look

/-!
# Looks of the page

Every part of the page in colours is shown in a look of its own: rules and separators in bright
black, titles in bright green, expressions and labels in white, values in bright cyan and reasons
in bold red. No look reaches beyond its part. In particular every line break is plain, so that
each line looks the same wherever it stands.

* `Frame.draws_header`: dashes on both sides of a title keep the look of the rule.
* `Line.draws_form`, `Report.draws_line`: the lines of the walkthrough and the reports of the
  arithmetic.
* `Console.shown_written`: a text of lines that end plain looks like its lines.
* `Page.parts_keep_colors`: the law for all parts of the page and for the reports of all sessions.
-/

namespace Reckoner

open Text

/-! ## Frame -/

namespace Frame

/-- How a title in its rule is to look; the same for the banner and the footer below. -/
def headerCells (title : String) : List (Char × Look) :=
  let text := enclose title.toList
  (Look.inked .black true).cells (List.replicate (room text / 2) '─') ++
    (Look.inked .green true).cells (uppercase text) ++
    (Look.inked .black true).cells (List.replicate (room text - room text / 2) '─')

def bannerCells (version : String) : List (Char × Look) :=
  let rule := (Look.inked .black true).cells (List.replicate (room (bannerText version) / 2) '═')
  rule ++ { Look.inked .green true with bold := true }.cells (bannerText version) ++ rule

def footerCells : List (Char × Look) :=
  (Look.inked .black true).cells (List.replicate totalWidth '═')

theorem draws_header {title : String} (h : escape ∉ title.toList) :
    Draws .plain (header true title) (headerCells title) .plain := by
  have hdashes := escape_not_mem_replicate (by decide : '─' ≠ escape)
  have htitle : escape ∉ uppercase (enclose title.toList) :=
    escape_not_mem_uppercase (escape_not_mem_enclose h)
  exact draws_paint_around (hdashes _) htitle (hdashes _) ruleStyle titleStyle

theorem draws_banner {version : String} (h : escape ∉ version.toList) :
    Draws .plain (banner true version) (bannerCells version) .plain := by
  have htext := escape_not_mem_bannerText h
  have hrule := draws_paint (escape_not_mem_replicate (by decide : '═' ≠ escape)
    (room (bannerText version) / 2)) ruleStyle .plain
  exact (hrule.append (draws_paint htext bannerStyle .plain)).append hrule

theorem draws_footer : Draws .plain (footer true) footerCells .plain :=
  draws_paint (escape_not_mem_replicate (by decide) totalWidth) ruleStyle .plain

end Frame

/-! ## Lines of the walkthrough -/

namespace Line

def cells (phrases : Phrases) : Line → List (Char × Look)
  | result expression value =>
    (Look.inked .white false).cells expression.toList ++ (' ', .plain) ::
      ((Look.inked .black true).cells ['='] ++ (' ', .plain) ::
        (Look.inked .cyan true).cells value.toList)
  | labeled label value =>
    (Look.inked .white false).cells label.toList ++
      ((Look.inked .black true).cells [':'] ++ (' ', .plain) ::
        (Look.inked .cyan true).cells value.toList)
  | failure expression reason =>
    (Look.inked .white false).cells expression.toList ++ (' ', .plain) ::
      ((Look.inked .black true).cells ['='] ++ (' ', .plain) ::
        { Look.inked .red false with bold := true }.cells
          (phrases.errorLabel.toList ++ ':' :: ' ' :: reason.toList))
  | blank => []

theorem draws_form {line : Line} (h : line.EscapeFree) {phrases : Phrases}
    (hphrases : escape ∉ phrases.errorLabel.toList) :
    Draws .plain (line.form true phrases) (line.cells phrases) .plain := by
  have hblank : ' ' ≠ escape := by decide
  have hsign : ∀ sign, sign ≠ escape →
      Draws .plain (Frame.ruleStyle.paint [sign]) ((Look.inked .black true).cells [sign]) .plain :=
    fun sign hne => draws_paint (by simpa using hne.symm) Frame.ruleStyle .plain
  cases line with
  | result expression value =>
    obtain ⟨hexpression, hvalue⟩ := h
    have hlead := draws_paint hexpression leadStyle .plain
    have hend := draws_paint hvalue valueStyle .plain
    exact hlead.append (((hsign '=' (by decide)).append (hend.cons hblank)).cons hblank)
  | labeled label value =>
    obtain ⟨hlabel, hvalue⟩ := h
    have hlead := draws_paint hlabel leadStyle .plain
    have hend := draws_paint hvalue valueStyle .plain
    exact hlead.append ((hsign ':' (by decide)).append (hend.cons hblank))
  | failure expression reason =>
    obtain ⟨hexpression, hreason⟩ := h
    have htext : escape ∉ phrases.errorLabel.toList ++ ':' :: ' ' :: reason.toList := by
      simp [hphrases, hreason, hblank.symm, show escape ≠ ':' by decide]
    have hlead := draws_paint hexpression leadStyle .plain
    have hend := draws_paint htext reasonStyle .plain
    exact hlead.append (((hsign '=' (by decide)).append (hend.cons hblank)).cons hblank)
  | blank => exact draws_nil .plain

end Line

/-! ## Reports of the arithmetic -/

theorem Text.Draws.intercalate {α : Type} {f : α → List Char} {g : α → List (Char × Look)}
    {separator : List Char} (hseparator : escape ∉ separator) {look : Look} {parts : List α}
    (h : ∀ part ∈ parts, Draws look (f part) (g part) look) :
    Draws look (separator.intercalate (parts.map f))
      ((look.cells separator).intercalate (parts.map g)) look := by
  induction parts with
  | nil => exact draws_nil look
  | cons part rest ih =>
    have hpart := h part List.mem_cons_self
    have hrest := ih fun other hother => h other (List.mem_cons_of_mem part hother)
    cases rest with
    | nil => simpa [List.intercalate] using hpart
    | cons other rest =>
      have hmore := (hpart.append (draws_text hseparator look)).append hrest
      simpa [List.intercalate] using hmore

/-- How a field is to look: the message plain, any other field with its name in italics and its
sign dimmed where labels are styled. -/
def Field.cells (styled : Bool) (field : Field) : List (Char × Look) :=
  if field.name = Event.messageField then Look.plain.cells (guard field.value.plain.toList)
  else
    { Look.plain with italic := styled }.cells field.name.toList ++
      { Look.plain with dim := styled }.cells ['='] ++ Look.plain.cells field.value.form

/-- How the line of an event that is not printed text is to look, but for the line break. -/
def Console.reportCells (console : Console) (event : Event) : List (Char × Look) :=
  (if console.colors then event.level.style.onto .plain else .plain).cells event.level.symbol ++
    (' ', .plain) ::
      (Look.plain.cells [' ']).intercalate (event.fields.map (·.cells console.styledLabels))

theorem Field.draws_label {name : String} (h : escape ∉ name.toList)
    (hwhole : shownName name = name.toList) (styled : Bool) :
    Draws .plain (label styled name)
      ({ Look.plain with italic := styled }.cells name.toList ++
        { Look.plain with dim := styled }.cells ['=']) .plain := by
  have hsign : escape ∉ ['='] := by decide
  rw [label, hwhole]
  cases styled with
  | false => exact (draws_text h .plain).append (draws_text hsign .plain)
  | true =>
    have hitalic : Draws .plain (sequence ['3']) [] { Look.plain with italic := true } := rfl
    have hdim : Draws .plain (sequence ['2']) [] { Look.plain with dim := true } := rfl
    have hname := (hitalic.append (draws_text h _)).append (draws_reset _)
    have hlabel := ((hname.append hdim).append (draws_text hsign _)).append (draws_reset _)
    simpa using hlabel

theorem Field.draws_form {field : Field} (h : field.EscapeFree)
    (hwhole : shownName field.name = field.name.toList) (styled : Bool) :
    Draws .plain (field.form styled) (field.cells styled) .plain := by
  unfold form cells
  split
  · exact draws_text (escape_not_mem_guard _) .plain
  · have hvalue := draws_text (Value.escape_not_mem_form h.value) .plain
    exact (draws_label h.name hwhole styled).append hvalue

theorem Report.draws_line {event : Event} (h : Report event) (console : Console) :
    Draws .plain (console.line event) (console.reportCells event ++ [('\n', .plain)]) .plain := by
  have hunprinted : event.printedText? = none := if_neg h.legible.target
  have hlevel : escape ∉ event.level.symbol := by
    cases event.level <;> decide
  have hsymbol : Draws .plain (console.symbol event.level) _ .plain :=
    draws_paintIf hlevel console.colors event.level.style
  have hunmarked : ∀ field ∈ event.fields, Field.isMetadata field.name = false :=
    fun field hfield => (h.legible.fields field hfield).name.2.1
  have hfields : Draws .plain
      (List.intercalate [' '] (event.fields.map (·.form console.styledLabels))) _ .plain :=
    Draws.intercalate (by decide) fun field hfield =>
      Field.draws_form (h.escapeFree field hfield) (h.legible.fields field hfield).name.2.2
        console.styledLabels
  have hbreak : Draws .plain ['\n'] [('\n', .plain)] .plain := draws_text (by decide) .plain
  have hline := hsymbol.append ((hfields.append hbreak).cons (by decide : ' ' ≠ escape))
  rw [Console.line_of_unprinted hunprinted, Field.forms_of_unmarked hunmarked]
  simpa [Console.reportCells] using hline

/-! ## The page -/

namespace Console

/-- A line that ends plain, line break included. -/
def EndsPlain (console : Console) (event : Event) : Prop :=
  ∃ cells, Draws .plain (console.line event) (cells ++ [('\n', .plain)]) .plain

theorem draws_printed {text : List Char} {cells : List (Char × Look)}
    (h : Draws .plain text cells .plain) (console : Console) :
    Draws .plain (console.line (Page.printed text)) (cells ++ [('\n', .plain)]) .plain := by
  have hbreak : Draws .plain ['\n'] [('\n', .plain)] .plain := draws_text (by decide) .plain
  rw [Page.printed, line_print, String.toList_ofList]
  exact h.append hbreak

/-- Lines that end plain look the same whatever stands before them. -/
theorem shown_written {console : Console} {events : List Event}
    (h : ∀ event ∈ events, console.EndsPlain event) :
    shown (console.written events) =
      (events.filter console.filter.admits).flatMap fun event => shown (console.line event) := by
  have hdraws : ∀ shownEvents : List Event, (∀ event ∈ shownEvents, console.EndsPlain event) →
      Draws .plain (shownEvents.flatMap console.line)
        (shownEvents.flatMap fun event => shown (console.line event)) .plain := by
    intro shownEvents hshown
    induction shownEvents with
    | nil => exact draws_nil .plain
    | cons event rest ih =>
      obtain ⟨cells, hcells⟩ := hshown event List.mem_cons_self
      have hrest := ih fun other hother => hshown other (List.mem_cons_of_mem event hother)
      rw [List.flatMap_cons, List.flatMap_cons, hcells.shown_eq]
      exact hcells.append hrest
  exact (hdraws _ fun event hevent => h event (List.mem_filter.mp hevent).1).shown_eq

end Console

namespace Page

theorem endsPlain_header {title : String} (h : escape ∉ title.toList) (quiet : UInt8)
    (console : Console) : ∀ event ∈ header true quiet title, console.EndsPlain event := by
  unfold header
  split
  · have hbare := Console.draws_printed (draws_text h .plain) console
    rw [printed, String.ofList_toList] at hbare
    exact List.forall_mem_singleton.mpr ⟨_, hbare⟩
  · exact List.forall_mem_singleton.mpr ⟨_, Console.draws_printed (Frame.draws_header h) console⟩

theorem endsPlain_entry {language : Language} {entry : Walkthrough.Entry}
    (h : entry ∈ (Walkthrough.steps language).run.entries) (console : Console) :
    console.EndsPlain (eventOf true (Phrases.ofLanguage language) entry) := by
  rw [Walkthrough.run_steps] at h
  obtain ⟨step, hstep, hentry⟩ := List.mem_flatMap.mp h
  rcases List.mem_append.mp hentry with hentry | hentry
  · obtain ⟨event, hevent, rfl⟩ := List.mem_map.mp hentry
    exact ⟨_, (Walkthrough.report_of_mem_plan hstep hevent).draws_line console⟩
  · rw [List.mem_singleton.mp hentry]
    exact ⟨_, Console.draws_printed (Line.draws_form (Walkthrough.escapeFree_line_of_mem_plan hstep)
      (escape_not_mem_phrases language).2.1) console⟩

theorem endsPlain_events (settings : Settings) (console : Console) :
    ∀ event ∈ (events true settings).entries, console.EndsPlain event := by
  obtain ⟨htitle, _, hdone⟩ := escape_not_mem_phrases settings.language
  intro event hevent
  rw [entries_events] at hevent
  simp only [List.mem_append] at hevent
  rcases hevent with ((hbanner | hheader) | hbody) | hclosing | hfooter
  · unfold banner at hbanner
    split at hbanner
    · cases hbanner
    · rw [List.mem_singleton.mp hbanner]
      exact ⟨_, Console.draws_printed (Frame.draws_banner (by decide)) console⟩
  · exact endsPlain_header htitle _ console event hheader
  · obtain ⟨entry, hentry, rfl⟩ := List.mem_map.mp hbody
    exact endsPlain_entry hentry console
  · unfold closingHeader at hclosing
    split at hclosing
    · cases hclosing
    · exact endsPlain_header hdone _ console event hclosing
  · unfold footer at hfooter
    split at hfooter
    · cases hfooter
    · rw [List.mem_singleton.mp hfooter]
      exact ⟨_, Console.draws_printed Frame.draws_footer console⟩

/-- No colour leaks and every part has its colour. Titles with their dashes, lines with any texts,
the banner, the footer and the reports of every session are shown as they are to look, up to a
plain line break; and so the page under all settings and filters looks like its lines one by
one. -/
theorem parts_keep_colors (console : Console) :
    let lineBreak : Char × Look := ('\n', .plain)
    (∀ title, escape ∉ title.toList →
      shown ((header true 0 title).flatMap console.line) = Frame.headerCells title ++ [lineBreak]) ∧
    (∀ (line : Line) (phrases : Phrases), line.EscapeFree →
      escape ∉ phrases.errorLabel.toList →
      shown (line.form true phrases) = line.cells phrases ∧
      shown (console.line (printed (line.form true phrases))) =
        line.cells phrases ++ [lineBreak]) ∧
    shown ((banner true false 0).flatMap console.line) =
      Frame.bannerCells Frame.version ++ [lineBreak] ∧
    shown ((footer true 0).flatMap console.line) = Frame.footerCells ++ [lineBreak] ∧
    (∀ bank requests, ∀ event ∈ (Session.run bank requests).entries,
      shown (console.line event) = console.reportCells event ++ [lineBreak]) ∧
    (∀ settings, shown (console.written (events true settings).entries) =
      ((events true settings).entries.filter console.filter.admits).flatMap
        fun event => shown (console.line event)) ∧
    ∀ settings, ∀ event ∈ (events true settings).entries,
      ∃ cells, shown (console.line event) = cells ++ [lineBreak] := by
  intro lineBreak
  have hprinted : ∀ {text : List Char} {cells : List (Char × Look)},
      Draws .plain text cells .plain →
      shown ([printed text].flatMap console.line) = cells ++ [lineBreak] := by
    intro text cells htext
    rw [List.flatMap_singleton]
    exact (Console.draws_printed htext console).shown_eq
  refine ⟨fun title htitle => hprinted (Frame.draws_header htitle), ?_,
    hprinted (Frame.draws_banner (by decide)), hprinted Frame.draws_footer, ?_, ?_, ?_⟩
  · intro line phrases hline hphrases
    have hform := Line.draws_form hline hphrases
    exact ⟨hform.shown_eq, (Console.draws_printed hform console).shown_eq⟩
  · intro bank requests event hevent
    exact ((Session.report_of_mem_run hevent).draws_line console).shown_eq
  · exact fun settings => Console.shown_written (endsPlain_events settings console)
  · intro settings event hevent
    obtain ⟨cells, hcells⟩ := endsPlain_events settings console event hevent
    exact ⟨cells, hcells.shown_eq⟩

/-- A title that leaves no room for dashes. -/
def overlong : String := String.ofList (List.replicate 70 'x')

-- A title without dashes, a failure without reason, and a report with styled labels.
theorem parts_keep_colors_overlong :
    let console : Console := ⟨[], true, true⟩
    let line : Line := .failure "10 / 0" ""
    escape ∉ overlong.toList ∧
    shown ((header true 0 overlong).flatMap console.line) =
      (Look.inked .green true).cells ("⟦ ".toList ++ List.replicate 70 'X' ++ " ⟧".toList) ++
        [('\n', .plain)] ∧
    line.EscapeFree ∧
    shown (line.form true .english) =
      (Look.inked .white false).cells "10 / 0".toList ++ Look.plain.cells [' '] ++
        (Look.inked .black true).cells ['='] ++ Look.plain.cells [' '] ++
        { Look.inked .red false with bold := true }.cells "Error: ".toList ∧
    Bank.added 0 ∈ (Session.run .empty [.create]).entries ∧
    shown (console.line (Bank.added 0)) =
      (Look.inked .blue false).cells "[?]".toList ++ Look.plain.cells " calculator added ".toList ++
        { Look.plain with italic := true }.cells "id".toList ++
        { Look.plain with dim := true }.cells ['='] ++ Look.plain.cells "0\n".toList := by
  intro console line
  have htitle : escape ∉ overlong.toList := by decide
  have hline : line.EscapeFree := by decide
  have hadded : Bank.added 0 ∈ (Session.run .empty [.create]).entries := by decide
  obtain ⟨hheader, hform, _, _, hreports, _⟩ := parts_keep_colors console
  refine ⟨htitle, (hheader overlong htitle).trans (by decide +kernel), hline,
    (hform line .english hline (by decide)).1.trans (by decide), hadded, ?_⟩
  exact (hreports .empty [.create] _ hadded).trans (by decide +kernel)

end Page

end Reckoner
