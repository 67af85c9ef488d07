import Reckoner.Program
import Reckoner.Proofs.Event.Precedence

/-!
# Printed text

Printed text goes through the same filter and the same console as every diagnostic. Still no
plain filter holds it back, because the directive that shows it is added last: a longer target
does not start the print target, and a directive with the print target itself is overridden. The
console writes it without a symbol, a label or quotes.

* `Console.Verbatim`: printed text is written as it is, wherever it stands among other events.
* `Console.verbatim_of_plain`: so it is by a console with a plain filter.
* `Console.prints_verbatim`: the same for the filters that a list of directives, a text and the
  environment of a run give.
-/

namespace Reckoner

namespace Filter

/-- The directive that is added last, as it is written. -/
def showPrintedText : String := "abacus::print=info"

theorem parseValid_showPrintedText : parseValid showPrintedText = [showPrinted] := by
  decide +kernel

theorem parseValid_append_showPrintedText (text : String) :
    parseValid (text ++ "," ++ showPrintedText) = (parseValid text).add showPrinted := by
  rw [parseValid_append_comma, parseValid_showPrintedText, add]

/-- The directive that is added for printed text has no say about other events. -/
theorem admits_add_showPrinted (filter : Filter) {event : Event}
    (h : ¬ Covers showPrinted event) :
    (filter.add showPrinted).admits event = filter.admits event := by
  have hsilent : showPrinted.speaksFor event = false := by
    rw [← Bool.not_eq_true, speaksFor_iff rfl]
    exact h
  rw [admits, decisive?_add, prefer, hsilent]
  rfl

theorem admits_everywhere (threshold : Threshold) (event : Event) :
    admits [.plain "" threshold] event = threshold.admits event.level := by
  simp [admits, decisive?, prefer, Directive.plain, Directive.speaksFor, Restriction.leaves]

theorem admits_trace {event : Event} (h : ¬ Covers showPrinted event) :
    ((parseValid "trace").add showPrinted).admits event = true := by
  have hread : parseValid "trace" = [.plain "" (.upTo .trace)] := by
    decide +kernel
  rw [admits_add_showPrinted _ h, hread, admits_everywhere]
  cases event.level <;> rfl

theorem admits_off {event : Event} (h : ¬ Covers showPrinted event) :
    ((parseValid "off").add showPrinted).admits event = false := by
  have hread : parseValid "off" = [.plain "" .off] := by
    decide +kernel
  rw [admits_add_showPrinted _ h, hread, admits_everywhere]
  rfl

theorem Plain.admits_print {filter : Filter} (h : filter.Plain) (text : String) :
    (filter.add showPrinted).admits (.print text) = true := by
  apply Filter.admits_print
  intro d hd
  rw [h d hd]
  simp

end Filter

/-! ## Filters of a run -/

/-- Every directive of the environment that can be read is plain. -/
def Environment.Plain (environment : Environment) : Prop :=
  ∀ text ∈ environment.logFilter, ∀ part ∈ Filter.written text,
    ∀ d ∈ Directive.parse? part, d.restriction = .any

theorem Environment.plain_of_noBracket {environment : Environment}
    (noBracket : ∀ text ∈ environment.logFilter, '[' ∉ text.toList) : environment.Plain :=
  fun text htext _ hpart _ hd =>
    Directive.restriction_of_parse? (Filter.not_mem_of_mem_written (noBracket text htext) hpart) hd

theorem Environment.plain_of_text {environment : Environment} {text : String}
    (htext : environment.logFilter = some text) (noBracket : '[' ∉ text.toList) :
    environment.Plain := by
  refine plain_of_noBracket fun other hother => ?_
  obtain rfl : text = other := Option.some_inj.mp (htext.symm.trans hother)
  exact noBracket

namespace Program

theorem plain_verbosityFilter (verbose : Nat) : (verbosityFilter verbose).Plain := by
  simp [verbosityFilter, Filter.Plain, Directive.plain]

theorem plain_environmentFilter? {text : String} {filter : Filter}
    (hplain : ∀ part ∈ Filter.written text, ∀ d ∈ Directive.parse? part, d.restriction = .any)
    (h : environmentFilter? text = some filter) : filter.Plain := by
  obtain ⟨read, hread, rfl⟩ := Option.map_eq_some_iff.mp h
  split
  · exact plain_verbosityFilter 0
  · intro d hd
    obtain ⟨part, hpart, hparse⟩ :=
      Filter.exists_mem_of_mapM (Directive.Flaw.toOption_eq_some_iff.mp hread) hd
    exact hplain part hpart d (Directive.parse?_eq_some_iff.mpr hparse)

theorem exists_plain_filter_of_plain {environment : Environment} (h : environment.Plain)
    (verbose : UInt8) :
    ∃ chosen : Filter, chosen.Plain ∧
      filter environment verbose = chosen.add Filter.showPrinted := by
  refine ⟨_, ?_, rfl⟩
  cases hread : environment.logFilter.bind environmentFilter? with
  | none => exact plain_verbosityFilter verbose.toNat
  | some read =>
    obtain ⟨text, htext, hfilter⟩ := Option.bind_eq_some_iff.mp hread
    exact plain_environmentFilter? (h text htext) hfilter

/-- The filter of a run is a plain one with the directive that shows printed text after it. -/
theorem exists_plain_filter {environment : Environment}
    (noBracket : ∀ text ∈ environment.logFilter, '[' ∉ text.toList) (verbose : UInt8) :
    ∃ chosen : Filter, chosen.Plain ∧
      filter environment verbose = chosen.add Filter.showPrinted :=
  exists_plain_filter_of_plain (Environment.plain_of_noBracket noBracket) verbose

theorem admits_print_of_plain {environment : Environment} (h : environment.Plain)
    (verbose : UInt8) (text : String) :
    (filter environment verbose).admits (.print text) = true := by
  obtain ⟨chosen, hplain, hfilter⟩ := exists_plain_filter_of_plain h verbose
  rw [hfilter]
  exact hplain.admits_print text

end Program

/-! ## The console -/

namespace Console

theorem line_print (console : Console) (text : String) :
    console.line (.print text) = text.toList ++ ['\n'] := by
  have hprinted : (Event.print text).printedText? = some text := rfl
  rw [line, lineBy, hprinted]

theorem written_append (console : Console) (events others : List Event) :
    console.written (events ++ others) = console.written events ++ console.written others := by
  rw [written, List.filter_append, List.flatMap_append]
  rfl

theorem written_singleton_of_admits {console : Console} {event : Event}
    (h : console.filter.admits event = true) : console.written [event] = console.line event := by
  simp [written, h]

/-- Printed text is written as it is, wherever it stands among other events. -/
def Verbatim (console : Console) : Prop :=
  ∀ before text after, console.transcript (before ++ .print text :: after) =
    console.transcript before ++ (text ++ "\n") ++ console.transcript after

theorem verbatim_of_admits {console : Console}
    (h : ∀ text, console.filter.admits (.print text) = true) : console.Verbatim := by
  intro before text after
  have hevents : before ++ Event.print text :: after = before ++ [.print text] ++ after := by
    simp
  rw [transcript, hevents, written_append, written_append, written_singleton_of_admits (h text),
    line_print, String.ofList_append, String.ofList_append, String.ofList_append,
    String.ofList_toList]
  rfl

theorem verbatim_of_plain {filter : Filter} (h : filter.Plain) (colors styledLabels : Bool) :
    Verbatim ⟨filter.add Filter.showPrinted, colors, styledLabels⟩ :=
  verbatim_of_admits h.admits_print

theorem Verbatim.transcript_print {console : Console} (h : console.Verbatim) (text : String) :
    console.transcript [.print text] = text ++ "\n" := by
  have hempty : console.transcript [] = "" := rfl
  have hprint := h [] text []
  rw [List.nil_append, hempty] at hprint
  simpa using hprint

/-- Printed text comes out as it went in, followed by one line break. It does so for every list
of plain directives, of which the last longest target decides, for every text without bracket
and for every such environment. -/
theorem prints_verbatim (colors styledLabels : Bool) :
    (∀ directives : List (String × Threshold),
      let filter := Filter.add (directives.map fun d => .plain d.1 d.2) Filter.showPrinted
      let console : Console := ⟨filter, colors, styledLabels⟩
      (∀ event, filter.admits event = true ↔
        ∃ d, filter.Decides event d ∧ d.threshold.admits event.level = true) ∧
      (∀ text, console.transcript [.print text] = text ++ "\n") ∧ console.Verbatim) ∧
    (∀ chosen : String, '[' ∉ chosen.toList →
      let filter := Filter.parseValid (chosen ++ "," ++ Filter.showPrintedText)
      let console : Console := ⟨filter, colors, styledLabels⟩
      filter = (Filter.parseValid chosen).add Filter.showPrinted ∧
      (∀ text, console.transcript [.print text] = text ++ "\n") ∧ console.Verbatim) ∧
    ∀ (environment : Environment) (verbose : UInt8),
      (∀ chosen ∈ environment.logFilter, '[' ∉ chosen.toList) →
      let console := Program.console environment verbose
      (∀ text, console.transcript [.print text] = text ++ "\n") ∧ console.Verbatim := by
  refine ⟨?_, ?_, ?_⟩
  · intro directives filter console
    have hplain := Filter.plain_map directives
    have hverbatim : console.Verbatim := verbatim_of_plain hplain colors styledLabels
    exact ⟨Filter.admits_iff hplain.add_showPrinted, hverbatim.transcript_print, hverbatim⟩
  · intro chosen noBracket filter console
    have hfilter : filter = (Filter.parseValid chosen).add Filter.showPrinted :=
      Filter.parseValid_append_showPrintedText chosen
    have hplain := Filter.plain_parseValid noBracket
    have hverbatim : console.Verbatim := by
      have := verbatim_of_plain hplain colors styledLabels
      rwa [← hfilter] at this
    exact ⟨hfilter, hverbatim.transcript_print, hverbatim⟩
  · intro environment verbose noBracket console
    obtain ⟨chosen, hplain, hfilter⟩ := Program.exists_plain_filter noBracket verbose
    have hverbatim : console.Verbatim := by
      apply verbatim_of_admits
      intro text
      change (Program.filter environment verbose).admits (.print text) = true
      rw [hfilter]
      exact hplain.admits_print text
    exact ⟨hverbatim.transcript_print, hverbatim⟩

/-- Directives that would hide everything, and printed text above all. -/
def allOff : String :=
  "trace,off,abacus=off,abacus::print=off,abacus::print::x=off,abacus::prin=off"

theorem allOff_prints_verbatim :
    '[' ∉ allOff.toList ∧
    transcript ⟨Filter.parseValid (allOff ++ "," ++ Filter.showPrintedText), true, false⟩
      [Calculator.rejected 10, .print "raw_msg=\"1\"\n\x1b[31m"] =
        "raw_msg=\"1\"\n\x1b[31m\n" ∧
    (Program.console ⟨some allOff, none, none⟩ 0).transcript [.print ""] = "\n" := by
  have noBracket : '[' ∉ allOff.toList := by decide
  obtain ⟨_, hchosen, hrun⟩ := prints_verbatim true false
  refine ⟨noBracket, ?_, ?_⟩
  · have hverbatim := (hchosen allOff noBracket).2.2
    have hprint := hverbatim [Calculator.rejected 10] "raw_msg=\"1\"\n\x1b[31m" []
    have hhidden : transcript
        ⟨Filter.parseValid (allOff ++ "," ++ Filter.showPrintedText), true, false⟩
        [Calculator.rejected 10] = "" := by
      decide +kernel
    rw [hhidden] at hprint
    exact hprint
  · have henvironment : ∀ chosen ∈ (some allOff), '[' ∉ chosen.toList := by
      intro chosen hchosen
      rw [← Option.some_inj.mp hchosen]
      exact noBracket
    exact (hrun ⟨some allOff, none, none⟩ 0 henvironment).1 ""

end Console

end Reckoner
