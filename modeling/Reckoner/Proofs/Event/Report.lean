import Reckoner.Bank
import Reckoner.Event.Console
import Reckoner.Factorial
import Reckoner.Proofs.Event.Precedence
import Reckoner.Proofs.Text.Legible

/-!
# Reports of the arithmetic

The arithmetic has five things to report: a calculator that is added, a look-up that finds
nothing, an operation that is performed, a division that is rejected and a factorial that is
computed. Their texts are legible whatever the ids and operands are, and so each is shown on one
line.

* `Report`: the five kinds of reports.
* `Report.not_covers`: the directive for printed text has no say about reports.
* `Report.legible`: the fields of a report.
* `Event.Legible.exists_line`: an event with legible fields is one line.
-/

namespace Reckoner

open Text

/-- What the arithmetic reports. -/
inductive Report : Event → Prop
  | added (id : Int64) : Report (Bank.added id)
  | missed (id : Int64) : Report (Bank.missed id)
  | performing (operator : Operator) (a b : Float) :
    Report (Calculator.performing operator a b)
  | rejected (a : Float) : Report (Calculator.rejected a)
  | computing (n : Int64) : Report (computingFactorial n)

/-! ## Targets -/

theorem Report.target_mem {event : Event} (h : Report event) :
    event.target ∈ [Calculator.target, Bank.target, factorialTarget] := by
  cases h with
  | added id => exact .tail _ (.head _)
  | missed id => exact .tail _ (.head _)
  | performing operator a b => exact .head _
  | rejected a => exact .head _
  | computing n => exact .tail _ (.tail _ (.head _))

theorem Report.not_covers {event : Event} (h : Report event) :
    ¬ Filter.Covers Filter.showPrinted event := by
  have hall : ∀ target ∈ [Calculator.target, Bank.target, factorialTarget],
      ¬ Event.printTarget.toList <+: target.toList := by
    decide
  exact hall event.target h.target_mem

/-! ## Fields -/

/-- A legible name that is shown, and as it is. -/
def Field.LegibleName (name : String) : Prop :=
  Text.Legible name.toList ∧ isMetadata name = false ∧ shownName name = name.toList

instance : DecidablePred Field.LegibleName :=
  fun _ => inferInstanceAs (Decidable (_ ∧ _))

/-- A field that is shown with a legible name and a legible form. -/
structure Field.Legible (field : Field) : Prop where
  name : LegibleName field.name
  value : ∃ form, field.value = .shown form ∧ Text.Legible form.toList

/-- An event that is not printed text and has legible fields. -/
structure Event.Legible (event : Event) : Prop where
  target : event.target ≠ printTarget
  fields : ∀ field ∈ event.fields, field.Legible

theorem Field.legible_ofFloat {name : String} (h : LegibleName name) (x : Float) :
    Legible ⟨name, .ofFloat x⟩ :=
  ⟨h, _, rfl, legible_write _ x⟩

theorem Field.legible_ofInt {name : String} (h : LegibleName name) (n : Int) :
    Legible ⟨name, .ofInt n⟩ :=
  ⟨h, _, rfl, legible_writeInteger n⟩

theorem Event.legible_fields {text : String} {fields : List Field}
    (htext : Text.Legible text.toList) (hfields : ∀ field ∈ fields, field.Legible) :
    ∀ field ∈ message text :: fields, field.Legible := by
  have hname : Field.LegibleName messageField := by decide
  intro field hfield
  rcases List.mem_cons.mp hfield with rfl | hfield
  · exact ⟨hname, text, rfl, htext⟩
  · exact hfields field hfield

theorem Report.legible {event : Event} (h : Report event) : event.Legible := by
  have hall : ∀ target ∈ [Calculator.target, Bank.target, factorialTarget],
      target ≠ Event.printTarget := by
    decide
  refine ⟨hall event.target h.target_mem, ?_⟩
  cases h with
  | added id =>
    have hid : Field.Legible ⟨"id", .ofInt id.toInt⟩ := Field.legible_ofInt (by decide) _
    exact Event.legible_fields (by decide) (List.forall_mem_singleton.mpr hid)
  | missed id =>
    have hid : Field.Legible ⟨"id", .ofInt id.toInt⟩ := Field.legible_ofInt (by decide) _
    exact Event.legible_fields (by decide) (List.forall_mem_singleton.mpr hid)
  | performing operator a b =>
    have hmessage : Text.Legible ("performing " ++ operator.noun).toList := by
      cases operator <;> decide
    have ha : Field.Legible ⟨"a", .ofFloat a⟩ := Field.legible_ofFloat (by decide) a
    have hb : Field.Legible ⟨"b", .ofFloat b⟩ := Field.legible_ofFloat (by decide) b
    exact Event.legible_fields hmessage
      (List.forall_mem_cons.mpr ⟨ha, List.forall_mem_singleton.mpr hb⟩)
  | rejected a =>
    have ha : Field.Legible ⟨"a", .ofFloat a⟩ := Field.legible_ofFloat (by decide) a
    exact Event.legible_fields (by decide) (List.forall_mem_singleton.mpr ha)
  | computing n =>
    have hn : Field.Legible ⟨"n", .ofInt n.toInt⟩ := Field.legible_ofInt (by decide) _
    exact Event.legible_fields (by decide) (List.forall_mem_singleton.mpr hn)

/-! ## Lines -/

theorem Text.not_mem_intercalate {separator : List Char} {parts : List (List Char)} {c : Char}
    (hseparator : c ∉ separator) (hparts : ∀ part ∈ parts, c ∉ part) :
    c ∉ separator.intercalate parts := by
  induction parts with
  | nil => exact List.not_mem_nil
  | cons first rest ih =>
    have hfirst := hparts first List.mem_cons_self
    cases rest with
    | nil => rwa [List.intercalate_singleton]
    | cons second rest =>
      have hrest := ih fun part hpart => hparts part (List.mem_cons_of_mem first hpart)
      rw [List.intercalate_cons_cons, List.mem_append, List.mem_append, not_or, not_or]
      exact ⟨⟨hfirst, hseparator⟩, hrest⟩

theorem Field.Legible.break_not_mem_form {field : Field} (h : field.Legible) (styled : Bool) :
    '\n' ∉ field.form styled := by
  obtain ⟨form, hvalue, hform⟩ := h.value
  have hlabel : '\n' ∉ label styled field.name := by
    have hname : '\n' ∉ shownName field.name :=
      fun hmem => h.name.1.not_mem rfl (mem_of_mem_shownName hmem)
    cases styled <;> simp [label, Text.sequence, Text.reset, Text.escape, hname]
  unfold Field.form
  rw [hvalue]
  split
  · rw [Value.plain, guard_of_legible hform]
    exact hform.not_mem rfl
  · rw [Value.form, List.mem_append, not_or]
    exact ⟨hlabel, hform.not_mem rfl⟩

theorem Console.break_not_mem_symbol (console : Console) (level : Level) :
    '\n' ∉ console.symbol level := by
  have hall : ∀ colors, ∀ level : Level, '\n' ∉ level.style.paintIf colors level.symbol := by
    intro colors level
    cases colors <;> cases level <;> decide
  exact hall console.colors level

/-- An event with legible fields is one line: its only line break is at the end. -/
theorem Event.Legible.exists_line {event : Event} (h : event.Legible) (console : Console) :
    ∃ content, console.line event = content ++ ['\n'] ∧ '\n' ∉ content := by
  have hunprinted : event.printedText? = none := if_neg h.target
  have hfields : '\n' ∉ Field.forms console.styledLabels event.fields := by
    refine not_mem_intercalate (by decide) fun part hpart => ?_
    obtain ⟨field, hfield, rfl⟩ := List.mem_map.mp hpart
    exact (h.fields field (List.mem_filter.mp hfield).1).break_not_mem_form _
  refine ⟨console.symbol event.level ++
    ' ' :: Field.forms console.styledLabels event.fields, ?_, ?_⟩
  · rw [Console.line_of_unprinted hunprinted]
    simp
  · simp [console.break_not_mem_symbol, hfields]

end Reckoner
