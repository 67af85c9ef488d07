import Mathlib.Data.List.Forall2
import Reckoner.Proofs.Event.Printed
import Reckoner.Proofs.Text.Adorned
import Reckoner.Proofs.Text.EscapeFree

/-!
# Events under colours

A console with colours paints the symbols of levels and styles the labels of fields; texts that
are printed come painted already. Neither changes which events are shown, because a filter looks
at the level, the target and the names of the fields only.

* `Restyled`: an event and the same event in other colours.
* `Console.adorned_line`: the line of an event with colours is its line without, adorned.
* `Console.adorned_written`: so is all that is written for a list of events.
-/

namespace Reckoner

open Text

/-! ## Filters do not see texts -/

namespace Filter

theorem admits_congr (filter : Filter) {event other : Event} (hlevel : event.level = other.level)
    (htarget : event.target = other.target)
    (hnames : event.fields.map (·.name) = other.fields.map (·.name)) :
    filter.admits event = filter.admits other := by
  have hleaves : ∀ restriction : Restriction,
      restriction.leaves event = restriction.leaves other := by
    intro restriction
    cases restriction with
    | withField name =>
      have hany := congrArg (List.any · (· == name)) hnames
      simpa only [Restriction.leaves, List.any_map, Function.comp_def] using hany
    | _ => rfl
  have hspeaks : ∀ d : Directive, d.speaksFor event = d.speaksFor other := by
    intro d
    rw [Directive.speaksFor, Directive.speaksFor, htarget, hleaves]
  have hprefer : prefer event = prefer other := by
    funext best d
    rw [prefer, prefer, hspeaks]
  rw [admits, admits, decisive?, decisive?, hprefer, hlevel]

end Filter

/-! ## Events without escape characters -/

/-- Neither the name nor the value of a field has an escape character. -/
structure Field.EscapeFree (field : Field) : Prop where
  name : escape ∉ field.name.toList
  value : escape ∉ field.value.plain.toList

namespace Event

/-- No field of an event has an escape character. -/
def EscapeFree (event : Event) : Prop := ∀ field ∈ event.fields, field.EscapeFree

theorem escape_not_mem_notePrinted {found : Option String} {field : Field}
    (hfound : ∀ text ∈ found, escape ∉ text.toList) (hfield : escape ∉ field.value.plain.toList) :
    ∀ text ∈ notePrinted found field, escape ∉ text.toList := by
  intro text htext
  unfold notePrinted at htext
  split at htext
  · split at htext
    · rename_i content hvalue
      rw [hvalue] at hfield
      rw [← Option.some_inj.mp htext]
      exact hfield
    · rename_i form hvalue
      rw [hvalue] at hfield
      cases found with
      | none =>
        rw [← Option.some_inj.mp htext]
        exact hfield
      | some earlier =>
        rw [← Option.some_inj.mp htext]
        exact hfound earlier rfl
  · exact hfound text htext

theorem escape_not_mem_foldl_notePrinted {fields : List Field} {found : Option String}
    (hfound : ∀ text ∈ found, escape ∉ text.toList)
    (hfields : ∀ field ∈ fields, escape ∉ field.value.plain.toList) :
    ∀ text ∈ fields.foldl notePrinted found, escape ∉ text.toList := by
  induction fields generalizing found with
  | nil => exact hfound
  | cons field rest ih =>
    have hfirst := hfields field List.mem_cons_self
    refine ih (escape_not_mem_notePrinted hfound hfirst) ?_
    exact fun other hother => hfields other (List.mem_cons_of_mem field hother)

theorem EscapeFree.printedText {event : Event} (h : event.EscapeFree) {text : String}
    (htext : event.printedText? = some text) : escape ∉ text.toList := by
  unfold printedText? at htext
  split at htext
  · refine escape_not_mem_foldl_notePrinted ?_ ?_ text htext
    · simp
    · exact fun field hfield => (h field hfield).value
  · cases htext

end Event

/-! ## Fields -/

theorem Value.escape_not_mem_form {value : Value} (h : escape ∉ value.plain.toList) :
    escape ∉ value.form := by
  cases value with
  | text content => exact escape_not_mem_quote content.toList
  | shown form => exact h

namespace Field

theorem adorned_label {name : String} (h : escape ∉ name.toList) :
    Adorned (label true name) (label false name) := by
  have hshown : escape ∉ shownName name := fun hmem => h (mem_of_mem_shownName hmem)
  have hsign : Adorned (sequence ['2'] ++ (['='] ++ (reset ++ []))) ['='] :=
    .sequence (List.all_eq_true.mp (by decide))
      ((Adorned.refl (by decide)).append Adorned.nil.reset)
  have hname := (Adorned.refl hshown).append hsign.reset
  have hlabel : Adorned (sequence ['3'] ++ (shownName name ++
      (reset ++ (sequence ['2'] ++ (['='] ++ (reset ++ [])))))) (shownName name ++ ['=']) :=
    .sequence (List.all_eq_true.mp (by decide)) hname
  simpa [label] using hlabel

theorem adorned_form {field : Field} (h : field.EscapeFree) :
    Adorned (field.form true) (field.form false) := by
  unfold form
  split
  · exact Adorned.refl (escape_not_mem_guard _)
  · exact (adorned_label h.name).append (Adorned.refl (Value.escape_not_mem_form h.value))

theorem adorned_forms {fields : List Field} (h : ∀ field ∈ fields, field.EscapeFree) :
    Adorned (forms true fields) (forms false fields) :=
  Adorned.intercalate (by decide) fun field hfield =>
    adorned_form (h field (List.mem_filter.mp hfield).1)

end Field

/-! ## Lines -/

/-- An event and the same event in other colours: only a printed text can differ. -/
inductive Restyled : Event → Event → Prop
  | printed {styled bare : List Char} :
    Adorned styled bare → Restyled (Page.printed styled) (Page.printed bare)
  | same {event : Event} : event.EscapeFree → Restyled event event

theorem Restyled.admits_eq {event other : Event} (h : Restyled event other) (filter : Filter) :
    filter.admits event = filter.admits other := by
  cases h with
  | printed _ => exact filter.admits_congr rfl rfl rfl
  | same _ => rfl

namespace Console

theorem adorned_symbol (filter : Filter) (level : Level) :
    Adorned (symbol ⟨filter, true, true⟩ level) (symbol ⟨filter, false, false⟩ level) := by
  have hsymbol : escape ∉ level.symbol := by
    cases level <;> decide
  exact (Adorned.refl hsymbol).paint level.style

/-- The line of an event with colours is its line without colours, adorned. -/
theorem adorned_line {event other : Event} (h : Restyled event other) (filter : Filter) :
    Adorned (line ⟨filter, true, true⟩ event) (line ⟨filter, false, false⟩ other) := by
  have hbreak : escape ∉ ['\n'] := by decide
  cases h with
  | @printed styled bare htext =>
    rw [Page.printed, Page.printed, line_print, line_print, String.toList_ofList,
      String.toList_ofList]
    exact htext.append (Adorned.refl hbreak)
  | same hevent =>
    unfold line lineBy
    split
    · rename_i text htext
      exact (Adorned.refl (hevent.printedText htext)).append (Adorned.refl hbreak)
    · have hblank : ' ' ≠ escape := by decide
      have hfields := Field.adorned_forms hevent
      exact (adorned_symbol filter event.level).append
        (.cons hblank (hfields.append (Adorned.refl hbreak)))

/-- What is written with colours is what is written without, adorned. -/
theorem adorned_written {events others : List Event} (h : List.Forall₂ Restyled events others)
    (filter : Filter) :
    Adorned (written ⟨filter, true, true⟩ events) (written ⟨filter, false, false⟩ others) := by
  induction h with
  | nil => exact .nil
  | @cons event other events others hevent _ ih =>
    have hadmits := hevent.admits_eq filter
    unfold written at ih ⊢
    by_cases hshown : filter.admits other = true
    · rw [List.filter_cons_of_pos (hadmits.trans hshown), List.filter_cons_of_pos hshown,
        List.flatMap_cons, List.flatMap_cons]
      exact (adorned_line hevent filter).append ih
    · rw [List.filter_cons_of_neg (by rw [hadmits]; exact hshown),
        List.filter_cons_of_neg hshown]
      exact ih

end Console

end Reckoner
