import Reckoner.Event.Directive

/-!
# Filters

A filter is a list of directives. Of the directives that speak for an event the most specific one
decides, and of several that are equally specific the last; an event that no directive speaks for
is not shown. In a text, directives are separated by commas.

* `Filter.admits` decides whether an event is shown.
* `Filter.parse` reads a filter, and the first directive that has a flaw spoils it.
* `Filter.tears` tells whether that flaw is one at which reading breaks down.
* `Filter.parseValid` reads a filter and leaves out the directives that have a flaw.
* `Filter.admits_print` says that printed text is shown, once the directive `Filter.showPrinted`
  is added, unless a directive is restricted to printed text.
-/

namespace Reckoner

/-- Directives in the order in which they were given. -/
abbrev Filter := List Directive

namespace Filter

/-- Prefers a directive to the best one before it, if it speaks for the event and is at least as
specific. -/
def prefer (event : Event) (best : Option Directive) (d : Directive) : Option Directive :=
  if d.speaksFor event && best.all (·.yieldsTo d) then some d else best

/-- The directive that decides about an event. -/
def decisive? (filter : Filter) (event : Event) : Option Directive :=
  filter.foldl (prefer event) none

/-- Whether an event is shown. -/
def admits (filter : Filter) (event : Event) : Bool :=
  (filter.decisive? event).any (·.threshold.admits event.level)

/-- Adds a directive after all others. -/
def add (filter : Filter) (d : Directive) : Filter :=
  filter ++ [d]

/-- Shows printed text. Being added last, it overrides every plain directive for the print
target. -/
def showPrinted : Directive :=
  .plain Event.printTarget (.upTo .info)

/-! ## Printed text is always shown -/

theorem mem_prefer {event : Event} {best : Option Directive} {d e : Directive}
    (h : e ∈ prefer event best d) : e ∈ best ∨ e = d ∧ d.speaksFor event = true := by
  unfold prefer at h
  split at h
  · rename_i hd
    obtain rfl : d = e := by simpa using h
    simp_all
  · exact .inl h

theorem mem_foldl_prefer {event : Event} {filter : Filter} {best : Option Directive}
    {e : Directive} (h : e ∈ filter.foldl (prefer event) best) :
    e ∈ best ∨ e ∈ filter ∧ e.speaksFor event = true := by
  induction filter generalizing best with
  | nil => exact .inl h
  | cons d rest ih =>
    rcases ih h with hb | ⟨hr, he⟩
    · rcases mem_prefer hb with hb | ⟨rfl, hd⟩
      · exact .inl hb
      · exact .inr ⟨List.mem_cons_self, hd⟩
    · exact .inr ⟨List.mem_cons_of_mem d hr, he⟩

/-- The directive that decides about an event is one of the filter and speaks for the event. -/
theorem mem_of_decisive? {filter : Filter} {event : Event} {d : Directive}
    (h : filter.decisive? event = some d) : d ∈ filter ∧ d.speaksFor event = true := by
  simpa using mem_foldl_prefer h

theorem decisive?_add (filter : Filter) (d : Directive) (event : Event) :
    (filter.add d).decisive? event = prefer event (filter.decisive? event) d := by
  simp [add, decisive?]

theorem showPrinted_speaksFor (text : String) :
    showPrinted.speaksFor (.print text) = true := by
  simp [Directive.speaksFor, showPrinted, Directive.plain, Event.print, Restriction.leaves]

/-- A directive for printed text that is not restricted to it yields to `showPrinted`: if its
target was longer it would not speak for printed text. -/
theorem yieldsTo_showPrinted {d : Directive} {text : String}
    (speaks : d.speaksFor (.print text) = true)
    (unrestricted : d.restriction ≠ .withField Event.printedField) :
    d.yieldsTo showPrinted = true := by
  obtain ⟨starts, left⟩ := Bool.and_eq_true_iff.mp speaks
  have shorter : d.target.length ≤ Event.printTarget.length := by
    simpa only [String.length_toList, Event.print] using
      (List.isPrefixOf_iff_prefix.mp starts).length_le
  have free : d.restriction = .any := by
    cases hr : d.restriction with
    | any => rfl
    | withField name =>
      rw [hr] at left unrestricted
      obtain rfl : Event.printedField = name := by
        simpa [Restriction.leaves, Event.print] using left
      exact absurd rfl unrestricted
    | withinSpan =>
      rw [hr] at left
      exact absurd left (by simp [Restriction.leaves])
  have target : showPrinted.target = Event.printTarget := rfl
  rw [Directive.yieldsTo, free, target]
  simp [Restriction.yieldsTo]
  omega

/-- No directive comes before the one that shows printed text, unless it is restricted to printed
text. -/
theorem decisive?_add_showPrinted {filter : Filter}
    (h : ∀ d ∈ filter, d.restriction ≠ .withField Event.printedField) (text : String) :
    (filter.add showPrinted).decisive? (.print text) = some showPrinted := by
  rw [decisive?_add, prefer, if_pos]
  rw [Bool.and_eq_true, Option.all_eq_true]
  refine ⟨showPrinted_speaksFor text, fun d hd => ?_⟩
  obtain ⟨hm, speaks⟩ := mem_of_decisive? hd
  exact yieldsTo_showPrinted speaks (h d hm)

/-- Printed text passes every filter to which `showPrinted` is added, unless a directive is
restricted to printed text. -/
theorem admits_print {filter : Filter}
    (h : ∀ d ∈ filter, d.restriction ≠ .withField Event.printedField) (text : String) :
    (filter.add showPrinted).admits (.print text) = true := by
  rw [admits, decisive?_add_showPrinted h]
  rfl

/-! ## Reading -/

/-- The parts of a text between commas. -/
def splitCommas : List Char → List (List Char)
  | [] => [[]]
  | c :: rest =>
    if c == ',' then [] :: splitCommas rest
    else
      match splitCommas rest with
      | [] => [[c]]
      | part :: parts => (c :: part) :: parts

/-- Nothing is added between commas. -/
theorem mem_of_mem_splitCommas {c : Char} {text part : List Char} (hp : part ∈ splitCommas text)
    (hc : c ∈ part) : c ∈ text := by
  induction text generalizing part with
  | nil => simp_all [splitCommas]
  | cons first rest ih =>
    rw [splitCommas] at hp
    split at hp
    · rcases List.mem_cons.mp hp with rfl | hp
      · simp at hc
      · exact List.mem_cons_of_mem first (ih hp hc)
    · split at hp
      · simp_all
      · rename_i head parts hsplit
        rcases List.mem_cons.mp hp with rfl | hp
        · rcases List.mem_cons.mp hc with rfl | hc
          · exact List.mem_cons_self
          · exact List.mem_cons_of_mem first (ih (hsplit ▸ List.mem_cons_self) hc)
        · exact List.mem_cons_of_mem first (ih (hsplit ▸ List.mem_cons_of_mem head hp) hc)

/-- The directives of a text as they are written. Nothing between two commas is no directive. -/
def written (text : String) : List (List Char) :=
  (splitCommas text.toList).filter (!·.isEmpty)

/-- Reads a filter. The first directive with a flaw spoils it. -/
def parse (text : String) : Except Directive.Flaw Filter :=
  (written text).mapM Directive.parse

/-- Whether reading a filter breaks down. A malformed directive ends the reading, so it does not if
such a one comes first. -/
def tears (text : String) : Bool :=
  match parse text with
  | .error .torn => true
  | _ => false

/-- Reads a filter, leaving out the directives that have a flaw. -/
def parseValid (text : String) : Filter :=
  (written text).filterMap Directive.parse?

/-! ## Plain filters -/

/-- What a text without bracket has between its commas has no bracket. -/
theorem not_mem_of_mem_written {text : String} (noBracket : '[' ∉ text.toList)
    {part : List Char} (h : part ∈ written text) : '[' ∉ part :=
  fun hm => noBracket (mem_of_mem_splitCommas (List.mem_filter.mp h).1 hm)

/-- The directives of a filter that was read are those that were written. -/
theorem exists_mem_of_mapM {parts : List (List Char)} {filter : Filter} {d : Directive}
    (h : parts.mapM Directive.parse = .ok filter) (hd : d ∈ filter) :
    ∃ part ∈ parts, Directive.parse part = .ok d := by
  induction parts generalizing filter with
  | nil =>
    obtain rfl : [] = filter := Except.ok.inj h
    cases hd
  | cons part parts ih =>
    rw [List.mapM_cons] at h
    obtain ⟨first, hfirst, h⟩ := Directive.Flaw.exists_of_bind_ok h
    obtain ⟨rest, hrest, h⟩ := Directive.Flaw.exists_of_bind_ok h
    obtain rfl : first :: rest = filter := Except.ok.inj h
    rcases List.mem_cons.mp hd with rfl | hd
    · exact ⟨part, List.mem_cons_self, hfirst⟩
    · obtain ⟨other, hm, ho⟩ := ih hrest hd
      exact ⟨other, List.mem_cons_of_mem part hm, ho⟩

/-- A filter from a text without bracket has plain directives only. -/
theorem restriction_of_parseValid {text : String} {d : Directive}
    (noBracket : '[' ∉ text.toList) (hd : d ∈ parseValid text) : d.restriction = .any := by
  obtain ⟨part, hm, hp⟩ := List.mem_filterMap.mp hd
  exact Directive.restriction_of_parse? (not_mem_of_mem_written noBracket hm) hp

end Filter

end Reckoner
