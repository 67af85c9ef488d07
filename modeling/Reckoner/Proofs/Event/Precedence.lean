import Mathlib.Data.List.Induction
import Reckoner.Event.Filter

/-!
# Precedence of directives

A plain directive has a target and a threshold and nothing else. Of the plain directives whose
targets start the target of an event the longest decides, and of several with that target the
last one. A filter looks for it in one pass; this file shows that the pass ends with the
directive that this rule names.

* `decisive?_eq_some_iff`: the directive found is the one that decides by the rule.
* `admits_iff`: an event is shown iff the deciding directive lets its level pass.
* `parseValid_append_comma`: a filter that is written with another one after a comma is the two
  filters one after the other.
-/

namespace Reckoner.Filter

/-! ## Plain filters -/

/-- A filter without restrictions. -/
def Plain (filter : Filter) : Prop := ∀ d ∈ filter, d.restriction = .any

theorem plain_map (directives : List (String × Threshold)) :
    Plain (directives.map fun d => .plain d.1 d.2) := by
  intro d hd
  obtain ⟨_, _, rfl⟩ := List.mem_map.mp hd
  rfl

theorem plain_concat {filter : Filter} {d : Directive} :
    Plain (filter ++ [d]) ↔ filter.Plain ∧ d.restriction = .any := by
  simp only [Plain, List.forall_mem_append, List.forall_mem_singleton]

theorem Plain.add_showPrinted {filter : Filter} (h : filter.Plain) :
    (filter.add showPrinted).Plain :=
  plain_concat.mpr ⟨h, rfl⟩

theorem plain_parseValid {text : String} (noBracket : '[' ∉ text.toList) :
    (parseValid text).Plain :=
  fun _ hd => restriction_of_parseValid noBracket hd

/-! ## The rule -/

/-- Whether the target of a directive starts that of an event. -/
def Covers (d : Directive) (event : Event) : Prop :=
  d.target.toList <+: event.target.toList

/-- `d` decides about an event: it covers the event, no directive that does so before it has a
longer target, and all that do so after it have shorter ones. -/
def Decides (filter : Filter) (event : Event) (d : Directive) : Prop :=
  ∃ before after, filter = before ++ d :: after ∧ Covers d event ∧
    (∀ e ∈ before, Covers e event → e.target.length ≤ d.target.length) ∧
    ∀ e ∈ after, Covers e event → e.target.length < d.target.length

theorem speaksFor_iff {d : Directive} (hd : d.restriction = .any) (event : Event) :
    d.speaksFor event = true ↔ Covers d event := by
  simp [Directive.speaksFor, hd, Restriction.leaves, Covers]

theorem yieldsTo_iff {d e : Directive} (hd : d.restriction = .any) :
    d.yieldsTo e = true ↔ d.target.length ≤ e.target.length := by
  simp only [Directive.yieldsTo, hd, Restriction.yieldsTo, Bool.or_eq_true, Bool.and_eq_true,
    decide_eq_true_eq, beq_iff_eq, and_true]
  omega

theorem decides_concat {filter : Filter} {event : Event} {d e : Directive} :
    Decides (filter ++ [e]) event d ↔
      (d = e ∧ Covers e event ∧
        ∀ f ∈ filter, Covers f event → f.target.length ≤ e.target.length) ∨
      (Decides filter event d ∧ (Covers e event → e.target.length < d.target.length)) := by
  constructor
  · rintro ⟨before, after, hfilter, hcovers, hbefore, hafter⟩
    rcases List.eq_nil_or_concat after with rfl | ⟨init, last, rfl⟩
    · obtain ⟨rfl, hlast⟩ := List.append_inj' hfilter rfl
      obtain rfl : e = d := by simpa using hlast
      exact .inl ⟨rfl, hcovers, hbefore⟩
    · rw [List.concat_eq_append, ← List.cons_append, ← List.append_assoc] at hfilter
      obtain ⟨rfl, hlast⟩ := List.append_inj' hfilter rfl
      obtain rfl : e = last := by simpa using hlast
      rw [List.concat_eq_append] at hafter
      refine .inr ⟨⟨before, init, rfl, hcovers, hbefore, ?_⟩, hafter e (by simp)⟩
      exact fun f hf => hafter f (List.mem_append_left _ hf)
  · rintro (⟨rfl, hcovers, hall⟩ | ⟨⟨before, after, rfl, hcovers, hbefore, hafter⟩, hlast⟩)
    · exact ⟨filter, [], rfl, hcovers, hall, by simp⟩
    · refine ⟨before, after ++ [e], by simp, hcovers, hbefore, ?_⟩
      intro f hf hcovers'
      rcases List.mem_append.mp hf with hf | hf
      · exact hafter f hf hcovers'
      · rw [List.mem_singleton.mp hf] at hcovers' ⊢
        exact hlast hcovers'

theorem Decides.length_le {filter : Filter} {event : Event} {d e : Directive}
    (h : Decides filter event d) (he : e ∈ filter) (hcovers : Covers e event) :
    e.target.length ≤ d.target.length := by
  obtain ⟨before, after, rfl, _, hbefore, hafter⟩ := h
  rcases List.mem_append.mp he with he | he
  · exact hbefore e he hcovers
  · rcases List.mem_cons.mp he with rfl | he
    · exact Nat.le_refl _
    · exact Nat.le_of_lt (hafter e he hcovers)

theorem Decides.mem {filter : Filter} {event : Event} {d : Directive}
    (h : Decides filter event d) : d ∈ filter := by
  obtain ⟨before, after, rfl, _⟩ := h
  simp

theorem Decides.covers {filter : Filter} {event : Event} {d : Directive}
    (h : Decides filter event d) : Covers d event := by
  obtain ⟨_, _, _, hcovers, _⟩ := h
  exact hcovers

/-! ## The pass -/

theorem decisive?_concat (filter : Filter) (e : Directive) (event : Event) :
    decisive? (filter ++ [e]) event = prefer event (filter.decisive? event) e :=
  decisive?_add filter e event

theorem prefer_eq_none_iff (event : Event) (best : Option Directive) (d : Directive) :
    prefer event best d = none ↔ best = none ∧ ¬ d.speaksFor event = true := by
  unfold prefer
  cases best with
  | none => by_cases hspeaks : d.speaksFor event = true <;> simp [hspeaks]
  | some best => split <;> simp

theorem decisive?_eq_none_iff {filter : Filter} (h : filter.Plain) (event : Event) :
    filter.decisive? event = none ↔ ∀ d ∈ filter, ¬ Covers d event := by
  induction filter using List.reverseRecOn with
  | nil => simp [decisive?]
  | append_singleton filter e ih =>
    obtain ⟨hfilter, he⟩ := plain_concat.mp h
    rw [decisive?_concat, prefer_eq_none_iff, ih hfilter, speaksFor_iff he,
      List.forall_mem_append, List.forall_mem_singleton]

/-- The best directive before `e` yields to it iff no covering one has a longer target. -/
theorem decisive?_all_yieldsTo_iff {filter : Filter} (h : filter.Plain) {event : Event}
    (hrule : ∀ d, filter.decisive? event = some d ↔ Decides filter event d) (e : Directive) :
    (filter.decisive? event).all (·.yieldsTo e) = true ↔
      ∀ f ∈ filter, Covers f event → f.target.length ≤ e.target.length := by
  rw [Option.all_eq_true]
  constructor
  · intro hyields f hf hcovers
    cases hbest : decisive? filter event with
    | none => exact absurd hcovers ((decisive?_eq_none_iff h event).mp hbest f hf)
    | some best =>
      have hdecides := (hrule best).mp hbest
      have hle := (yieldsTo_iff (h best hdecides.mem)).mp (hyields best hbest)
      exact Nat.le_trans (hdecides.length_le hf hcovers) hle
  · intro hall best hbest
    have hdecides := (hrule best).mp hbest
    exact (yieldsTo_iff (h best hdecides.mem)).mpr (hall best hdecides.mem hdecides.covers)

/-- The directive that the pass finds is the one that decides by the rule. -/
theorem decisive?_eq_some_iff {filter : Filter} (h : filter.Plain) (event : Event)
    (d : Directive) : filter.decisive? event = some d ↔ Decides filter event d := by
  induction filter using List.reverseRecOn generalizing d with
  | nil =>
    constructor
    · simp [decisive?]
    · intro hd
      exact absurd hd.mem (by simp)
  | append_singleton filter e ih =>
    obtain ⟨hfilter, he⟩ := plain_concat.mp h
    have hyields := decisive?_all_yieldsTo_iff hfilter (ih hfilter) e
    have hprefer : (e.speaksFor event && (decisive? filter event).all (·.yieldsTo e)) = true ↔
        Covers e event ∧ ∀ f ∈ filter, Covers f event → f.target.length ≤ e.target.length := by
      rw [Bool.and_eq_true, speaksFor_iff he, hyields]
    rw [decisive?_concat, decides_concat, ← ih hfilter, prefer]
    split
    · -- `e` takes over: nothing before it has a longer target.
      rename_i htakes
      obtain ⟨hcovers, hall⟩ := hprefer.mp htakes
      rw [Option.some_inj]
      constructor
      · rintro rfl
        exact .inl ⟨rfl, hcovers, hall⟩
      · rintro (⟨rfl, _⟩ | ⟨hd, hlt⟩)
        · rfl
        · have hdecides := (ih hfilter d).mp hd
          have hle := hall d hdecides.mem hdecides.covers
          have hgt := hlt hcovers
          omega
    · -- The best one before `e` stays: `e` does not cover the event or has a shorter target.
      rename_i hstays
      have hnot := hprefer.not.mp hstays
      constructor
      · intro hd
        refine .inr ⟨hd, fun hcovers => ?_⟩
        by_contra hge
        refine hnot ⟨hcovers, fun f hf hf' => ?_⟩
        have hle := ((ih hfilter d).mp hd).length_le hf hf'
        omega
      · rintro (⟨rfl, hcovers, hall⟩ | ⟨hd, _⟩)
        · exact absurd ⟨hcovers, hall⟩ hnot
        · exact hd

/-- An event is shown iff the directive that decides lets its level pass. -/
theorem admits_iff {filter : Filter} (h : filter.Plain) (event : Event) :
    filter.admits event = true ↔
      ∃ d, Decides filter event d ∧ d.threshold.admits event.level = true := by
  rw [admits, Option.any_eq_true]
  simp only [decisive?_eq_some_iff h]

/-! ## Filters in a text -/

theorem exists_part (text : List Char) : ∃ part parts, splitCommas text = part :: parts := by
  induction text with
  | nil => exact ⟨[], [], rfl⟩
  | cons c text ih =>
    obtain ⟨part, parts, htext⟩ := ih
    by_cases hc : (c == ',') = true
    · exact ⟨[], part :: parts, by rw [splitCommas, if_pos hc, htext]⟩
    · exact ⟨c :: part, parts, by rw [splitCommas, if_neg hc, htext]⟩

theorem splitCommas_append_comma (text rest : List Char) :
    splitCommas (text ++ ',' :: rest) = splitCommas text ++ splitCommas rest := by
  induction text with
  | nil => simp [splitCommas]
  | cons c text ih =>
    obtain ⟨part, parts, htext⟩ := exists_part text
    rw [List.cons_append, splitCommas, splitCommas, ih, htext]
    by_cases hc : (c == ',') = true
    · rw [if_pos hc, if_pos hc]
      rfl
    · rw [if_neg hc, if_neg hc]
      rfl

theorem written_append_comma (text rest : String) :
    written (text ++ "," ++ rest) = written text ++ written rest := by
  have hlist : (text ++ "," ++ rest).toList = text.toList ++ ',' :: rest.toList := by
    simp
  rw [written, hlist, splitCommas_append_comma, List.filter_append]
  rfl

theorem parseValid_append_comma (text rest : String) :
    parseValid (text ++ "," ++ rest) = parseValid text ++ parseValid rest := by
  rw [parseValid, written_append_comma, List.filterMap_append]
  rfl

end Reckoner.Filter
