import Reckoner.Page
import Reckoner.Proofs.Event.Printed
import Reckoner.Proofs.Text.Capitals

/-!
# Widths of titles

The dashes of a title's rule fill what the title leaves of the rule. The title is measured as it
is given but written in upper case, and so the rule is as wide as it is to be if and only if the
title is as wide in upper case as it was. Most titles are; a letter that becomes two makes the
rule too wide. A title that leaves no room stands alone.

* `width_header`, `columnSum_header`: the columns of a title in its rule.
* `header_of_overlong`: titles that leave no room.
* `header_fills_rule_iff`: when a rule is as wide as it is to be.
* `header_too_wide`: a title whose rule is not.
-/

namespace Reckoner.Frame

open Text

/-! ## Brackets and rules -/

theorem freestanding_of_mem_frame :
    ∀ c ∈ ['⟦', ' ', '⟧', '─', '═'], Freestanding c ∧ columns c = 1 ∧ uppercaseChar c = [c] := by
  have hall : ['⟦', ' ', '⟧', '─', '═'].all (fun c =>
      !CodeRange.covers contextRanges c && !isMark c && columns c == 1 &&
        uppercaseChar c == [c]) = true := by
    decide +kernel
  intro c hc
  have hchecked := List.all_eq_true.mp hall c hc
  simp only [Bool.and_eq_true, Bool.not_eq_true', beq_iff_eq] at hchecked
  obtain ⟨⟨⟨hunbound, hmark⟩, hcolumns⟩, hupper⟩ := hchecked
  exact ⟨Unbound.freestanding hunbound hmark, hcolumns, hupper⟩

theorem uppercase_enclose (text : List Char) :
    uppercase (enclose text) = enclose (uppercase text) := by
  obtain ⟨_, _, hopen⟩ := freestanding_of_mem_frame '⟦' (by decide)
  obtain ⟨_, _, hblank⟩ := freestanding_of_mem_frame ' ' (by decide)
  obtain ⟨_, _, hclose⟩ := freestanding_of_mem_frame '⟧' (by decide)
  simp [uppercase, enclose, hopen, hblank, hclose]

theorem keepsColumns_enclose_iff (text : List Char) :
    (∀ c ∈ enclose text, columnSum (uppercaseChar c) = columns c) ↔
      ∀ c ∈ text, columnSum (uppercaseChar c) = columns c := by
  have hframe : ∀ c ∈ ['⟦', ' ', '⟧', '─', '═'], columnSum (uppercaseChar c) = columns c := by
    intro c hc
    obtain ⟨_, _, hupper⟩ := freestanding_of_mem_frame c hc
    rw [hupper]
    simp [columnSum]
  have hopen := hframe '⟦' (by decide)
  have hblank := hframe ' ' (by decide)
  have hclose := hframe '⟧' (by decide)
  simp [enclose, or_imp, forall_and, hopen, hblank, hclose]

/-- The brackets keep a text apart from what is around it. -/
theorem width_enclose_append (text : List Char) {rest : List Char}
    (h : ∀ c ∈ rest, Freestanding c) :
    width (enclose text ++ rest) = width text + 4 + columnSum rest := by
  obtain ⟨hopen, hopen', _⟩ := freestanding_of_mem_frame '⟦' (by decide)
  obtain ⟨hblank, hblank', _⟩ := freestanding_of_mem_frame ' ' (by decide)
  obtain ⟨hclose, hclose', _⟩ := freestanding_of_mem_frame '⟧' (by decide)
  have hbefore : ∀ c ∈ ['⟦', ' '], Freestanding c := by
    simp [hopen, hblank]
  have hafter : ∀ c ∈ ' ' :: '⟧' :: rest, Freestanding c := by
    simp only [List.forall_mem_cons]
    exact ⟨hblank, hclose, h⟩
  have hend : width (' ' :: '⟧' :: rest) = 2 + columnSum rest := by
    have hsum := width_freestanding_append hafter []
    rw [List.append_nil, columnSum_cons, columnSum_cons, hblank', hclose'] at hsum
    rw [hsum, ← Nat.add_assoc]
    rfl
  have hsplit : enclose text ++ rest = ['⟦', ' '] ++ (text ++ ' ' :: '⟧' :: rest) := by
    simp [enclose]
  have hstart : columnSum ['⟦', ' '] = 2 := by
    rw [columnSum_cons, columnSum_cons, hopen', hblank']
    rfl
  rw [hsplit, width_freestanding_append hbefore, width_append_freestanding hblank, hend, hstart]
  omega

theorem width_enclose (text : List Char) : width (enclose text) = width text + 4 := by
  have hwidth := width_enclose_append text (fun c hc => absurd hc List.not_mem_nil)
  rwa [List.append_nil] at hwidth

/-! ## Titles in their rules -/

theorem header_false (title : String) :
    header false title =
      List.replicate (room (enclose title.toList) / 2) '─' ++
        uppercase (enclose title.toList) ++
        List.replicate (room (enclose title.toList) - room (enclose title.toList) / 2) '─' := rfl

/-- There are as many dashes as there is room before the title is set in upper case. -/
theorem width_header (title : String) :
    width (header false title) =
      room (enclose title.toList) + width (uppercase (enclose title.toList)) := by
  obtain ⟨hdash, hcolumns, _⟩ := freestanding_of_mem_frame '─' (by decide)
  have hdashes := freestanding_of_mem_replicate hdash
  rw [header_false, List.append_assoc, width_freestanding_append (hdashes _), uppercase_enclose,
    width_enclose_append _ (hdashes _), width_enclose, columnSum_replicate hcolumns,
    columnSum_replicate hcolumns]
  omega

theorem columnSum_header (title : String) :
    columnSum (header false title) =
      room (enclose title.toList) + columnSum (uppercase (enclose title.toList)) := by
  obtain ⟨_, hcolumns, _⟩ := freestanding_of_mem_frame '─' (by decide)
  rw [header_false, columnSum_append, columnSum_append, columnSum_replicate hcolumns,
    columnSum_replicate hcolumns]
  omega

theorem header_of_overlong {title : String} (h : totalWidth < width (enclose title.toList)) :
    header false title = uppercase (enclose title.toList) := by
  have hroom : room (enclose title.toList) = 0 := Nat.sub_eq_zero_of_le (Nat.le_of_lt h)
  rw [header_false, hroom]
  simp

/-- A title that fits has a rule of full width if and only if it keeps its width in upper case.
It does so if all its characters are steady; where characters are counted one by one, if and only
if each of them keeps its columns. A longer title is written in upper case alone. -/
theorem header_fills_rule_iff (title : String) :
    let text := enclose title.toList
    let line := header false title
    (∀ console : Console, (Page.header false 0 title).flatMap console.line = line ++ ['\n']) ∧
    (width text ≤ totalWidth →
      (width line = totalWidth ↔ width (uppercase text) = width text) ∧
      ((∀ c ∈ title.toList, Steady c) → width line = totalWidth) ∧
      (columnSum line = totalWidth ↔ columnSum (uppercase text) = width text) ∧
      (columnSum text = width text → (columnSum line = totalWidth ↔
        ∀ c ∈ title.toList, columnSum (uppercaseChar c) = columns c))) ∧
    (totalWidth < width text → line = uppercase text) := by
  intro text line
  refine ⟨?_, ?_, header_of_overlong⟩
  · intro console
    change [Page.printed line].flatMap console.line = line ++ ['\n']
    rw [List.flatMap_singleton, Page.printed, Console.line_print, String.toList_ofList]
  · intro hfits
    have hwidth : width line = totalWidth - width text + width (uppercase text) :=
      width_header title
    have hsum : columnSum line = totalWidth - width text + columnSum (uppercase text) :=
      columnSum_header title
    have hsteady : (∀ c ∈ title.toList, Steady c) → width (uppercase text) = width text := by
      intro h
      rw [uppercase_enclose, width_enclose, width_enclose, width_uppercase h]
    have hchars : columnSum (uppercase text) = columnSum text ↔
        ∀ c ∈ title.toList, columnSum (uppercaseChar c) = columns c :=
      (columnSum_uppercase_eq_iff text).trans (keepsColumns_enclose_iff title.toList)
    refine ⟨by omega, fun h => ?_, by omega, fun hcolumns => ?_⟩
    · have hkeeps := hsteady h
      omega
    · rw [← hchars]
      omega

/-- A title of letters that are one character in lower case only, and of wide ones. -/
def accented : String := "ǰ ΐ 日本"

/-- A title that leaves no room. -/
def unframed : String := String.ofList (List.replicate 61 'x')

theorem header_fills_rule_accented :
    width (enclose accented.toList) ≤ totalWidth ∧ (∀ c ∈ accented.toList, Steady c) ∧
    uppercase accented.toList ≠ accented.toList ∧
    width (header false accented) = totalWidth ∧
    columnSum (enclose accented.toList) = width (enclose accented.toList) ∧
    columnSum (header false accented) = totalWidth ∧
    totalWidth < width (enclose unframed.toList) ∧
    header false unframed = "⟦ ".toList ++ List.replicate 61 'X' ++ " ⟧".toList := by
  have hfits : width (enclose accented.toList) ≤ totalWidth := by decide +kernel
  have hall : accented.toList.all (decide <| Steady ·) = true := by decide +kernel
  have hsteady : ∀ c ∈ accented.toList, Steady c :=
    fun c hc => of_decide_eq_true (List.all_eq_true.mp hall c hc)
  have hsum : columnSum (enclose accented.toList) = width (enclose accented.toList) := by
    decide +kernel
  have hlong : totalWidth < width (enclose unframed.toList) := by decide +kernel
  obtain ⟨_, hshort, _⟩ := header_fills_rule_iff accented
  obtain ⟨_, _, halone⟩ := header_fills_rule_iff unframed
  obtain ⟨_, hwidth, _, hcolumns⟩ := hshort hfits
  refine ⟨hfits, hsteady, by decide +kernel, hwidth hsteady, hsum, ?_, hlong, ?_⟩
  · exact (hcolumns hsum).mpr fun c hc => (hsteady c hc).1
  · exact (halone hlong).trans (by decide +kernel)

/-- A letter that becomes two makes the rule of a short title too wide, however its columns are
counted. -/
theorem header_too_wide :
    width (enclose "ß".toList) ≤ totalWidth ∧ columnSum (enclose "ß".toList) ≤ totalWidth ∧
    width (header false "ß") = totalWidth + 1 ∧ columnSum (header false "ß") = totalWidth + 1 := by
  rw [width_header, columnSum_header]
  decide +kernel

end Reckoner.Frame
