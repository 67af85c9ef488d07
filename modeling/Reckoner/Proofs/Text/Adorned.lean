import Reckoner.Text.Style

/-!
# Adorned texts

A text is adorned by putting style sequences `ESC [ codes m` anywhere between its characters.
Painting adorns a text, and painting a text that is adorned already adorns it further: the
sequences that painting repeats after inner resets are between characters, too. Removing all
style sequences from an adorned text gives back the text below, if that has no escape character
of its own, and an adorned text never has one.

* `strip` removes the style sequences of a text in one pass.
* `Adorned styled bare`: `styled` is `bare` with style sequences put in.
* `Adorned.paint`: a painted text is adorned, however much is painted inside it.
* `strip_of_adorned`: what is left of an adorned text.
-/

namespace Reckoner.Text

/-! ## Removing style sequences -/

/-- Whether a character can stand among the codes of a style sequence. -/
def isCode (c : Char) : Bool :=
  c.isDigit || c == ';'

/-- How long the style sequence is that an escape character before a text begins, not counting
the escape character. -/
def sequenceLength? : List Char → Option Nat
  | '[' :: rest =>
    if (rest.dropWhile isCode).head? = some 'm' then some ((rest.takeWhile isCode).length + 2)
    else none
  | _ => none

/-- Removes the style sequences after the first `skipped` characters, which are removed, too. -/
def stripAfter : Nat → List Char → List Char
  | _, [] => []
  | skipped + 1, _ :: rest => stripAfter skipped rest
  | 0, c :: rest =>
    if c = escape then
      match sequenceLength? rest with
      | some length => stripAfter length rest
      | none => c :: stripAfter 0 rest
    else c :: stripAfter 0 rest

/-- A text without its style sequences. -/
def strip (text : List Char) : List Char :=
  stripAfter 0 text

theorem stripAfter_length_append (skipped rest : List Char) :
    stripAfter skipped.length (skipped ++ rest) = strip rest := by
  induction skipped with
  | nil => rfl
  | cons c skipped ih => exact ih

theorem strip_cons {c : Char} (h : c ≠ escape) (rest : List Char) :
    strip (c :: rest) = c :: strip rest := by
  rw [strip, stripAfter, if_neg h]
  rfl

theorem strip_append {text : List Char} (h : escape ∉ text) (rest : List Char) :
    strip (text ++ rest) = text ++ strip rest := by
  induction text with
  | nil => rfl
  | cons c text ih =>
    rw [List.mem_cons, not_or] at h
    rw [List.cons_append, strip_cons (Ne.symm h.1), ih h.2, List.cons_append]

theorem sequenceLength?_codes {codes : List Char} (h : ∀ c ∈ codes, isCode c = true)
    (rest : List Char) :
    sequenceLength? ('[' :: (codes ++ 'm' :: rest)) = some (codes.length + 2) := by
  have hend : isCode 'm' = false := by
    decide
  have htake : (codes ++ 'm' :: rest).takeWhile isCode = codes := by
    rw [List.takeWhile_append_of_pos h]
    simp [hend]
  have hdrop : (codes ++ 'm' :: rest).dropWhile isCode = 'm' :: rest := by
    rw [List.dropWhile_append_of_pos h]
    simp [hend]
  rw [sequenceLength?, hdrop, htake]
  rfl

theorem strip_sequence {codes : List Char} (h : ∀ c ∈ codes, isCode c = true)
    (rest : List Char) : strip (sequence codes ++ rest) = strip rest := by
  have htext : sequence codes ++ rest = escape :: '[' :: (codes ++ 'm' :: rest) := by
    simp [sequence]
  rw [htext, strip, stripAfter, if_pos rfl, sequenceLength?_codes h]
  have hskip := stripAfter_length_append ('[' :: (codes ++ ['m'])) rest
  simpa using hskip

/-! ## Adorned texts -/

/-- `styled` is `bare` with style sequences put in, and `bare` has no escape character. -/
inductive Adorned : List Char → List Char → Prop
  | nil : Adorned [] []
  | cons {c : Char} {styled bare : List Char} :
    c ≠ escape → Adorned styled bare → Adorned (c :: styled) (c :: bare)
  | sequence {codes styled bare : List Char} :
    (∀ c ∈ codes, isCode c = true) → Adorned styled bare →
      Adorned (sequence codes ++ styled) bare

/-- Removing the style sequences of an adorned text gives the text that was adorned. -/
theorem strip_of_adorned {styled bare : List Char} (h : Adorned styled bare) :
    strip styled = bare := by
  induction h with
  | nil => rfl
  | cons hc _ ih => rw [strip_cons hc, ih]
  | sequence hcodes _ ih => rw [strip_sequence hcodes, ih]

namespace Adorned

theorem escape_not_mem {styled bare : List Char} (h : Adorned styled bare) : escape ∉ bare := by
  induction h with
  | nil => exact List.not_mem_nil
  | cons hc _ ih =>
    intro hmem
    rcases List.mem_cons.mp hmem with heq | hmem
    · exact hc heq.symm
    · exact ih hmem
  | sequence _ _ ih => exact ih

/-- A text without escape characters is its own adorned form. -/
theorem refl {text : List Char} (h : escape ∉ text) : Adorned text text := by
  induction text with
  | nil => exact .nil
  | cons c rest ih =>
    rw [List.mem_cons, not_or] at h
    exact .cons (Ne.symm h.1) (ih h.2)

theorem append {styled bare styled' bare' : List Char} (h : Adorned styled bare)
    (h' : Adorned styled' bare') : Adorned (styled ++ styled') (bare ++ bare') := by
  induction h with
  | nil => exact h'
  | cons hc _ ih => exact .cons hc ih
  | sequence hcodes _ ih =>
    rw [List.append_assoc]
    exact .sequence hcodes ih

theorem intercalate {α : Type} {f g : α → List Char} {separator : List Char}
    (hseparator : escape ∉ separator) {parts : List α}
    (h : ∀ part ∈ parts, Adorned (f part) (g part)) :
    Adorned (separator.intercalate (parts.map f)) (separator.intercalate (parts.map g)) := by
  induction parts with
  | nil => exact .nil
  | cons part rest ih =>
    have hpart := h part List.mem_cons_self
    have hrest := ih fun other hother => h other (List.mem_cons_of_mem part hother)
    cases rest with
    | nil => simpa [List.intercalate] using hpart
    | cons other rest =>
      have hmore := hpart.append ((Adorned.refl hseparator).append hrest)
      simpa [List.intercalate] using hmore

/-! ## Painting -/

theorem reset {styled bare : List Char} (h : Adorned styled bare) :
    Adorned (Text.reset ++ styled) bare :=
  .sequence (List.all_eq_true.mp (by decide)) h

end Adorned

theorem isCode_of_mem_codes (style : Style) : ∀ c ∈ style.codes, isCode c = true := by
  rw [← List.all_eq_true]
  cases style with
  | colored color => cases color <;> decide
  | bold color => cases color <;> decide
  | dimmed => decide

theorem Adorned.opening {styled bare : List Char} (h : Adorned styled bare) (style : Style) :
    Adorned (style.opening ++ styled) bare :=
  .sequence (isCode_of_mem_codes style) h

theorem reopen_cons {opening : List Char} {c : Char} (h : c ≠ escape) (rest : List Char) :
    reopen opening (c :: rest) = c :: reopen opening rest := by
  rw [reopen]
  rintro _ rfl
  exact absurd rfl h

theorem reopen_append {opening text : List Char} (h : escape ∉ text) (rest : List Char) :
    reopen opening (text ++ rest) = text ++ reopen opening rest := by
  induction text with
  | nil => rfl
  | cons c text ih =>
    rw [List.mem_cons, not_or] at h
    rw [List.cons_append, reopen_cons (Ne.symm h.1), ih h.2, List.cons_append]

theorem escape_not_mem_of_isCode {codes : List Char} (h : ∀ c ∈ codes, isCode c = true) :
    escape ∉ codes :=
  fun hmem => absurd (h escape hmem) (by decide)

/-- A style sequence that begins like a reset is one. -/
theorem eq_zero_of_codes {codes rest others : List Char} (h : ∀ c ∈ codes, isCode c = true)
    (heq : codes ++ 'm' :: rest = '0' :: 'm' :: others) : codes = ['0'] := by
  match codes with
  | [] => simp at heq
  | [c] =>
    obtain ⟨rfl, _⟩ : c = '0' ∧ rest = others := by simpa using heq
    rfl
  | c :: d :: _ =>
    obtain ⟨_, rfl, _⟩ : c = '0' ∧ d = 'm' ∧ _ = others := by simpa using heq
    exact absurd (h 'm' (by simp)) (by decide)

/-- The opening sequence is repeated after a reset and after no other style sequence. -/
theorem reopen_sequence {opening codes : List Char} (h : ∀ c ∈ codes, isCode c = true)
    (rest : List Char) :
    reopen opening (sequence codes ++ rest) =
      sequence codes ++ ((if codes = ['0'] then opening else []) ++ reopen opening rest) := by
  by_cases hzero : codes = ['0']
  · subst hzero
    rw [if_pos rfl, ← List.append_assoc]
    rfl
  · have htext : sequence codes ++ rest = escape :: '[' :: (codes ++ 'm' :: rest) := by
      simp [sequence]
    have hbody : '[' :: (codes ++ 'm' :: rest) = ('[' :: (codes ++ ['m'])) ++ rest := by
      simp
    have hplain : escape ∉ '[' :: (codes ++ ['m']) := by
      simp [escape_not_mem_of_isCode h, show escape ≠ '[' by decide, show escape ≠ 'm' by decide]
    rw [htext, reopen, hbody, reopen_append hplain, if_neg hzero]
    · simp [sequence]
    · intro others _ heq
      exact hzero (eq_zero_of_codes h (List.cons.inj heq).2)

theorem Adorned.reopen {styled bare : List Char} (h : Adorned styled bare) (style : Style) :
    Adorned (Text.reopen style.opening styled) bare := by
  induction h with
  | nil => exact .nil
  | cons hc _ ih =>
    rw [reopen_cons hc]
    exact .cons hc ih
  | @sequence codes _ _ hcodes _ ih =>
    rw [reopen_sequence hcodes]
    refine .sequence hcodes ?_
    split
    · exact ih.opening style
    · exact ih

/-- A painted text is adorned, however much of it was painted before. -/
theorem Adorned.paint {styled bare : List Char} (h : Adorned styled bare) (style : Style) :
    Adorned (style.paint styled) bare := by
  rw [Style.paint, List.append_assoc]
  refine Adorned.opening ?_ style
  have hend := (h.reopen style).append (Adorned.nil.reset)
  simpa using hend

end Reckoner.Text
