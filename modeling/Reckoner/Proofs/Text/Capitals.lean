import Reckoner.Proofs.Text.Freestanding
import Reckoner.Text.Uppercase

/-!
# Widths of capitals

The upper-case form of a letter is mostly one letter as wide as itself, sometimes with accents
that the letter had built in. But some letters have no upper-case form of their own and become two
or three letters, and the iota below a vowel, which takes no column, becomes a letter that takes
one. No upper-case form is narrower than its letter. There is one more exception: the circled m
becomes a sign that a selector behind it can turn into an emoji.

* `capital_uppercaseChar`: the kinds of upper-case forms.
* `columnSum_uppercase_eq_iff`: character by character, a text keeps its columns in upper case if
  and only if all its characters do.
* `width_uppercase`: if they do, and none is the circled m, the text keeps its width.
-/

namespace Reckoner.Text

/-! ## Upper-case forms -/

theorem countP_le_columnSum (text : List Char) :
    text.countP (CodeRange.covers narrowLetters) ≤ columnSum text := by
  induction text with
  | nil => exact Nat.le_refl 0
  | cons c rest ih =>
    rw [List.countP_cons, columnSum_cons]
    split
    · rename_i hnarrow
      have hone := (freestanding_of_narrow hnarrow).2
      omega
    · omega

/-- What can become of a letter. -/
inductive Capital (c : Char) : List Char → Prop
  /-- Itself. -/
  | same : Capital c [c]
  /-- A letter as wide, with accents. -/
  | alike {d : Char} {marks : List Char} :
    Freestanding c → Freestanding d → columns d = columns c →
      (∀ mark ∈ marks, Silent mark ∧ columns mark = 0) → Capital c (d :: marks)
  /-- A sign that can become an emoji. -/
  | circled : c = 'ⓜ' → Capital c ['Ⓜ']
  /-- Something wider. -/
  | wider {upper : List Char} : columns c < columnSum upper → Capital c upper

theorem capital_of_narrow {c d : Char} (hc : CodeRange.covers narrowLetters c = true)
    (hd : CodeRange.covers narrowLetters d = true) : Capital c [d] := by
  obtain ⟨hc, hcolumns⟩ := freestanding_of_narrow hc
  obtain ⟨hd, hcolumns'⟩ := freestanding_of_narrow hd
  exact .alike hc hd (hcolumns'.trans hcolumns.symm) (fun _ hmark => absurd hmark List.not_mem_nil)

/-- The letters of ASCII and their capitals are narrow, and its other characters stay. -/
theorem capital_toUpper {c : Char} (h : c.toNat < 128) : Capital c [c.toUpper] := by
  have hall : ∀ n < 128, (Char.ofNat n).toUpper = Char.ofNat n ∨
      CodeRange.covers narrowLetters (Char.ofNat n) = true ∧
        CodeRange.covers narrowLetters (Char.ofNat n).toUpper = true := by
    decide +kernel
  have hcases := hall c.toNat h
  rw [Char.ofNat_toNat] at hcases
  rcases hcases with hsame | ⟨hc, hd⟩
  · rw [hsame]
    exact .same
  · exact capital_of_narrow hc hd

/-! ### Several characters -/

def isAccented : List Char → Bool
  | [] => false
  | d :: marks =>
    CodeRange.covers narrowLetters d && marks.all fun mark => accents.contains mark.toNat

theorem capital_expansion {c : Char} {codes : List Nat}
    (h : caseExpansions.lookup c.toNat = some codes) : Capital c (codes.map Char.ofNat) := by
  have hall : ∀ entry ∈ caseExpansions,
      CodeRange.covers narrowLetters (Char.ofNat entry.1) = true ∧
        (isAccented (entry.2.map Char.ofNat) = true ∨
          2 ≤ (entry.2.map Char.ofNat).countP (CodeRange.covers narrowLetters)) := by
    decide +kernel
  obtain ⟨before, after, hsplit, _⟩ := List.lookup_eq_some_iff.mp h
  have hentry := hall (c.toNat, codes) (by rw [hsplit]; simp)
  rw [Char.ofNat_toNat] at hentry
  obtain ⟨hnarrow, hupper⟩ := hentry
  dsimp only at hupper
  obtain ⟨hc, hcolumns⟩ := freestanding_of_narrow hnarrow
  -- one letter with accents is as wide as `c`, and two letters are wider
  rcases hupper with haccented | hmany
  · cases hcodes : codes.map Char.ofNat with
    | nil =>
      rw [hcodes] at haccented
      cases haccented
    | cons d marks =>
      rw [hcodes, isAccented, Bool.and_eq_true, List.all_eq_true] at haccented
      obtain ⟨hd, hcolumns'⟩ := freestanding_of_narrow haccented.1
      exact .alike hc hd (hcolumns'.trans hcolumns.symm)
        fun mark hmark => silent_of_accent (haccented.2 mark hmark)
  · have hsum := countP_le_columnSum (codes.map Char.ofNat)
    exact .wider (by omega)

/-! ### One character -/

namespace CaseRun

def isWithin (run : CaseRun) (r : CodeRange) : Bool :=
  decide (r.first ≤ run.first) && decide (run.last ≤ r.last)

def leadsInto (run : CaseRun) (r : CodeRange) : Bool :=
  decide ((r.first : Int) ≤ run.first + run.shift) && decide (run.last + run.shift ≤ (r.last : Int))

variable {run : CaseRun} {code : Nat}

theorem bounds (h : run.contains code = true) : run.first ≤ code ∧ code ≤ run.last := by
  simp only [contains, Bool.and_eq_true, decide_eq_true_eq] at h
  exact h.1

theorem contains_of_isWithin (h : run.contains code = true) {r : CodeRange}
    (hr : run.isWithin r = true) : r.contains code = true := by
  obtain ⟨hfirst, hlast⟩ := bounds h
  simp only [isWithin, Bool.and_eq_true, decide_eq_true_eq] at hr
  exact CodeRange.contains_iff.mpr ⟨by omega, by omega⟩

theorem contains_of_leadsInto (h : run.contains code = true) {r : CodeRange}
    (hr : run.leadsInto r = true) : r.contains (code + run.shift).toNat = true := by
  obtain ⟨hfirst, hlast⟩ := bounds h
  simp only [leadsInto, Bool.and_eq_true, decide_eq_true_eq] at hr
  exact CodeRange.contains_iff.mpr ⟨by omega, by omega⟩

end CaseRun

def CodeRange.isValid (r : CodeRange) : Bool :=
  decide (r.last < 0xd800) || decide (0xdfff < r.first) && decide (r.last < 0x110000)

theorem toNat_ofNat_of_contains {r : CodeRange} (hr : r.isValid = true) {code : Nat}
    (h : r.contains code = true) : (Char.ofNat code).toNat = code := by
  obtain ⟨hfirst, hlast⟩ := CodeRange.contains_iff.mp h
  have hvalid : code.isValidChar := by
    simp only [CodeRange.isValid, Bool.or_eq_true, Bool.and_eq_true, decide_eq_true_eq] at hr
    rw [Nat.isValidChar]
    omega
  rw [Char.ofNat, dif_pos hvalid]
  rfl

/-- The circled letters, of which one becomes a sign that can become an emoji. -/
theorem capital_circled {c : Char} (hfirst : 0x24d0 ≤ c.toNat) (hlast : c.toNat ≤ 0x24e9) :
    Capital c [Char.ofNat (c.toNat + (-26 : Int)).toNat] := by
  have hall : ∀ n < 26, n ≠ 12 → CodeRange.covers narrowLetters (Char.ofNat (0x24d0 + n)) = true ∧
      CodeRange.covers narrowLetters (Char.ofNat (0x24b6 + n)) = true := by
    decide +kernel
  obtain ⟨n, hn⟩ : ∃ n, c.toNat = 0x24d0 + n := ⟨c.toNat - 0x24d0, by omega⟩
  have hc : c = Char.ofNat (0x24d0 + n) := by
    rw [← hn, Char.ofNat_toNat]
  have hupper : (c.toNat + (-26 : Int)).toNat = 0x24b6 + n := by
    omega
  rw [hupper]
  by_cases hm : n = 12
  · subst hm
    exact .circled hc
  · obtain ⟨hlower, hupper⟩ := hall n (by omega) hm
    rw [← hc] at hlower
    exact capital_of_narrow hlower hupper

theorem capital_run {c : Char} {run : CaseRun} (hrun : run ∈ caseRuns)
    (hc : run.contains c.toNat = true) : Capital c [Char.ofNat (c.toNat + run.shift).toNat] := by
  have hall : ∀ run ∈ caseRuns, run = ⟨0x345, 0x345, 1, 84⟩ ∨ run = ⟨0x24d0, 0x24e9, 1, -26⟩ ∨
      narrowLetters.any run.isWithin = true ∧ narrowLetters.any run.leadsInto = true ∨
      run.isWithin wideLetters = true ∧ run.leadsInto wideLetters = true := by
    decide +kernel
  rcases hall run hrun with rfl | rfl | ⟨hwithin, hinto⟩ | ⟨hwithin, hinto⟩
  · -- the iota below a vowel
    obtain ⟨hfirst, hlast⟩ : 0x345 ≤ c.toNat ∧ c.toNat ≤ 0x345 := CaseRun.bounds hc
    have hiota : c = '\u0345' := by
      rw [← Char.ofNat_toNat c, Nat.le_antisymm hlast hfirst]
    subst hiota
    exact .wider (by decide +kernel)
  · obtain ⟨hfirst, hlast⟩ := CaseRun.bounds hc
    exact capital_circled hfirst hlast
  · have hvalid : ∀ r ∈ narrowLetters, r.isValid = true := by
      decide
    obtain ⟨r, hr, hwithin⟩ := List.any_eq_true.mp hwithin
    obtain ⟨r', hr', hinto⟩ := List.any_eq_true.mp hinto
    have hupper := CaseRun.contains_of_leadsInto hc hinto
    refine capital_of_narrow ?_ ?_
    · exact List.any_eq_true.mpr ⟨r, hr, CaseRun.contains_of_isWithin hc hwithin⟩
    · refine List.any_eq_true.mpr ⟨r', hr', ?_⟩
      rw [toNat_ofNat_of_contains (hvalid r' hr') hupper]
      exact hupper
  · have hupper := CaseRun.contains_of_leadsInto hc hinto
    obtain ⟨hletter, hcolumns⟩ := freestanding_of_wide (CaseRun.contains_of_isWithin hc hwithin)
    have hd : wideLetters.contains (Char.ofNat (c.toNat + run.shift).toNat).toNat = true := by
      rw [toNat_ofNat_of_contains (by decide) hupper]
      exact hupper
    obtain ⟨hletter', hcolumns'⟩ := freestanding_of_wide hd
    exact .alike hletter hletter' (hcolumns'.trans hcolumns.symm)
      fun _ hmark => absurd hmark List.not_mem_nil

theorem capital_uppercaseChar (c : Char) : Capital c (uppercaseChar c) := by
  unfold uppercaseChar
  split
  · rename_i hascii
    exact capital_toUpper hascii
  · split
    · rename_i codes hcodes
      exact capital_expansion hcodes
    · split
      · rename_i run hrun
        have hcontains := List.find?_some hrun
        exact capital_run (List.mem_of_find?_eq_some hrun) hcontains
      · exact .same

/-! ## Texts in upper case -/

theorem columnSum_of_silent {marks : List Char}
    (h : ∀ mark ∈ marks, Silent mark ∧ columns mark = 0) : columnSum marks = 0 := by
  induction marks with
  | nil => rfl
  | cons mark rest ih =>
    have hrest := ih fun other hother => h other (List.mem_cons_of_mem mark hother)
    rw [columnSum_cons, (h mark List.mem_cons_self).2, hrest]

theorem Capital.columns_le {c : Char} {upper : List Char} (h : Capital c upper) :
    columns c ≤ columnSum upper := by
  cases h with
  | same => simp [columnSum]
  | alike _ _ hcolumns hmarks => rw [columnSum_cons, columnSum_of_silent hmarks, hcolumns]; simp
  | circled hc =>
    subst hc
    decide +kernel
  | wider hwider => exact Nat.le_of_lt hwider

/-- No text loses columns in upper case, counted character by character. -/
theorem columnSum_le_uppercase (text : List Char) :
    columnSum text ≤ columnSum (uppercase text) := by
  induction text with
  | nil => exact Nat.le_refl 0
  | cons c rest ih =>
    have hc := (capital_uppercaseChar c).columns_le
    rw [uppercase, List.flatMap_cons, columnSum_append, columnSum_cons]
    exact Nat.add_le_add hc ih

/-- Since no character becomes narrower, none can make up for one that becomes wider. -/
theorem columnSum_uppercase_eq_iff (text : List Char) :
    columnSum (uppercase text) = columnSum text ↔
      ∀ c ∈ text, columnSum (uppercaseChar c) = columns c := by
  induction text with
  | nil => simp [uppercase]
  | cons c rest ih =>
    have hc := (capital_uppercaseChar c).columns_le
    have hrest := columnSum_le_uppercase rest
    rw [List.forall_mem_cons, ← ih, uppercase, List.flatMap_cons, columnSum_append, columnSum_cons,
      ← uppercase]
    omega

theorem pushAll_of_silent {marks : List Char}
    (h : ∀ mark ∈ marks, Silent mark ∧ columns mark = 0) (next : Sequel) :
    (next.pushAll marks).1 = 0 := by
  induction marks with
  | nil => rfl
  | cons mark rest ih =>
    have hrest := ih fun other hother => h other (List.mem_cons_of_mem mark hother)
    rw [Sequel.pushAll, hrest, (h mark List.mem_cons_self).1]
    rfl

/-- Whether the upper-case form of a character takes the columns of the character, and does so
whatever follows. -/
def Steady (c : Char) : Prop := columnSum (uppercaseChar c) = columns c ∧ c ≠ 'ⓜ'

instance : DecidablePred Steady := fun _ => inferInstanceAs (Decidable (_ ∧ _))

/-- A steady character in upper case is to all texts behind and before it what it was. -/
theorem pushAll_uppercaseChar {c : Char} (h : Steady c) (next : Sequel) :
    next.pushAll (uppercaseChar c) = next.push c := by
  have hcapital := capital_uppercaseChar c
  generalize hupper : uppercaseChar c = upper at hcapital
  cases hcapital with
  | same => simp [Sequel.pushAll]
  | alike hc hd hcolumns hmarks =>
    rw [Sequel.pushAll, pushAll_of_silent hmarks, hd, hc, hcolumns]
    simp
  | circled hm => exact absurd hm h.2
  | wider hwider =>
    have hkeeps := h.1
    rw [hupper] at hkeeps
    omega

theorem measure_uppercase {text : List Char} (h : ∀ c ∈ text, Steady c) :
    measure (uppercase text) = measure text := by
  induction text with
  | nil => rfl
  | cons c rest ih =>
    obtain ⟨hc, hrest⟩ := List.forall_mem_cons.mp h
    rw [uppercase, List.flatMap_cons, measure_append, ← uppercase, ih hrest,
      pushAll_uppercaseChar hc, measure_cons]

theorem width_uppercase {text : List Char} (h : ∀ c ∈ text, Steady c) :
    width (uppercase text) = width text := by
  rw [width, width, measure_uppercase h]

-- The circled m behind which a selector stands.
example : width ['ⓜ', '\ufe0f'] = 1 ∧ width (uppercase ['ⓜ', '\ufe0f']) = 2 := by
  decide +kernel

end Reckoner.Text
