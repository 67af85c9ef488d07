import Reckoner.Text.Width

/-!
# Widths of joined texts

A text is measured from its end, and a character sees of the text behind it only what that begins
with. So the columns of two texts one after the other add up as soon as the second one begins
with nothing that changes a width.

Some characters take back a column of what follows them. They do so only where there is one to
take back: each opening keeps the columns in reserve that can still be taken back, and so no text
has less than no columns.

* `measure_append`: the columns of joined texts.
* `measure_append_of_plain`: they add up behind a character that nothing combines with.
* `cast_width`: the width of a text is what is measured.
-/

namespace Reckoner.Text

/-! ## Joined texts -/

/-- The columns that a text adds in front of a sequel, and what it is to the characters before
it. -/
def Sequel.pushAll (next : Sequel) : List Char → Int × Sequel
  | [] => (0, next)
  | c :: rest =>
    (((next.pushAll rest).2.push c).1 + (next.pushAll rest).1, ((next.pushAll rest).2.push c).2)

theorem measure_cons (c : Char) (rest : List Char) :
    measure (c :: rest) =
      (((measure rest).2.push c).1 + (measure rest).1, ((measure rest).2.push c).2) := rfl

/-- A text by itself stands in front of nothing. -/
theorem measure_eq_pushAll (text : List Char) :
    measure text = (Sequel.bare .plain).pushAll text := by
  induction text with
  | nil => rfl
  | cons c rest ih => rw [measure_cons, Sequel.pushAll, ih]

/-- The text in front sees of the other one only what that is to the characters before it. -/
theorem measure_append (text rest : List Char) :
    measure (text ++ rest) =
      (((measure rest).2.pushAll text).1 + (measure rest).1,
        ((measure rest).2.pushAll text).2) := by
  induction text with
  | nil => simp [Sequel.pushAll]
  | cons c text ih => rw [List.cons_append, measure_cons, ih, Sequel.pushAll, Int.add_assoc]

/-- The columns of two texts add up if the second one begins with nothing that combines. -/
theorem measure_append_of_plain {rest : List Char} (h : (measure rest).2 = .bare .plain)
    (text : List Char) :
    measure (text ++ rest) = ((measure text).1 + (measure rest).1, (measure text).2) := by
  rw [measure_append, h, ← measure_eq_pushAll]

/-! ## Columns in reserve -/

/-- The column that a letter loses when it comes to stand below another one. -/
def Ligature.reserve : Ligature → Int
  | subscript => 1
  | joinedConsonant => 1
  | _ => 0

/-- The column that a single regional indicator loses when it gets a partner. -/
def EmojiOpening.reserve : EmojiOpening → Int
  | joinedIndicator => 1
  | joinedIndicators paired => if paired then 0 else 1
  | _ => 0

/-- The columns of a text that a character before it can still take back. -/
def Opening.reserve : Opening → Int
  | ligature second _ => second.reserve
  | emoji opening => opening.reserve
  | _ => 0

theorem Ligature.reserve_nonneg (second : Ligature) : 0 ≤ second.reserve := by
  cases second <;> decide

theorem EmojiOpening.reserve_nonneg (opening : EmojiOpening) : 0 ≤ opening.reserve := by
  cases opening with
  | joinedIndicators paired => cases paired <;> decide
  | _ => simp [reserve]

/-- There is never less than nothing to take back. -/
theorem Opening.reserve_nonneg (opening : Opening) : 0 ≤ opening.reserve := by
  cases opening with
  | ligature second joined => exact second.reserve_nonneg
  | emoji opening => exact opening.reserve_nonneg
  | _ => exact Int.le_refl _

theorem Opening.reserve_behindSelector (opening : Opening) :
    opening.behindSelector.reserve ≤ opening.reserve := by
  cases opening with
  | ligature second joined => exact Int.le_refl _
  | emoji opening => exact opening.reserve_nonneg
  | _ => exact Int.le_refl _

theorem Opening.reserve_behindEmojiSelector (opening : Opening) :
    opening.behindEmojiSelector.reserve ≤ opening.reserve := by
  unfold behindEmojiSelector
  split
  · exact Int.le_refl _
  · exact Int.le_refl _
  · exact opening.reserve_behindSelector

/-! ## What one character takes back -/

/-- What a ligature takes back was in reserve. -/
theorem Ligature.reserve_extend? {second : Ligature} {joined : Bool} {c : Char} {added : Int}
    {rest : Option (Ligature × Bool)} (h : second.extend? joined c = some (added, rest)) :
    (rest.elim 0 (·.1.reserve)) ≤ added + second.reserve := by
  unfold extend? at h
  split at h
  · obtain ⟨rfl, rfl⟩ : 0 = added ∧ _ = rest := by simpa using h
    simp
  · obtain ⟨⟨own, third⟩, hcomplete, heq⟩ := Option.map_eq_some_iff.mp h
    obtain ⟨rfl, rfl⟩ : own = added ∧ third.map (·, false) = rest := by simpa using heq
    -- a column is taken back only from a subscript and from a joined consonant
    cases second <;> simp only [complete?] at hcomplete <;> split at hcomplete <;>
      grind [reserve]

theorem Vowel.extend?_nonneg {vowel : Vowel} {c : Char} {added : Int} {rest : Option Vowel}
    (h : vowel.extend? c = some (added, rest)) : 0 ≤ added := by
  cases vowel <;> grind [extend?]

/-- What a sequence of emoji takes back was in reserve. -/
theorem EmojiOpening.reserve_extend? {opening rest : EmojiOpening} {c : Char} {added : Int}
    (h : opening.extend? c = some (added, rest)) : rest.reserve ≤ added + opening.reserve := by
  cases opening <;>
    grind [extend?, extendJoined?, extendLetters?, extendDigits?, reserve]

theorem Opening.reserve_extend? {opening rest : Opening} {c : Char} {added : Int}
    (h : opening.extend? c = some (added, rest)) : rest.reserve ≤ added + opening.reserve := by
  cases opening with
  | plain => cases h
  | lineFeed => cases h
  | widening =>
    simp only [extend?] at h
    split at h
    · obtain ⟨rfl, rfl⟩ : 2 = added ∧ plain = rest := by simpa using h
      decide
    · cases h
  | ligature second joined =>
    obtain ⟨⟨own, third⟩, hextend, heq⟩ := Option.map_eq_some_iff.mp h
    have hreserve := Ligature.reserve_extend? hextend
    cases third with
    | none =>
      obtain ⟨rfl, rfl⟩ : own = added ∧ plain = rest := by simpa using heq
      exact hreserve
    | some third =>
      obtain ⟨rfl, rfl⟩ : own = added ∧ ligature third.1 third.2 = rest := by simpa using heq
      exact hreserve
  | vowel v =>
    obtain ⟨⟨own, third⟩, hextend, heq⟩ := Option.map_eq_some_iff.mp h
    have hnonneg := Vowel.extend?_nonneg hextend
    obtain ⟨rfl, rfl⟩ : own = added ∧ (third.map vowel).getD plain = rest := by simpa using heq
    cases third with
    | none => simpa [reserve] using hnonneg
    | some third => simpa [reserve] using hnonneg
  | emoji opening =>
    obtain ⟨⟨own, third⟩, hextend, heq⟩ := Option.map_eq_some_iff.mp h
    obtain ⟨rfl, rfl⟩ : own = added ∧ emoji third = rest := by simpa using heq
    exact EmojiOpening.reserve_extend? hextend

/-! ## Characters by themselves -/

namespace CodeRange

theorem contains_iff {r : CodeRange} {code : Nat} :
    r.contains code = true ↔ r.first ≤ code ∧ code ≤ r.last := by
  simp [contains]

/-- Whether a range shares no code point with other ranges. -/
def isApartFrom (r : CodeRange) (ranges : List CodeRange) : Bool :=
  ranges.all fun s => r.last.blt s.first || s.last.blt r.first

theorem covers_of_isApartFrom {r : CodeRange} {ranges : List CodeRange} {c : Char}
    (h : r.isApartFrom ranges = true) (hc : r.contains c.toNat = true) :
    covers ranges c = false := by
  obtain ⟨hfirst, hlast⟩ := contains_iff.mp hc
  rw [covers, List.any_eq_false]
  intro s hs
  have hapart : r.last < s.first ∨ s.last < r.first := by
    simpa [Nat.blt_eq] using List.all_eq_true.mp h s hs
  rw [contains_iff]
  omega

end CodeRange

theorem columns_of_subscript {c : Char} (h : CodeRange.covers subscriptRanges c = true) :
    1 ≤ columns c := by
  have hall : ∀ r ∈ subscriptRanges, r.isApartFrom zeroWidthRanges = true := by
    decide +kernel
  obtain ⟨r, hr, hc⟩ := List.any_eq_true.mp h
  have hzero := CodeRange.covers_of_isApartFrom (hall r hr) hc
  simp only [columns, hzero, Bool.false_eq_true, if_false]
  split
  · decide
  · split
    · decide
    · split <;> decide

theorem EmojiOpening.reserve_ofChar? {c : Char} {opening : EmojiOpening}
    (h : ofChar? c = some opening) : opening.reserve = 0 := by
  grind [ofChar?, reserve]

/-- A letter that can stand below another one takes a column, which it can lose. -/
theorem Ligature.reserve_ofChar? {c : Char} {second : Ligature} (h : ofChar? c = some second) :
    second.reserve ≤ columns c := by
  by_cases hsubscript : CodeRange.covers subscriptRanges c = true
  · have hone := columns_of_subscript hsubscript
    have hle : second.reserve ≤ 1 := by cases second <;> decide
    omega
  · have hzero : second.reserve = 0 := by
      grind [ofChar?, reserve]
    omega

/-- A character that starts anew keeps no more in reserve than its own columns. -/
theorem Opening.reserve_ofChar (c : Char) : (ofChar c).reserve ≤ columns c := by
  have hcolumns : (0 : Int) ≤ columns c := Int.natCast_nonneg _
  unfold ofChar
  split
  · exact hcolumns
  · cases hemoji : EmojiOpening.ofChar? c with
    | some opening =>
      rw [← EmojiOpening.reserve_ofChar? hemoji] at hcolumns
      exact hcolumns
    | none =>
      cases hligature : Ligature.ofChar? c with
      | some second => exact Ligature.reserve_ofChar? hligature
      | none =>
        cases Vowel.ofChar? c with
        | some v => exact hcolumns
        | none => exact hcolumns

/-! ## The whole text -/

theorem Opening.reserve_push (opening : Opening) (c : Char) :
    (opening.push c).2.opening.reserve ≤ (opening.push c).1 + opening.reserve := by
  have hnonneg := opening.reserve_nonneg
  unfold push
  split
  · exact Int.add_nonneg (by decide) hnonneg
  · split
    · exact Int.add_nonneg (by decide) hnonneg
    · split
      · exact Int.add_nonneg (by decide) hnonneg
      · split
        · rename_i presentation _
          rw [Int.zero_add]
          cases presentation with
          | text => exact opening.reserve_behindSelector
          | emoji => exact opening.reserve_behindEmojiSelector
        · split
          · rename_i hextend
            exact reserve_extend? hextend
          · have hown := reserve_ofChar c
            simp only [Sequel.bare]
            omega

theorem Sequel.reserve_push (next : Sequel) (c : Char) :
    (next.push c).2.opening.reserve ≤ (next.push c).1 + next.opening.reserve := by
  have hnonneg := next.opening.reserve_nonneg
  unfold push
  split
  · split
    · split
      · exact Int.add_nonneg (by decide) hnonneg
      · exact Int.add_nonneg (by decide) hnonneg
    · have hpush := next.opening.behindSelector.reserve_push c
      have hselector := next.opening.reserve_behindSelector
      omega
  · split
    · exact Int.add_nonneg (by decide) hnonneg
    · exact next.opening.reserve_push c
  · exact next.opening.reserve_push c

/-- The columns of a text cover its reserve, and every further character keeps it so. -/
theorem reserve_le_measure (text : List Char) :
    (measure text).2.opening.reserve ≤ (measure text).1 := by
  induction text with
  | nil => decide
  | cons c rest ih =>
    have hpush := (measure rest).2.reserve_push c
    rw [measure_cons]
    dsimp only
    omega

/-- So the measure of a text is never negative, and its width loses nothing. -/
theorem cast_width (text : List Char) : (width text : Int) = (measure text).1 := by
  have hreserve := reserve_le_measure text
  have hnonneg := (measure text).2.opening.reserve_nonneg
  rw [width]
  omega

end Reckoner.Text
