import Reckoner.Proofs.Text.Width

/-!
# Freestanding characters

The columns of most characters are their own, whatever stands around them. The others are in
tables: line breaks, selectors, what emoji and ligatures are made of, and the marks that can stand
within a ligature. A character that is in none of them is freestanding. Marks above and below
letters are not, but they take no column with or without a ligature.

* `Unbound.push`: a character outside of the tables, in front of any text.
* `freestanding_of_narrow`, `freestanding_of_wide`: letters with two cases are freestanding.
* `silent_of_accent`: accents never take a column.
* `width_freestanding_append`, `width_append_freestanding`: widths around freestanding characters.
-/

namespace Reckoner.Text

/-! ## Characters out of context -/

/-- Code points of characters that are shown as one with others or change how others are shown,
but for marks that can stand within a ligature. -/
def contextRanges : List CodeRange :=
  [⟨0xa, 0xa⟩, ⟨0xd, 0xd⟩, ⟨0x5d0, 0x5d0⟩, ⟨0x5dc, 0x5dc⟩, ⟨0x17d2, 0x17d2⟩, ⟨0x1a10, 0x1a17⟩,
    ⟨0x200d, 0x200d⟩, ⟨0x2018, 0x201d⟩, ⟨0x20e3, 0x20e3⟩, ⟨0x2d7f, 0x2d7f⟩, ⟨0xa4f8, 0xa4fd⟩,
    ⟨0xfe01, 0xfe0f⟩, ⟨0x10c03, 0x10c32⟩, ⟨0x16d63, 0x16d69⟩, ⟨0x1f1e6, 0x1f1ff⟩,
    ⟨0x1f3f4, 0x1f3ff⟩, ⟨0xe0030, 0xe007f⟩] ++
  (selectableRanges ++ narrowableRanges ++ emojiRanges ++ tonableRanges ++ lamRanges ++
    alefRanges ++ subscriptRanges ++ tifinaghRanges)

def isMark (c : Char) : Bool :=
  CodeRange.covers (transparentRanges ++ fillerRanges) c

theorem CodeRange.covers_append (ranges others : List CodeRange) (c : Char) :
    covers (ranges ++ others) c = (covers ranges c || covers others c) :=
  List.any_append

theorem CodeRange.covers_append_eq_false {ranges others : List CodeRange} {c : Char} :
    covers (ranges ++ others) c = false ↔ covers ranges c = false ∧ covers others c = false := by
  rw [covers_append, Bool.or_eq_false_iff]

/-- A character that combines with no other one, unless it is a mark within a ligature. -/
def Unbound (c : Char) : Prop := CodeRange.covers contextRanges c = false

namespace Unbound

variable {c : Char}

theorem toNat_ne (h : Unbound c) {n : Nat} (hn : contextRanges.any (·.contains n) = true) :
    c.toNat ≠ n := by
  rintro rfl
  rw [← CodeRange.covers, h] at hn
  cases hn

theorem ne (h : Unbound c) {d : Char} (hd : CodeRange.covers contextRanges d = true) : c ≠ d :=
  fun heq => h.toNat_ne hd (congrArg Char.toNat heq)

theorem not_contains (h : Unbound c) {r s : CodeRange} (hs : s ∈ contextRanges)
    (hsub : s.first ≤ r.first ∧ r.last ≤ s.last) : r.contains c.toNat = false := by
  have hapart : s.contains c.toNat = false := by
    simpa using List.any_eq_false.mp h s hs
  rw [← Bool.not_eq_true, CodeRange.contains_iff] at hapart ⊢
  omega

theorem tables (h : Unbound c) :
    isSelectable c = false ∧ isNarrowable c = false ∧ CodeRange.covers emojiRanges c = false ∧
      isTonable c = false ∧ CodeRange.covers lamRanges c = false ∧
      CodeRange.covers alefRanges c = false ∧ CodeRange.covers subscriptRanges c = false ∧
      isTifinagh c = false := by
  simp only [Unbound, contextRanges, CodeRange.covers_append_eq_false] at h
  obtain ⟨_, ⟨⟨⟨⟨⟨⟨hselectable, hnarrowable⟩, hemoji⟩, htonable⟩, hlam⟩, halef⟩, hsubscript⟩,
    htifinagh⟩ := h
  exact ⟨hselectable, hnarrowable, hemoji, htonable, hlam, halef, hsubscript, htifinagh⟩

/-! ### Emoji -/

theorem isIndicator (h : Unbound c) : isIndicator c = false :=
  h.not_contains (s := ⟨0x1f1e6, 0x1f1ff⟩) (by decide) (by decide)

theorem isSkinTone (h : Unbound c) : isSkinTone c = false :=
  h.not_contains (s := ⟨0x1f3f4, 0x1f3ff⟩) (by decide) (by decide)

theorem isEmoji (h : Unbound c) : isEmoji c = false := by
  rw [Text.isEmoji, h.tables.2.2.1, ite_self]

theorem extend?_emoji (h : Unbound c) (opening : EmojiOpening) : opening.extend? c = none := by
  obtain ⟨_, _, _, htonable, _⟩ := h.tables
  have hletter : isTagLetter c = false :=
    h.not_contains (s := ⟨0xe0030, 0xe007f⟩) (by decide) (by decide)
  have hdigit : isTagDigit c = false :=
    h.not_contains (s := ⟨0xe0030, 0xe007f⟩) (by decide) (by decide)
  have hjoiner : c ≠ joiner := h.ne (by decide)
  have hkeycap : c ≠ keycap := h.ne (by decide)
  have htagEnd : c ≠ tagEnd := h.ne (by decide)
  have hflag : c ≠ blackFlag := h.ne (by decide)
  cases opening <;>
    simp [EmojiOpening.extend?, EmojiOpening.extendJoined?, EmojiOpening.extendLetters?,
      EmojiOpening.extendDigits?, h.isIndicator, h.isSkinTone, h.isEmoji, htonable, hletter,
      hdigit, hjoiner, hkeycap, htagEnd, hflag]

/-! ### Ligatures and vowels -/

theorem complete? (h : Unbound c) (second : Ligature) (joined : Bool) :
    second.complete? joined c = none := by
  obtain ⟨_, _, _, _, hlam, _, _, htifinagh⟩ := h.tables
  have htone : (CodeRange.mk 0xa4f8 0xa4fb).contains c.toNat = false :=
    h.not_contains (s := ⟨0xa4f8, 0xa4fd⟩) (by decide) (by decide)
  have hturkic : c.toNat ≠ 0x10c32 := h.toNat_ne (by decide)
  have hhebrew : c ≠ '\u05d0' := h.ne (by decide)
  have hkhmer : c ≠ '\u17d2' := h.ne (by decide)
  have hbuginese : c ≠ '\u1a15' ∧ c ≠ '\u1a17' := ⟨h.ne (by decide), h.ne (by decide)⟩
  have hjoiner : c ≠ '\u2d7f' := h.ne (by decide)
  cases second <;>
    simp [Ligature.complete?, hlam, htifinagh, htone, hturkic, hhebrew, hkhmer, hbuginese, hjoiner]

theorem extend?_vowel (h : Unbound c) (vowel : Vowel) : vowel.extend? c = none := by
  have hvowels : c.toNat ≠ 0x16d63 ∧ c.toNat ≠ 0x16d67 ∧ c.toNat ≠ 0x16d68 ∧ c.toNat ≠ 0x16d69 :=
    ⟨h.toNat_ne (by decide), h.toNat_ne (by decide), h.toNat_ne (by decide),
      h.toNat_ne (by decide)⟩
  cases vowel <;> simp [Vowel.extend?, hvowels]

theorem extend?_ligature (h : Unbound c) (second : Ligature) (joined : Bool) :
    second.extend? joined c = none ∨
      isMark c = true ∧ ∃ rest, second.extend? joined c = some (0, rest) := by
  unfold Ligature.extend?
  split
  · rename_i hpasses
    refine .inr ⟨?_, _, rfl⟩
    rw [isMark, CodeRange.covers_append, Bool.or_eq_true]
    cases second with
    | alef => exact .inl hpasses
    | _ => exact .inr hpasses
  · exact .inl (by rw [h.complete?, Option.map_none])

/-! ### Any opening -/

theorem extend? (h : Unbound c) (opening : Opening) :
    opening.extend? c = none ∨ isMark c = true ∧ ∃ rest, opening.extend? c = some (0, rest) := by
  cases opening with
  | plain => exact .inl rfl
  | lineFeed => exact .inl rfl
  | widening =>
    have hquote : c ≠ '‘' ∧ c ≠ '’' ∧ c ≠ '“' ∧ c ≠ '”' :=
      ⟨h.ne (by decide), h.ne (by decide), h.ne (by decide), h.ne (by decide)⟩
    exact .inl (by simp [Opening.extend?, isWideningQuote, hquote])
  | ligature second joined =>
    rcases h.extend?_ligature second joined with hnone | ⟨hmark, rest, hsome⟩
    · exact .inl (by rw [Opening.extend?, hnone, Option.map_none])
    · refine .inr ⟨hmark, ?_⟩
      rw [Opening.extend?, hsome, Option.map_some]
      cases rest with
      | none => exact ⟨_, rfl⟩
      | some rest => exact ⟨_, rfl⟩
  | vowel v => exact .inl (by rw [Opening.extend?, h.extend?_vowel, Option.map_none])
  | emoji opening => exact .inl (by rw [Opening.extend?, h.extend?_emoji, Option.map_none])

theorem ofChar (h : Unbound c) : Opening.ofChar c = .plain := by
  obtain ⟨_, _, _, _, _, halef, hsubscript, htifinagh⟩ := h.tables
  have hemoji : EmojiOpening.ofChar? c = none := by
    simp [EmojiOpening.ofChar?, h.isEmoji, h.isSkinTone, h.isIndicator]
  have hligature : Ligature.ofChar? c = none := by
    have htone : (CodeRange.mk 0xa4fc 0xa4fd).contains c.toNat = false :=
      h.not_contains (s := ⟨0xa4f8, 0xa4fd⟩) (by decide) (by decide)
    have hlamed : c ≠ '\u05dc' := h.ne (by decide)
    have hya : c ≠ '\u1a10' := h.ne (by decide)
    have hturkic : c.toNat ≠ 0x10c03 := h.toNat_ne (by decide)
    simp [Ligature.ofChar?, halef, hlamed, hsubscript, hya, htifinagh, htone, hturkic]
  have hvowel : Vowel.ofChar? c = none := by
    have hvowels : c.toNat ≠ 0x16d67 ∧ c.toNat ≠ 0x16d68 :=
      ⟨h.toNat_ne (by decide), h.toNat_ne (by decide)⟩
    simp [Vowel.ofChar?, hvowels]
  rw [Opening.ofChar, if_neg (h.ne (by decide)), hemoji, hligature, hvowel]

/-- In front of a text such a character adds its own columns, or none as a mark within a
ligature. -/
theorem push (h : Unbound c) (next : Sequel) :
    next.push c = ((columns c : Int), Sequel.bare .plain) ∨
      isMark c = true ∧ (next.push c).1 = 0 := by
  have hopening : ∀ opening : Opening,
      opening.push c = ((columns c : Int), Sequel.bare .plain) ∨
        isMark c = true ∧ (opening.push c).1 = 0 := by
    intro opening
    have hbreak : c ≠ '\n' := h.ne (by decide)
    have hreturn : c ≠ '\r' := h.ne (by decide)
    have hselector : Sequel.selector? c = none := by
      rw [Sequel.selector?, if_neg (h.ne (by decide)), if_neg (h.ne (by decide))]
    rw [Opening.push, if_neg hbreak, if_neg (by simp [hreturn]), hselector]
    split
    · rename_i hlow
      exact .inl (by rw [columns, if_pos hlow]; rfl)
    · rcases h.extend? opening with hnone | ⟨hmark, rest, hsome⟩
      · exact .inl (by simp only [hnone, h.ofChar])
      · exact .inr ⟨hmark, by simp only [hsome]⟩
  obtain ⟨hselectable, hnarrowable, _⟩ := h.tables
  unfold Sequel.push
  split
  · rw [if_neg (by simp [hselectable])]
    exact hopening _
  · rw [if_neg (by simp [hnarrowable])]
    exact hopening _
  · exact hopening _

end Unbound

/-! ## Letters and accents -/

/-- A character that takes its own columns in front of every text. -/
def Freestanding (c : Char) : Prop :=
  ∀ next : Sequel, next.push c = ((columns c : Int), Sequel.bare .plain)

/-- A character that takes no column in front of any text. -/
def Silent (c : Char) : Prop := ∀ next : Sequel, (next.push c).1 = 0

/-- Ranges with all letters of one column that have two cases. -/
def narrowLetters : List CodeRange :=
  [⟨0x41, 0x7a⟩, ⟨0xb5, 0x2ff⟩, ⟨0x370, 0x481⟩, ⟨0x48a, 0x587⟩, ⟨0x10a0, 0x10ff⟩,
    ⟨0x13a0, 0x13fd⟩, ⟨0x1c80, 0x1cbf⟩, ⟨0x1d79, 0x1d8e⟩, ⟨0x1e00, 0x1fff⟩, ⟨0x2132, 0x2132⟩,
    ⟨0x214e, 0x2184⟩, ⟨0x24b6, 0x24c1⟩, ⟨0x24c3, 0x24e9⟩, ⟨0x2c00, 0x2cee⟩, ⟨0x2cf2, 0x2d2d⟩,
    ⟨0xa640, 0xa66d⟩, ⟨0xa680, 0xa69b⟩, ⟨0xa722, 0xa7f6⟩, ⟨0xab53, 0xabbf⟩, ⟨0xfb00, 0xfb17⟩,
    ⟨0x10400, 0x1044f⟩, ⟨0x104b0, 0x104fb⟩, ⟨0x10570, 0x105bc⟩, ⟨0x10c80, 0x10cf2⟩,
    ⟨0x10d50, 0x10d65⟩, ⟨0x10d70, 0x10d85⟩, ⟨0x118a0, 0x118df⟩, ⟨0x16e40, 0x16ed3⟩,
    ⟨0x1e900, 0x1e943⟩]

def wideLetters : CodeRange := ⟨0xff21, 0xff5a⟩

def accents : CodeRange := ⟨0x300, 0x344⟩

theorem Unbound.freestanding {c : Char} (h : Unbound c) (hmark : isMark c = false) :
    Freestanding c := by
  intro next
  rcases h.push next with hpush | ⟨hmark', _⟩
  · exact hpush
  · rw [hmark] at hmark'
    cases hmark'

theorem Unbound.silent {c : Char} (h : Unbound c) (hcolumns : columns c = 0) : Silent c := by
  intro next
  rcases h.push next with hpush | ⟨_, hzero⟩
  · rw [hpush, hcolumns]
    rfl
  · exact hzero

theorem columns_of_covers {c : Char} (hlow : ¬ c.toNat ≤ 0xa0) (hetcetera : c ≠ etcetera) :
    columns c = if CodeRange.covers zeroWidthRanges c then 0
      else if CodeRange.covers wideRanges c then 2 else 1 := by
  rw [columns, if_neg hlow, if_neg hetcetera]

theorem freestanding_of_narrow {c : Char} (h : CodeRange.covers narrowLetters c = true) :
    Freestanding c ∧ columns c = 1 := by
  have hall : ∀ r ∈ narrowLetters, r.isApartFrom (contextRanges ++
      ((transparentRanges ++ fillerRanges) ++ ([⟨0x17d8, 0x17d8⟩] ++
        (zeroWidthRanges ++ wideRanges)))) = true := by
    decide +kernel
  obtain ⟨r, hr, hc⟩ := List.any_eq_true.mp h
  -- a code point of these ranges is in none of the tables that are asked about it
  have hapart := CodeRange.covers_of_isApartFrom (hall r hr) hc
  obtain ⟨hunbound, hapart⟩ := CodeRange.covers_append_eq_false.mp hapart
  obtain ⟨hmark, hapart⟩ := CodeRange.covers_append_eq_false.mp hapart
  obtain ⟨hetcetera, hapart⟩ := CodeRange.covers_append_eq_false.mp hapart
  obtain ⟨hzero, hwide⟩ := CodeRange.covers_append_eq_false.mp hapart
  refine ⟨Unbound.freestanding hunbound hmark, ?_⟩
  have hne : c ≠ etcetera := by
    rintro rfl
    exact absurd hetcetera (by decide)
  by_cases hlow : c.toNat ≤ 0xa0
  · rw [columns, if_pos hlow]
  · rw [columns_of_covers hlow hne, hzero, hwide]
    rfl

theorem freestanding_of_wide {c : Char} (h : wideLetters.contains c.toNat = true) :
    Freestanding c ∧ columns c = 2 := by
  have hall : wideLetters.isApartFrom (contextRanges ++
      ((transparentRanges ++ fillerRanges) ++ zeroWidthRanges)) = true := by
    decide +kernel
  have hapart := CodeRange.covers_of_isApartFrom hall h
  obtain ⟨hunbound, hapart⟩ := CodeRange.covers_append_eq_false.mp hapart
  obtain ⟨hmark, hzero⟩ := CodeRange.covers_append_eq_false.mp hapart
  obtain ⟨hfirst, hlast⟩ : 0xff21 ≤ c.toNat ∧ c.toNat ≤ 0xff5a := CodeRange.contains_iff.mp h
  have hwithin : (CodeRange.mk 0xff01 0xff60).contains c.toNat = true :=
    CodeRange.contains_iff.mpr ⟨by dsimp only; omega, by dsimp only; omega⟩
  have hwide : CodeRange.covers wideRanges c = true :=
    List.any_eq_true.mpr ⟨_, by decide +kernel, hwithin⟩
  have hne : c ≠ etcetera := by
    rintro rfl
    exact absurd hfirst (by decide)
  refine ⟨Unbound.freestanding hunbound hmark, ?_⟩
  rw [columns_of_covers (by omega) hne, hzero, hwide]
  rfl

theorem silent_of_accent {c : Char} (h : accents.contains c.toNat = true) :
    Silent c ∧ columns c = 0 := by
  have hall : accents.isApartFrom contextRanges = true := by
    decide +kernel
  obtain ⟨hfirst, hlast⟩ : 0x300 ≤ c.toNat ∧ c.toNat ≤ 0x344 := CodeRange.contains_iff.mp h
  have hwithin : (CodeRange.mk 0x300 0x36f).contains c.toNat = true :=
    CodeRange.contains_iff.mpr ⟨by dsimp only; omega, by dsimp only; omega⟩
  have hzero : CodeRange.covers zeroWidthRanges c = true :=
    List.any_eq_true.mpr ⟨_, by decide +kernel, hwithin⟩
  have hne : c ≠ etcetera := by
    rintro rfl
    exact absurd hlast (by decide)
  have hcolumns : columns c = 0 := by
    rw [columns_of_covers (by omega) hne, hzero]
    rfl
  exact ⟨Unbound.silent (CodeRange.covers_of_isApartFrom hall h) hcolumns, hcolumns⟩

/-! ## Columns character by character -/

/-- The columns of the characters of a text, each by itself. -/
def columnSum : List Char → Nat
  | [] => 0
  | c :: rest => columns c + columnSum rest

theorem columnSum_cons (c : Char) (rest : List Char) :
    columnSum (c :: rest) = columns c + columnSum rest := rfl

theorem columnSum_append (text rest : List Char) :
    columnSum (text ++ rest) = columnSum text + columnSum rest := by
  induction text with
  | nil => exact (Nat.zero_add _).symm
  | cons c text ih => rw [List.cons_append, columnSum_cons, columnSum_cons, ih, Nat.add_assoc]

/-- A run of one character that takes one column has as many columns as characters. -/
theorem columnSum_replicate {c : Char} (h : columns c = 1) (n : Nat) :
    columnSum (List.replicate n c) = n := by
  induction n with
  | zero => rfl
  | succ n ih => rw [List.replicate_succ, columnSum_cons, ih, h, Nat.add_comm]

theorem freestanding_of_mem_replicate {c : Char} (h : Freestanding c) (n : Nat) :
    ∀ d ∈ List.replicate n c, Freestanding d := by
  intro d hd
  rw [List.eq_of_mem_replicate hd]
  exact h

theorem pushAll_of_freestanding {text : List Char} (h : ∀ c ∈ text, Freestanding c)
    (next : Sequel) : (next.pushAll text).1 = columnSum text := by
  induction text with
  | nil => rfl
  | cons c rest ih =>
    obtain ⟨hc, hrest⟩ := List.forall_mem_cons.mp h
    rw [Sequel.pushAll, hc, ih hrest, columnSum_cons]
    simp

theorem width_freestanding_append {text : List Char} (h : ∀ c ∈ text, Freestanding c)
    (rest : List Char) : width (text ++ rest) = columnSum text + width rest := by
  have hwhole := cast_width (text ++ rest)
  have hrest := cast_width rest
  rw [measure_append, pushAll_of_freestanding h] at hwhole
  dsimp only at hwhole
  omega

/-- A freestanding character keeps what is before it apart from what is behind it. -/
theorem width_append_freestanding {c : Char} (h : Freestanding c) (text rest : List Char) :
    width (text ++ c :: rest) = width text + width (c :: rest) := by
  have hplain : (measure (c :: rest)).2 = .bare .plain := by
    rw [measure_cons, h]
  have hwhole := cast_width (text ++ c :: rest)
  have htext := cast_width text
  have hrest := cast_width (c :: rest)
  rw [measure_append_of_plain hplain] at hwhole
  dsimp only at hwhole
  omega

end Reckoner.Text
