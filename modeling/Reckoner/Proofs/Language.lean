import Mathlib.Data.List.Forall2
import Reckoner.Language

/-!
# Names of languages

A language is read from its code and from its English name, in capitals and small letters. Which
characters are taken for one another is said here by their code points: a capital among the ASCII
letters stands 32 places before its small letter, and no other two characters are alike. In
particular the signs that look like letters, or become letters in other alphabets' rules of case,
are not letters of a name.

* `lower_eq_lower_iff`: texts have one lower-case form if and only if they are alike.
* `named?_eq_some_iff`: the names of a language.
* `parse_by_names`: what is read as a language, and what is said of everything else.
-/

namespace Reckoner.Language

/-! ## Capitals and small letters -/

/-- `c` is a capital of the ASCII letters and `d` is its small letter. -/
def Capital (c d : Char) : Prop :=
  c.isUpper = true ∧ d.toNat = c.toNat + 32

/-- The characters are equal or the two cases of one ASCII letter. -/
def SameLetter (c d : Char) : Prop :=
  c = d ∨ Capital c d ∨ Capital d c

/-- A capital becomes its small letter, and every other character stays. -/
def Lowers (c d : Char) : Prop :=
  Capital c d ∨ c.isUpper = false ∧ d = c

instance : DecidableRel Capital := fun _ _ => instDecidableAnd

instance : DecidableRel SameLetter := fun _ _ => instDecidableOr

theorem isUpper_iff_val {c : Char} : c.isUpper = true ↔ c.val ≥ 'A'.val ∧ c.val ≤ 'Z'.val :=
  decide_eq_true_iff

theorem isUpper_iff {c : Char} : c.isUpper = true ↔ 65 ≤ c.toNat ∧ c.toNat ≤ 90 := by
  rw [isUpper_iff_val, ge_iff_le, UInt32.le_iff_toNat_le, UInt32.le_iff_toNat_le]
  rfl

theorem toNat_toLower_of_isUpper {c : Char} (h : c.isUpper = true) :
    c.toLower.toNat = c.toNat + 32 := by
  obtain ⟨hfirst, hlast⟩ := isUpper_iff.mp h
  have hval : c.val.toNat = c.toNat := rfl
  have hshift : ('a'.val - 'A'.val).toNat = 32 := rfl
  change Char.toNat (if _ : _ then _ else _) = _
  rw [dif_pos (isUpper_iff_val.mp h), Char.toNat_mk, UInt32.toNat_add, hval, hshift]
  omega

theorem toLower_of_not_isUpper {c : Char} (h : c.isUpper = false) : c.toLower = c := by
  rw [← Bool.not_eq_true, isUpper_iff_val] at h
  exact dif_neg h

theorem lowers_iff {c d : Char} : Lowers c d ↔ d = c.toLower := by
  cases hupper : c.isUpper with
  | true =>
    simp only [Lowers, Capital, hupper, ← Char.toNat_inj, toNat_toLower_of_isUpper hupper]
    simp
  | false =>
    simp only [Lowers, Capital, hupper, toLower_of_not_isUpper hupper]
    simp

/-- Lowering never makes a capital, so letters with one lower-case form are a letter's two cases. -/
theorem sameLetter_iff {c d : Char} : SameLetter c d ↔ c.toLower = d.toLower := by
  rw [SameLetter, Capital, Capital, ← Char.toNat_inj, ← Char.toNat_inj]
  cases hc : c.isUpper with
  | true =>
    have hcapital := isUpper_iff.mp hc
    rw [toNat_toLower_of_isUpper hc]
    cases hd : d.isUpper with
    | true =>
      have hcapital' := isUpper_iff.mp hd
      rw [toNat_toLower_of_isUpper hd]
      omega
    | false =>
      rw [toLower_of_not_isUpper hd]
      grind [isUpper_iff]
  | false =>
    rw [toLower_of_not_isUpper hc]
    cases hd : d.isUpper with
    | true =>
      rw [toNat_toLower_of_isUpper hd]
      grind [isUpper_iff]
    | false =>
      rw [toLower_of_not_isUpper hd]
      simp

/-! ## Texts -/

/-- The texts differ at most in the case of ASCII letters. -/
def Alike (text other : String) : Prop :=
  List.Forall₂ SameLetter text.toList other.toList

/-- `lowered` is the text with small letters for its ASCII capitals and all else unchanged. -/
def Lowered (text lowered : String) : Prop :=
  List.Forall₂ Lowers text.toList lowered.toList

theorem toList_lower (text : String) : (lower text).toList = text.toList.map Char.toLower :=
  String.toList_ofList

theorem lower_eq_lower_iff {text other : String} : lower text = lower other ↔ Alike text other := by
  have hletters : SameLetter = fun c d => c.toLower = d.toLower := by
    funext c d
    exact propext sameLetter_iff
  rw [← String.toList_inj, toList_lower, toList_lower, ← List.forall₂_eq_eq_eq,
    List.forall₂_map_left_iff, List.forall₂_map_right_iff, Alike, hletters]

theorem lowered_lower (text : String) : Lowered text (lower text) := by
  rw [Lowered, toList_lower, List.forall₂_map_right_iff, List.forall₂_same]
  exact fun c _ => lowers_iff.mpr rfl

/-! ## Names -/

/-- What a language goes by: its code and its English name, in small letters. -/
def names : Language → List String
  | english => ["en", "english"]
  | portuguese => ["pt", "portuguese"]

theorem named?_eq_some_iff {lowered : String} {language : Language} :
    named? lowered = some language ↔ lowered ∈ names language := by
  unfold named?
  cases language with
  | english =>
    split
    · rename_i h
      simpa [names] using h
    · rename_i h
      split <;> simpa [names] using h
  | portuguese =>
    split
    · rename_i h
      rcases h with rfl | rfl <;> simp [names]
    · split
      · rename_i h
        simpa [names] using h
      · rename_i h
        simpa [names] using h

theorem lower_of_mem_names {language : Language} {name : String} (h : name ∈ names language) :
    lower name = name := by
  cases language <;> revert name <;> decide

theorem isLower_of_mem_names {language : Language} {name : String} (h : name ∈ names language) :
    ∀ c ∈ name.toList, c.isLower = true := by
  rw [← List.all_eq_true]
  cases language <;> revert name <;> decide

theorem parse_eq_ok_iff_lower {text : String} {language : Language} :
    parse text = .ok language ↔ lower text ∈ names language := by
  rw [← named?_eq_some_iff, parse]
  cases named? (lower text) <;> simp

theorem lower_mem_names_iff {text : String} {language : Language} :
    lower text ∈ names language ↔ ∃ name ∈ names language, Alike text name := by
  constructor
  · intro hmem
    refine ⟨lower text, hmem, ?_⟩
    rw [← lower_eq_lower_iff, lower_of_mem_names hmem]
  · rintro ⟨name, hname, halike⟩
    rw [lower_eq_lower_iff.mpr halike, lower_of_mem_names hname]
    exact hname

theorem parse_eq_error {text message : String} (h : parse text = .error message) :
    message = unsupported (lower text) := by
  unfold parse at h
  split at h
  · cases h
  · exact (Except.error.inj h).symm

/-- The characters of a name are ASCII letters: there is no blank and no look-alike among them. -/
theorem isAlpha_of_lower_mem_names {text : String} {language : Language}
    (h : lower text ∈ names language) : ∀ c ∈ text.toList, c.isAlpha = true := by
  intro c hc
  have hlowered : c.toLower ∈ (lower text).toList := by
    rw [toList_lower]
    exact List.mem_map_of_mem hc
  have hsmall := isLower_of_mem_names h c.toLower hlowered
  change (c.isUpper || c.isLower) = true
  rw [Bool.or_eq_true]
  cases hupper : c.isUpper with
  | true => exact .inl rfl
  | false =>
    rw [toLower_of_not_isUpper hupper] at hsmall
    exact .inr hsmall

/-- A language is read from what is alike to one of its names, and from nothing else. Texts that
are alike are read alike, also when they are refused. A refusal quotes the text in small letters,
in which only its ASCII capitals are replaced. -/
theorem parse_by_names (text : String) :
    (∀ language, parse text = .ok language ↔ ∃ name ∈ names language, Alike text name) ∧
    (∀ language, parse text = .ok language → ∀ c ∈ text.toList, c.isAlpha = true) ∧
    (∀ other, Alike text other → parse text = parse other) ∧
    (∀ message, parse text = .error message → ∃ lowered, Lowered text lowered ∧
      message = "unsupported language '" ++ lowered ++ "', expected 'en' or 'pt'") ∧
    (∀ language, parse (code language) = .ok language) := by
  refine ⟨?_, ?_, ?_, ?_, parse_code⟩
  · intro language
    rw [parse_eq_ok_iff_lower, lower_mem_names_iff]
  · intro language hparse
    exact isAlpha_of_lower_mem_names (parse_eq_ok_iff_lower.mp hparse)
  · intro other halike
    rw [parse, parse, lower_eq_lower_iff.mpr halike]
  · intro message hparse
    exact ⟨lower text, lowered_lower text, parse_eq_error hparse⟩

-- A name in mixed case, and one with the long s, which is an s in other rules of case.
theorem parse_by_names_longS :
    Alike "EngLISH" "english" ∧ parse "EngLISH" = .ok .english ∧
    (∀ c ∈ "EngLISH".toList, c.isAlpha = true) ∧
    (∀ language, parse "ENGLIſH" ≠ .ok language) ∧
    Alike "ENGLIſH" "engliſh" ∧ parse "ENGLIſH" = parse "engliſh" ∧
    ∃ lowered, Lowered "ENGLIſH" lowered ∧
      "unsupported language 'engliſh', expected 'en' or 'pt'" =
        "unsupported language '" ++ lowered ++ "', expected 'en' or 'pt'" := by
  obtain ⟨hread, hletters, _⟩ := parse_by_names "EngLISH"
  obtain ⟨_, hletters', halike, hquoted, _⟩ := parse_by_names "ENGLIſH"
  have hmixed : Alike "EngLISH" "english" := by
    unfold Alike
    decide
  have hlong : Alike "ENGLIſH" "engliſh" := by
    unfold Alike
    decide
  have henglish : parse "EngLISH" = .ok .english :=
    (hread .english).mpr ⟨"english", by decide, hmixed⟩
  refine ⟨hmixed, henglish, hletters .english henglish, ?_, hlong, halike _ hlong,
    hquoted _ (by decide)⟩
  intro language hparse
  exact absurd (hletters' language hparse 'ſ' (by decide)) (by decide)

end Reckoner.Language
