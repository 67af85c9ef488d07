import Reckoner.Event.Filter

/-!
# Reading filters

The directives of a filter are read one after the other, and the first one with a flaw decides:
a malformed directive has the filter refused, and at a torn one reading breaks down.

The cuts of a directive are found in its text without blanks and made in the whole text. A cut can
fall within a character only if blanks in front shift it there and a character of several bytes
lies in its way.

* `Directive.intact_parse`: reading goes through if the places of the trimmed text are places of
  the whole text.
* `Directive.exists_of_torn`: what the text of a torn directive is like.
* `Filter.parse_eq_error_iff`, `Filter.exists_parse_iff`: which directive decides about a filter.
-/

namespace Reckoner

open Text

/-! ## Parts of a text -/

namespace Text

/-- The rest of a text that starts at a place. -/
def StartsAt (text rest : List Char) (start : Nat) : Prop :=
  ∃ front, text = front ++ rest ∧ byteCount front = start

namespace StartsAt

variable {text rest part : List Char} {start : Nat}

theorem isPlace (h : StartsAt text rest start) : IsPlace text start := by
  obtain ⟨front, htext, hstart⟩ := h
  exact ⟨front, rest, htext, hstart⟩

theorem skip (h : StartsAt text (part ++ rest) start) :
    StartsAt text rest (start + byteCount part) := by
  obtain ⟨front, rfl, rfl⟩ := h
  exact ⟨front ++ part, (List.append_assoc front part rest).symm, byteCount_append front part⟩

theorem skipWhile {p : Char → Bool} {inner : List Char} (h : StartsAt text inner start)
    (hdrop : inner.dropWhile p = rest) :
    StartsAt text rest (start + byteCount (inner.takeWhile p)) := by
  rw [← inner.takeWhile_append_dropWhile (p := p), hdrop] at h
  exact h.skip

theorem next {mark : Char} (h : StartsAt text (mark :: rest) start) (hmark : mark.utf8Size = 1) :
    StartsAt text rest (start + 1) := by
  have hone : byteCount [mark] = 1 := by
    rw [byteCount, byteCount, hmark]
  rw [← hone]
  exact skip h

end StartsAt

theorem eq_false_of_dropWhile {p : Char → Bool} {inner rest : List Char} {mark : Char}
    (h : inner.dropWhile p = mark :: rest) : p mark = false := by
  have hhead := inner.head?_dropWhile_not p
  rw [h] at hhead
  exact hhead

end Text

/-! ## Directives that can be cut -/

namespace Directive

/-- Reading does not break down. -/
def Intact {α : Type} (outcome : Except Flaw α) : Prop :=
  outcome ≠ .error .torn

namespace Intact

variable {α β : Type}

theorem ok (a : α) : Intact (.ok a) :=
  nofun

theorem malformed : Intact (.error .malformed : Except Flaw α) :=
  nofun

theorem bind {x : Except Flaw α} {f : α → Except Flaw β} (hx : Intact x)
    (hf : ∀ a, Intact (f a)) : Intact (x >>= f) := by
  cases x with
  | error flaw => exact fun h => hx (congrArg Except.error (Except.error.inj h))
  | ok a => exact hf a

theorem map {x : Except Flaw α} (hx : Intact x) (f : α → β) : Intact (x.map f) := by
  cases x with
  | error flaw => exact fun h => hx (congrArg Except.error (Except.error.inj h))
  | ok a => exact .ok (f a)

theorem require_malformed (found : Option α) : Intact (Flaw.malformed.require found) := by
  cases found with
  | none => exact malformed
  | some a => exact .ok a

theorem require_torn {found : Option α} (h : ∃ a, found = some a) :
    Intact (Flaw.torn.require found) := by
  obtain ⟨a, rfl⟩ := h
  exact .ok a

end Intact

section

-- The parts of `trimmed` are cut out of `text`.
variable {text trimmed : List Char} (hplaces : ∀ place, IsPlace trimmed place → IsPlace text place)
include hplaces

theorem intact_thresholdAfter {rest : List Char} {start : Nat} (h : StartsAt trimmed rest start) :
    Intact (thresholdAfter text start) := by
  refine (Intact.require_torn (exists_after? (hplaces _ h.isPlace))).bind fun level => ?_
  split
  · exact .ok _
  · exact .require_malformed _

theorem intact_afterBrackets {rest : List Char} {start : Nat} (h : StartsAt trimmed rest start)
    (target : String) (restriction : Restriction) :
    Intact (afterBrackets text target restriction start rest) := by
  unfold afterBrackets
  split
  · exact .ok _
  · exact (intact_thresholdAfter hplaces (h.next (by decide))).map _
  · exact .malformed

theorem intact_inBraces {inner : List Char} {start : Nat} (h : StartsAt trimmed inner start)
    (target : String) (span : List Char) : Intact (inBraces text target span start inner) := by
  unfold inBraces
  dsimp only
  split
  · exact .malformed
  · rename_i mark rest hdrop
    have hend := h.skipWhile hdrop
    have hmark : mark = '}' := by
      simpa using eq_false_of_dropWhile hdrop
    have hfield := exists_slice? (hplaces _ h.isPlace) (hplaces _ hend.isPlace)
    refine (Intact.require_torn hfield).bind fun field => ?_
    split
    · have hrest := (hend.next (by rw [hmark]; decide)).next (by decide)
      exact intact_afterBrackets hplaces hrest target _
    · exact .malformed

theorem intact_inBrackets {inner : List Char} {start : Nat} (h : StartsAt trimmed inner start)
    (target : String) : Intact (inBrackets text target start inner) := by
  unfold inBrackets
  dsimp only
  split
  · exact .malformed
  · rename_i mark rest hdrop
    have hend := h.skipWhile hdrop
    have hmark : mark = ']' ∨ mark = '{' := by
      have := eq_false_of_dropWhile hdrop
      grind
    have hrest := hend.next (by rcases hmark with rfl | rfl <;> decide)
    have hspan := exists_slice? (hplaces _ h.isPlace) (hplaces _ hend.isPlace)
    refine (Intact.require_torn hspan).bind fun span => ?_
    split
    · exact intact_afterBrackets hplaces hrest target _
    · exact intact_inBraces hplaces hrest target span

theorem intact_ofTarget : Intact (ofTarget text trimmed) := by
  have h : StartsAt trimmed trimmed 0 := ⟨[], rfl, rfl⟩
  unfold ofTarget
  dsimp only
  split
  · exact .ok _
  · rename_i mark rest hdrop
    have hend := h.skipWhile hdrop
    have hmark : mark = '=' ∨ mark = '[' := by
      have := eq_false_of_dropWhile hdrop
      grind
    have hrest := hend.next (by rcases hmark with rfl | rfl <;> decide)
    have htarget := exists_slice? (hplaces _ h.isPlace) (hplaces _ hend.isPlace)
    rw [Nat.zero_add] at hrest
    refine (Intact.require_torn htarget).bind fun target => ?_
    split
    · exact intact_inBrackets hplaces hrest _
    · exact (intact_thresholdAfter hplaces hrest).map _

end

theorem intact_parse {text : List Char}
    (hplaces : ∀ place, IsPlace (trim text) place → IsPlace text place) :
    Intact (parse text) := by
  unfold parse
  split
  · exact .malformed
  · rename_i inner htrim
    exact intact_inBrackets hplaces ⟨['['], htrim, rfl⟩ ""
  · rename_i first rest _ htrim
    split
    · rw [← htrim]
      exact intact_ofTarget hplaces
    · exact .malformed

/-- Without a blank in front nothing is shifted. -/
theorem intact_of_head {text : List Char} (h : ∀ c ∈ text.head?, isBlank c = false) :
    Intact (parse text) :=
  intact_parse fun _ hplace => hplace.of_isPrefix (trim_isPrefix h)

/-- No cut can fall within a character of one byte. -/
theorem intact_of_ascii {text : List Char} (h : ∀ c ∈ text, c.toNat < 128) :
    Intact (parse text) := by
  apply intact_parse
  rintro _ ⟨left, right, htrim, rfl⟩
  have hsub : left.Sublist text := by
    refine List.Sublist.trans ?_ (trim_sublist text)
    rw [htrim]
    exact List.sublist_append_left left right
  rw [byteCount_of_ascii fun c hc => h c (hsub.mem hc)]
  exact isPlace_of_ascii h hsub.length_le

/-- A torn directive has a blank in front and a character of several bytes. -/
theorem exists_of_torn {text : List Char} (h : parse text = .error .torn) :
    (∃ c ∈ text.head?, isBlank c = true) ∧ ∃ c ∈ text, 128 ≤ c.toNat := by
  constructor
  · cases text with
    | nil => exact absurd h (intact_of_head nofun)
    | cons c rest =>
      cases hc : isBlank c with
      | true => exact ⟨c, rfl, hc⟩
      | false => exact absurd h (intact_of_head fun d hd => Option.some_inj.mp hd ▸ hc)
  · by_cases hascii : ∀ c ∈ text, c.toNat < 128
    · exact absurd h (intact_of_ascii hascii)
    · simpa using hascii

end Directive

/-! ## The directive that decides -/

namespace Filter

open Directive (Flaw)

theorem mapM_cons_of_error {part : List Char} {flaw : Flaw}
    (h : Directive.parse part = .error flaw) (parts : List (List Char)) :
    (part :: parts).mapM Directive.parse = .error flaw := by
  rw [List.mapM_cons, h]
  rfl

theorem mapM_cons_eq_error_iff {part : List Char} {d : Directive} {flaw : Flaw}
    (h : Directive.parse part = .ok d) (parts : List (List Char)) :
    (part :: parts).mapM Directive.parse = .error flaw ↔
      parts.mapM Directive.parse = .error flaw := by
  rw [List.mapM_cons, h]
  cases parts.mapM Directive.parse with
  | error other => exact Iff.rfl
  | ok filter => exact ⟨nofun, nofun⟩

/-- The first directive that is not read decides. -/
theorem mapM_eq_error_iff {parts : List (List Char)} {flaw : Flaw} :
    parts.mapM Directive.parse = .error flaw ↔
      ∃ before part after, parts = before ++ part :: after ∧
        (∀ other ∈ before, ∃ d, Directive.parse other = .ok d) ∧
        Directive.parse part = .error flaw := by
  induction parts with
  | nil =>
    refine ⟨nofun, ?_⟩
    rintro ⟨before, part, after, hparts, _⟩
    simp at hparts
  | cons first rest ih =>
    cases hfirst : Directive.parse first with
    | error other =>
      rw [mapM_cons_of_error hfirst]
      constructor
      · intro h
        rw [Except.error.inj h] at hfirst
        exact ⟨[], first, rest, rfl, by simp, hfirst⟩
      · rintro ⟨before, part, after, hparts, hread, hpart⟩
        cases before with
        | nil =>
          rw [← (List.cons.inj hparts).1, hfirst] at hpart
          rw [Except.error.inj hpart]
        | cons head before =>
          obtain ⟨d, hd⟩ := hread head List.mem_cons_self
          rw [← (List.cons.inj hparts).1, hfirst] at hd
          cases hd
    | ok d =>
      rw [mapM_cons_eq_error_iff hfirst, ih]
      constructor
      · rintro ⟨before, part, after, rfl, hread, hpart⟩
        exact ⟨first :: before, part, after, rfl,
          List.forall_mem_cons.mpr ⟨⟨d, hfirst⟩, hread⟩, hpart⟩
      · rintro ⟨before, part, after, hparts, hread, hpart⟩
        cases before with
        | nil =>
          rw [← (List.cons.inj hparts).1, hfirst] at hpart
          cases hpart
        | cons head before =>
          exact ⟨before, part, after, (List.cons.inj hparts).2,
            (List.forall_mem_cons.mp hread).2, hpart⟩

theorem parse_eq_error_iff {text : String} {flaw : Flaw} :
    parse text = .error flaw ↔
      ∃ before part after, written text = before ++ part :: after ∧
        (∀ other ∈ before, ∃ d, Directive.parse other = .ok d) ∧
        Directive.parse part = .error flaw :=
  mapM_eq_error_iff

theorem tears_iff {text : String} : tears text = true ↔ parse text = .error .torn := by
  unfold tears
  split <;> simp_all

end Filter

end Reckoner
