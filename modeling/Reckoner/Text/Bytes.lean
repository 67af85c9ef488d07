/-!
# Places in a text

A place in a text is the number of bytes before it. Not every number is a place: a character of
several bytes cannot be cut.

* `slice?` is the part of a text between two places.
* `IsPlace`: a text can be cut there.
* `exists_after?`, `exists_slice?`: cuts at places succeed.
* `isPlace_of_ascii`: in a text of characters of one byte every number is a place, up to its end.
-/

namespace Reckoner.Text

/-- The number of bytes of a text. -/
def byteCount : List Char → Nat
  | [] => 0
  | c :: rest => c.utf8Size + byteCount rest

/-- Cuts a text at a place. -/
def splitBytes? : List Char → Nat → Option (List Char × List Char)
  | text, 0 => some ([], text)
  | [], _ + 1 => none
  | c :: rest, n + 1 =>
    if c.utf8Size ≤ n + 1 then
      (splitBytes? rest (n + 1 - c.utf8Size)).map fun (left, right) => (c :: left, right)
    else none

/-- The part of a text after a place. -/
def after? (text : List Char) (start : Nat) : Option (List Char) :=
  (splitBytes? text start).map Prod.snd

/-- The part of a text of `size` bytes after a place. -/
def slice? (text : List Char) (start size : Nat) : Option (List Char) := do
  let rest ← after? text start
  (splitBytes? rest size).map Prod.fst

/-- Two texts are cut apart where the first one ends. -/
theorem splitBytes?_append (left right : List Char) :
    splitBytes? (left ++ right) (byteCount left) = some (left, right) := by
  induction left with
  | nil => cases right <;> rfl
  | cons c left ih =>
    obtain ⟨n, hn⟩ : ∃ n, byteCount (c :: left) = n + 1 :=
      Nat.exists_eq_succ_of_ne_zero (by have := c.utf8Size_pos; simp only [byteCount]; omega)
    have rest : n + 1 - c.utf8Size = byteCount left := by
      rw [← hn, byteCount]
      omega
    have fits : c.utf8Size ≤ n + 1 := by
      rw [← hn, byteCount]
      omega
    rw [List.cons_append, hn, splitBytes?, if_pos fits, rest, ih]
    rfl

/-- The second of two texts is what comes after the first. -/
theorem after?_append (left right : List Char) :
    after? (left ++ right) (byteCount left) = some right := by
  simp [after?, splitBytes?_append]

/-- The middle of three texts is the part between the places where it starts and ends. -/
theorem slice?_append (left middle right : List Char) :
    slice? (left ++ (middle ++ right)) (byteCount left) (byteCount middle) = some middle := by
  simp [slice?, after?_append, splitBytes?_append]

/-! ## Places -/

/-- A number of bytes after which a text can be cut. -/
def IsPlace (text : List Char) (place : Nat) : Prop :=
  ∃ left right, text = left ++ right ∧ byteCount left = place

theorem byteCount_append (left right : List Char) :
    byteCount (left ++ right) = byteCount left + byteCount right := by
  induction left with
  | nil => simp [byteCount]
  | cons c left ih =>
    rw [List.cons_append, byteCount, ih, byteCount]
    omega

/-- A place of a text is one of every longer text that starts with it. -/
theorem IsPlace.of_isPrefix {text whole : List Char} {place : Nat} (h : IsPlace text place)
    (hstarts : text <+: whole) : IsPlace whole place := by
  obtain ⟨left, right, rfl, hplace⟩ := h
  obtain ⟨rest, rfl⟩ := hstarts
  exact ⟨left, right ++ rest, List.append_assoc left right rest, hplace⟩

theorem exists_after? {text : List Char} {start : Nat} (h : IsPlace text start) :
    ∃ rest, after? text start = some rest := by
  obtain ⟨left, right, rfl, rfl⟩ := h
  exact ⟨right, after?_append left right⟩

theorem exists_slice? {text : List Char} {start size : Nat} (hstart : IsPlace text start)
    (hend : IsPlace text (start + size)) : ∃ part, slice? text start size = some part := by
  obtain ⟨left, right, rfl, rfl⟩ := hstart
  obtain ⟨upTo, rest, hsplit, hsize⟩ := hend
  -- Both cuts are made in one text, so one of the two left sides starts the other.
  rcases List.append_eq_append_iff.mp hsplit with ⟨middle, rfl, rfl⟩ | ⟨middle, rfl, rfl⟩
  · obtain rfl : byteCount middle = size := by
      rw [byteCount_append] at hsize
      omega
    exact ⟨middle, slice?_append left middle rest⟩
  · obtain rfl : size = byteCount [] := by
      rw [byteCount_append] at hsize
      rw [byteCount]
      omega
    exact ⟨[], slice?_append _ [] _⟩

theorem byteCount_of_ascii {text : List Char} (h : ∀ c ∈ text, c.toNat < 128) :
    byteCount text = text.length := by
  induction text with
  | nil => rfl
  | cons c rest ih =>
    have hone : c.utf8Size = 1 :=
      Char.utf8Size_eq_one_iff.mpr (UInt32.le_iff_toNat_le.mpr
        (Nat.le_of_lt_succ (h c List.mem_cons_self)))
    rw [byteCount, hone, ih fun d hd => h d (List.mem_cons_of_mem c hd), List.length_cons]
    omega

theorem isPlace_of_ascii {text : List Char} (h : ∀ c ∈ text, c.toNat < 128) {place : Nat}
    (hplace : place ≤ text.length) : IsPlace text place := by
  refine ⟨text.take place, text.drop place, (List.take_append_drop place text).symm, ?_⟩
  rw [byteCount_of_ascii fun c hc => h c (List.mem_of_mem_take hc), List.length_take]
  exact Nat.min_eq_left hplace

end Reckoner.Text
