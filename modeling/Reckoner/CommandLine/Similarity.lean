/-!
# Similar names

Two names are compared by the letters that they share. A letter of one name matches an equal
letter of the other that is not too far away, and each letter matches at most once. With `m`
matches, of which `t` are out of order, the similarity of names of lengths `a` and `b` is the
mean of `m / a`, `m / b` and `(m - t) / m`.

* `Similarity.exceeds` compares a similarity with 7/10 in whole numbers.
* `Similarity.best?` picks the most similar of several names.
-/

namespace Reckoner.CommandLine

/-- The similarity of two names, kept as whole numbers. -/
structure Similarity where
  /-- The length of the first name. -/
  a : Nat
  /-- The length of the second name. -/
  b : Nat
  /-- How many letters match. -/
  matched : Nat
  /-- How many matches are out of order. -/
  displaced : Nat
deriving DecidableEq, Repr

namespace Similarity

/-- The first place from `low` to `high` that is free and has the letter `c`. -/
def partner? (letters : List Char) (taken : List Nat) (low high : Nat) (c : Char) : Option Nat :=
  (List.range letters.length).find? fun i =>
    decide (low ≤ i ∧ i ≤ high ∧ i ∉ taken) && letters[i]? == some c

/-- The places of the second name that the letters of the first are matched with, in the order of
the first name, and the letters that found a partner. -/
def pair (letters : List Char) (reach : Nat) :
    List Char → Nat → List Nat → List Nat × List Char
  | [], _, taken => (taken, [])
  | c :: rest, i, taken =>
    match partner? letters taken (i - reach) (i + reach) c with
    | some j =>
      let (all, found) := pair letters reach rest (i + 1) (j :: taken)
      (all, c :: found)
    | none => pair letters reach rest (i + 1) taken

/-- Compares two names. -/
def between (first second : List Char) : Similarity :=
  let reach := max first.length second.length / 2 - 1
  let (places, found) := pair second reach first 0 []
  let inOrder := (second.zipIdx.filter fun (_, i) => places.contains i).map (·.1)
  let crossed := (found.zip inOrder).countP fun (c, d) => c != d
  ⟨first.length, second.length, found.length, crossed / 2⟩

/-- The similarity times `3 · a · b · matched`. -/
def scaled (s : Similarity) : Nat :=
  s.matched * s.matched * s.b + s.matched * s.matched * s.a + (s.matched - s.displaced) * s.a * s.b

/-- What a similarity of one is scaled to. -/
def scale (s : Similarity) : Nat :=
  3 * s.a * s.b * s.matched

/-- Whether a similarity exceeds 7/10. -/
def exceeds (s : Similarity) : Bool :=
  7 * s.scale < 10 * s.scaled

/-- Whether one similarity is greater than another. -/
def lt (s t : Similarity) : Bool :=
  s.scaled * t.scale < t.scaled * s.scale

/-- The name most similar to the given one, if it is similar enough. Of equally similar names the
last is taken. -/
def best? {α : Type} (nameOf : α → String) (candidates : List α) (name : String) : Option α :=
  let rated := candidates.map fun x => (between name.toList (nameOf x).toList, x)
  let best := (rated.filter (·.1.exceeds)).foldl
    (fun best x => match best with
      | some y => if x.1.lt y.1 then some y else some x
      | none => some x)
    none
  best.map (·.2)

end Similarity

end Reckoner.CommandLine
