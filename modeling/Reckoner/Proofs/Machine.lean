import Reckoner.Proofs.Omission

/-!
# Runs of a machine

Calculators and banks of calculators are machines: they take one input after the other, and
each input has an output and leads to the next state. This file has what is common to their
runs.

* `run_append`: a run of two lists of inputs is a run of the second from where the first ends.
* `take_exchanges`: the first exchanges of a run are the exchanges of its first inputs.
* `getElem?_exchanges`: an exchange pairs an input with its output in the state before it.
* `exchanges_of_invisible`: exchanges that leave the state as it is can be left out.
-/

namespace Reckoner.Machine

variable {σ ι ω : Type} (step : σ → ι → ω × σ)

/-- Takes inputs one after the other: their outputs and the last state. -/
def run (s : σ) : List ι → List ω × σ
  | [] => ([], s)
  | i :: rest => ((step s i).1 :: (run (step s i).2 rest).1, (run (step s i).2 rest).2)

/-- The state after a list of inputs. -/
def after (s : σ) (inputs : List ι) : σ := (run step s inputs).2

/-- The inputs of a run, each with its output. -/
def exchanges (s : σ) (inputs : List ι) : List (ι × ω) := inputs.zip (run step s inputs).1

/-! ## One input -/

@[simp] theorem after_nil (s : σ) : after step s [] = s := rfl

@[simp] theorem after_cons (s : σ) (i : ι) (rest : List ι) :
    after step s (i :: rest) = after step (step s i).2 rest := rfl

@[simp] theorem exchanges_nil (s : σ) : exchanges step s [] = [] := rfl

@[simp] theorem exchanges_cons (s : σ) (i : ι) (rest : List ι) :
    exchanges step s (i :: rest) = (i, (step s i).1) :: exchanges step (step s i).2 rest := rfl

/-! ## Two lists of inputs -/

theorem run_append (s : σ) (xs ys : List ι) :
    run step s (xs ++ ys) =
      ((run step s xs).1 ++ (run step (after step s xs) ys).1,
        after step (after step s xs) ys) := by
  induction xs generalizing s with
  | nil => rfl
  | cons x xs ih =>
    simp only [List.cons_append, run, ih, after_cons]

theorem after_append (s : σ) (xs ys : List ι) :
    after step s (xs ++ ys) = after step (after step s xs) ys := by
  rw [after, run_append]

theorem exchanges_append (s : σ) (xs ys : List ι) :
    exchanges step s (xs ++ ys) = exchanges step s xs ++ exchanges step (after step s xs) ys := by
  induction xs generalizing s with
  | nil => rfl
  | cons x xs ih => simp only [List.cons_append, exchanges_cons, after_cons, ih]

theorem map_fst_exchanges (s : σ) (inputs : List ι) :
    (exchanges step s inputs).map Prod.fst = inputs := by
  induction inputs generalizing s with
  | nil => rfl
  | cons i rest ih => rw [exchanges_cons, List.map_cons, ih]

theorem map_snd_exchanges (s : σ) (inputs : List ι) :
    (exchanges step s inputs).map Prod.snd = (run step s inputs).1 := by
  induction inputs generalizing s with
  | nil => rfl
  | cons i rest ih => rw [exchanges_cons, List.map_cons, ih, run]

/-! ## Points of a run -/

theorem take_exchanges (s : σ) (inputs : List ι) (n : Nat) :
    (exchanges step s inputs).take n = exchanges step s (inputs.take n) := by
  induction inputs generalizing s n with
  | nil => simp
  | cons i rest ih =>
    cases n with
    | zero => rfl
    | succ n => rw [exchanges_cons, List.take_succ_cons, ih, List.take_succ_cons, exchanges_cons]

theorem getElem?_exchanges {s : σ} {inputs : List ι} {n : Nat} {i : ι}
    (hi : inputs[n]? = some i) :
    (exchanges step s inputs)[n]? = some (i, (step (after step s (inputs.take n)) i).1) := by
  induction inputs generalizing s n with
  | nil => simp at hi
  | cons j rest ih =>
    cases n with
    | zero =>
      obtain rfl : j = i := by simpa using hi
      rfl
    | succ n =>
      rw [exchanges_cons, List.getElem?_cons_succ, List.take_succ_cons, after_cons]
      exact ih (by simpa using hi)

/-! ## Leaving out exchanges -/

/-- If exchanges that satisfy `p` leave every state as it is, then the run without some of them
has the other exchanges unchanged, and ends in the same state. -/
theorem exchanges_of_invisible {p : ι × ω → Prop}
    (hp : ∀ s i, p (i, (step s i).1) → (step s i).2 = s) {s : σ} {inputs : List ι}
    {kept : List (ι × ω)} (h : Without p (exchanges step s inputs) kept) :
    exchanges step s (kept.map Prod.fst) = kept ∧
      after step s (kept.map Prod.fst) = after step s inputs := by
  induction inputs generalizing s kept with
  | nil =>
    cases h
    exact ⟨rfl, rfl⟩
  | cons i rest ih =>
    rw [exchanges_cons] at h
    cases h with
    | keep _ h =>
      obtain ⟨hkept, hstate⟩ := ih h
      exact ⟨by rw [List.map_cons, exchanges_cons, hkept],
        by rw [List.map_cons, after_cons, hstate, after_cons]⟩
    | drop hi h =>
      -- the state is the same with and without the exchange that is left out
      rw [hp s i hi] at h
      obtain ⟨hkept, hstate⟩ := ih h
      exact ⟨hkept, by rw [hstate, after_cons, hp s i hi]⟩

end Reckoner.Machine
