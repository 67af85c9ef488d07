/-!
# Leaving out

A list arises from another one by leaving out some of the elements that satisfy a predicate. All
others stay, in their order.

* `Without.append` and `Without.flatMap`: leaving out goes on part by part.
* `without_map_filter`: a list that is filtered has lost what does not pass.
-/

namespace Reckoner

variable {α β : Type} {p : α → Prop}

/-- `kept` arises from a list by leaving out some elements that satisfy `p`. -/
inductive Without (p : α → Prop) : List α → List α → Prop
  | nil : Without p [] []
  | keep (a : α) {all kept : List α} : Without p all kept → Without p (a :: all) (a :: kept)
  | drop {a : α} {all kept : List α} : p a → Without p all kept → Without p (a :: all) kept

theorem Without.refl (all : List α) : Without p all all := by
  induction all with
  | nil => exact .nil
  | cons a all ih => exact .keep a ih

theorem Without.append {all kept all' kept' : List α} (h : Without p all kept)
    (h' : Without p all' kept') : Without p (all ++ all') (kept ++ kept') := by
  induction h with
  | nil => exact h'
  | keep a _ ih => exact .keep a ih
  | drop ha _ ih => exact .drop ha ih

theorem Without.flatMap {f g : β → List α} {parts : List β}
    (h : ∀ part ∈ parts, Without p (f part) (g part)) :
    Without p (parts.flatMap f) (parts.flatMap g) := by
  induction parts with
  | nil => exact .nil
  | cons part parts ih =>
    rw [List.flatMap_cons, List.flatMap_cons]
    have hpart := h part List.mem_cons_self
    exact hpart.append (ih fun other hother => h other (List.mem_cons_of_mem part hother))

theorem without_map_filter {f : β → α} {q : β → Bool} {parts : List β}
    (h : ∀ b ∈ parts, q b = false → p (f b)) :
    Without p (parts.map f) ((parts.filter q).map f) := by
  induction parts with
  | nil => exact .nil
  | cons b parts ih =>
    have hrest := ih fun c hc => h c (List.mem_cons_of_mem b hc)
    by_cases hb : q b = true
    · rw [List.filter_cons_of_pos hb]
      exact .keep (f b) hrest
    · rw [List.filter_cons_of_neg hb]
      exact .drop (h b List.mem_cons_self (by simpa using hb)) hrest

end Reckoner
