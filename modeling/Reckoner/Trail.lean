/-!
# Results with a trail

A computation that reports what it does returns its result together with the entries it left
behind, oldest first. Doing one thing after another appends the trails.

* `Trail` is a lawful monad; `Trail.report` leaves one entry.
* `entries_bind` says that the trails of two consecutive computations are concatenated.
-/

namespace Reckoner

/-- A result and the entries reported on the way to it, oldest first. -/
@[ext] structure Trail (ε α : Type) where
  result : α
  entries : List ε

namespace Trail

variable {ε α β : Type}

/-- Leaves one entry. -/
def report (entry : ε) : Trail ε Unit :=
  ⟨(), [entry]⟩

instance : Monad (Trail ε) where
  pure a := ⟨a, []⟩
  bind t f := ⟨(f t.result).result, t.entries ++ (f t.result).entries⟩

/-! ## Results and entries of composed computations -/

@[simp] theorem result_pure (a : α) : (pure a : Trail ε α).result = a := rfl

@[simp] theorem entries_pure (a : α) : (pure a : Trail ε α).entries = [] := rfl

@[simp] theorem result_bind (t : Trail ε α) (f : α → Trail ε β) :
    (t >>= f).result = (f t.result).result := rfl

@[simp] theorem entries_bind (t : Trail ε α) (f : α → Trail ε β) :
    (t >>= f).entries = t.entries ++ (f t.result).entries := rfl

@[simp] theorem result_map (f : α → β) (t : Trail ε α) : (f <$> t).result = f t.result := rfl

@[simp] theorem entries_map (f : α → β) (t : Trail ε α) : (f <$> t).entries = t.entries :=
  List.append_nil _

@[simp] theorem result_report (entry : ε) : (report entry).result = () := rfl

@[simp] theorem entries_report (entry : ε) : (report entry).entries = [entry] := rfl

instance : LawfulMonad (Trail ε) :=
  LawfulMonad.mk' _
    (fun _ => Trail.ext rfl (List.append_nil _))
    (fun _ _ => Trail.ext rfl (List.nil_append _))
    (fun _ _ _ => Trail.ext rfl (List.append_assoc _ _ _))

end Trail

end Reckoner
