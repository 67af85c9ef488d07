import Reckoner.Event.Basic
import Reckoner.Text.Alphanumeric
import Reckoner.Text.Blank
import Reckoner.Text.Bytes

/-!
# Directives

A directive says how much is shown of some events: those whose target starts with the directive's
target, and of them, if it is restricted, only those with a certain field. A directive can also
be restricted to spans of time; the program has none, so that such a directive speaks for no
event.

Directives are written `level`, `target` or `target=level`, with a restriction in brackets after
the target or in its place: `target[span]=level`, `[{field}]=level`. Where the level is left out
everything is shown.

The parts of a directive are looked for in its text without the blanks around it, but they are
cut out of the whole text, at the places found. Blanks in front therefore shift all parts, and
where a cut then falls within a character reading does not refuse the text, it breaks down.

* `Directive.parse` reads a directive, or tells its flaw.
* `Directive.speaksFor` tells which events it is about.
* `Directive.yieldsTo` tells which of two directives is the more specific one.
* `Directive.restriction_of_parse?`: a directive without bracket has no restriction.
-/

namespace Reckoner

/-! ## Thresholds -/

/-- The most detailed level that is shown, or nothing at all. -/
inductive Threshold where
  | off
  | upTo (level : Level)
deriving DecidableEq, Repr

namespace Threshold

/-- Whether events of a level are shown. -/
def admits : Threshold → Level → Bool
  | off, _ => false
  | upTo most, level => level.detail ≤ most.detail

/-- The names of the thresholds, in lower case. -/
def named : List (String × Threshold) :=
  [("off", off), ("error", upTo .error), ("warn", upTo .warn), ("info", upTo .info),
    ("debug", upTo .debug), ("trace", upTo .trace)]

/-- Reads a threshold by its number: `0` shows nothing and `5` everything. Leading zeros and one
plus sign are accepted. -/
def ofNumeral? (text : List Char) : Option Threshold :=
  let digits := match text with
    | '+' :: rest => rest
    | _ => text
  if digits.isEmpty || !digits.all Char.isDigit then none
  else
    match digits.dropWhile (· == '0') with
    | [] => some off
    | ['1'] => some (upTo .error)
    | ['2'] => some (upTo .warn)
    | ['3'] => some (upTo .info)
    | ['4'] => some (upTo .debug)
    | ['5'] => some (upTo .trace)
    | _ => none

/-- Reads a threshold: a number, or a name in any letter case. -/
def ofText? (text : List Char) : Option Threshold :=
  match ofNumeral? text with
  | some threshold => some threshold
  | none => named.lookup (String.ofList (text.map Char.toLower))

end Threshold

/-! ## Directives -/

/-- Which events of its targets a directive speaks for. -/
inductive Restriction where
  /-- All of them. -/
  | any
  /-- Those with a field of that name. -/
  | withField (name : String)
  /-- Those within certain spans, of which there are none. -/
  | withinSpan
deriving DecidableEq, Repr

namespace Restriction

/-- Whether an event is among those that a restriction leaves. -/
def leaves (restriction : Restriction) (event : Event) : Bool :=
  match restriction with
  | any => true
  | withField name => event.fields.any (·.name == name)
  | withinSpan => false

/-- Whether a restriction is at most as specific as another one. Of two fields the later one in
the alphabet is the more specific. -/
def yieldsTo : Restriction → Restriction → Bool
  | any, _ => true
  | withField name, withField other => name ≤ other
  | withField _, any => false
  | _, withinSpan => true
  | withinSpan, _ => false

end Restriction

/-- What is shown of the events it speaks for. The empty target speaks for all targets. -/
structure Directive where
  target : String
  restriction : Restriction
  threshold : Threshold
deriving DecidableEq, Repr

namespace Directive

/-- A directive for all events of its targets. -/
def plain (target : String) (threshold : Threshold) : Directive :=
  ⟨target, .any, threshold⟩

/-- Whether a directive speaks for an event. -/
def speaksFor (d : Directive) (event : Event) : Bool :=
  d.target.toList.isPrefixOf event.target.toList && d.restriction.leaves event

/-- Whether a directive is at most as specific as another one that speaks for the same event: a
longer target is more specific, and then a restriction. -/
def yieldsTo (d other : Directive) : Bool :=
  d.target.length < other.target.length ||
    d.target.length == other.target.length && d.restriction.yieldsTo other.restriction

/-! ## Reading -/

/-- Why a text is not read as a directive. -/
inductive Flaw where
  /-- It does not have the form of a directive. -/
  | malformed
  /-- A place where it is to be cut lies within a character. Nothing can be done about such a
  text: whoever reads it ends there. -/
  | torn
deriving DecidableEq, Repr

/-- What was found, or a flaw if nothing was. -/
def Flaw.require {α : Type} (flaw : Flaw) : Option α → Except Flaw α
  | some found => .ok found
  | none => .error flaw

theorem Flaw.exists_of_bind_ok {α β : Type} {x : Except Flaw α} {f : α → Except Flaw β} {b : β}
    (h : x >>= f = .ok b) : ∃ a, x = .ok a ∧ f a = .ok b := by
  cases x with
  | error flaw => cases h
  | ok a => exact ⟨a, rfl, h⟩

theorem Flaw.exists_of_map_ok {α β : Type} {x : Except Flaw α} {f : α → β} {b : β}
    (h : x.map f = .ok b) : ∃ a, x = .ok a ∧ f a = b := by
  cases x with
  | error flaw => cases h
  | ok a => exact ⟨a, rfl, Except.ok.inj h⟩

theorem Flaw.toOption_eq_some_iff {α : Type} {x : Except Flaw α} {a : α} :
    x.toOption = some a ↔ x = .ok a := by
  cases x <;> simp [Except.toOption]

/-- The characters that a directive may start with. -/
def opens (c : Char) : Bool :=
  c == '-' || c == ':' || c == '_' || Text.isAlphanumeric c

/-- Reads a directive that is one word. What is not a threshold is a target. -/
def ofWord (word : List Char) : Directive :=
  match Threshold.ofText? word with
  | some threshold => plain "" threshold
  | none => plain (String.ofList word) (.upTo .trace)

/-- Reads the threshold after a place: nothing stands for everything. -/
def thresholdAfter (text : List Char) (start : Nat) : Except Flaw Threshold := do
  let level ← Flaw.torn.require (Text.after? text start)
  if level.isEmpty then .ok (.upTo .trace) else Flaw.malformed.require (Threshold.ofText? level)

/-- Reads what follows the brackets, `rest`, which starts at a place of `text`. -/
def afterBrackets (text : List Char) (target : String) (restriction : Restriction) (start : Nat)
    (rest : List Char) : Except Flaw Directive :=
  match rest with
  | [] => .ok ⟨target, restriction, .upTo .trace⟩
  | '=' :: _ => (thresholdAfter text (start + 1)).map (⟨target, restriction, ·⟩)
  | _ => .error .malformed

/-- The restriction with a span and a field in braces. A field with a value is one of spans. -/
def restrictionOf (span field : List Char) : Restriction :=
  if span.isEmpty && !field.contains '=' then .withField (String.ofList field) else .withinSpan

/-- Reads what follows the opening brace, `inner`, which starts at a place of `text`. Without a
closing brace the field is not even cut out. -/
def inBraces (text : List Char) (target : String) (span : List Char) (start : Nat)
    (inner : List Char) : Except Flaw Directive := do
  let inField (c : Char) : Bool := c != '}'
  let size := Text.byteCount (inner.takeWhile inField)
  match inner.dropWhile inField with
  | [] => .error .malformed
  | _ :: rest =>
    let field ← Flaw.torn.require (Text.slice? text start size)
    match field, rest with
    | _ :: _, ']' :: rest =>
      afterBrackets text target (restrictionOf span field) (start + size + 2) rest
    | _, _ => .error .malformed

/-- Reads what follows the opening bracket, `inner`, which starts at a place of `text`. -/
def inBrackets (text : List Char) (target : String) (start : Nat) (inner : List Char) :
    Except Flaw Directive := do
  let inSpan (c : Char) : Bool := c != ']' && c != '{'
  let size := Text.byteCount (inner.takeWhile inSpan)
  match inner.dropWhile inSpan with
  | [] => .error .malformed
  | mark :: rest =>
    let span ← Flaw.torn.require (Text.slice? text start size)
    if mark = ']' then afterBrackets text target .withinSpan (start + size + 1) rest
    else inBraces text target span (start + size + 1) rest

/-- Reads a directive that starts with a target or is one word. `trimmed` is its text without
blanks. -/
def ofTarget (text trimmed : List Char) : Except Flaw Directive := do
  let inTarget (c : Char) : Bool := c != '=' && c != '['
  let size := Text.byteCount (trimmed.takeWhile inTarget)
  match trimmed.dropWhile inTarget with
  | [] => .ok (ofWord text)
  | mark :: rest =>
    let target := String.ofList (← Flaw.torn.require (Text.slice? text 0 size))
    if mark = '[' then inBrackets text target (size + 1) rest
    else (thresholdAfter text (size + 1)).map (plain target)

/-- Reads one directive. -/
def parse (text : List Char) : Except Flaw Directive :=
  match Text.trim text with
  | [] => .error .malformed
  | '[' :: inner => inBrackets text "" 1 inner
  | first :: rest => if opens first then ofTarget text (first :: rest) else .error .malformed

/-- The directive that a text is read as, if it has no flaw. -/
def parse? (text : List Char) : Option Directive :=
  (parse text).toOption

theorem parse?_eq_some_iff {text : List Char} {d : Directive} :
    parse? text = some d ↔ parse text = .ok d :=
  Flaw.toOption_eq_some_iff

/-! ## Plain directives -/

theorem restriction_ofWord (word : List Char) : (ofWord word).restriction = .any := by
  unfold ofWord
  split <;> rfl

/-- A target without bracket leads to a plain directive. -/
theorem restriction_of_ofTarget {text trimmed : List Char} {d : Directive}
    (noBracket : '[' ∉ trimmed) (h : ofTarget text trimmed = .ok d) : d.restriction = .any := by
  unfold ofTarget at h
  dsimp only at h
  split at h
  · obtain rfl : ofWord text = d := by simpa using h
    exact restriction_ofWord text
  · rename_i mark rest hdrop
    have hmark : mark ≠ '[' := by
      rintro rfl
      refine noBracket ((List.dropWhile_sublist (fun c => c != '=' && c != '[')).mem ?_)
      rw [hdrop]
      exact List.mem_cons_self
    obtain ⟨target, _, h⟩ := Flaw.exists_of_bind_ok h
    rw [if_neg hmark] at h
    obtain ⟨threshold, _, rfl⟩ := Flaw.exists_of_map_ok h
    rfl

/-- A directive without bracket is plain. -/
theorem restriction_of_parse? {text : List Char} {d : Directive} (noBracket : '[' ∉ text)
    (h : parse? text = some d) : d.restriction = .any := by
  have inner : '[' ∉ Text.trim text := fun hm => noBracket (Text.mem_of_mem_trim hm)
  rw [parse?_eq_some_iff] at h
  unfold parse at h
  split at h
  · simp at h
  · rename_i htrim
    exact absurd (htrim ▸ List.mem_cons_self) inner
  · rename_i first rest _ htrim
    split at h
    · exact restriction_of_ofTarget (htrim ▸ inner) h
    · simp at h

end Directive

end Reckoner
