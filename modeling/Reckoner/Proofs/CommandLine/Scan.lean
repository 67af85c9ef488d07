import Mathlib.Data.List.Basic
import Reckoner.CommandLine.Parser
import Reckoner.Proofs.Language

/-!
# Scanning options

An option can be written in several ways: a counting flag by its long name or among the letters
of a cluster, a language in five forms of one or two arguments. Whatever the form, an occurrence
stands for one or more choices. This file shows that reading the arguments of some occurrences is
making their choices one after the other.

A language that stands in an argument of its own is looked at later than the other choices. So
the two sides agree only once the reading is settled, which is how the scanning lemma states it.

* `Occurrence.arguments` writes an occurrence and `Occurrence.choices` is what it stands for.
* `Reading.Scans`: a scan that makes some choices.
* `Reading.scans_arguments`, `Reading.scans_render`: the arguments of one occurrence, and of all.
* `parse_render`: reading is making the choices.
-/

namespace Reckoner

namespace CommandLine

/-! ## Choices -/

/-- A flag that counts. -/
inductive Counter where
  | quiet
  | verbose
deriving DecidableEq

/-- The letter of a counting flag in a cluster. -/
def Counter.letter : Counter → Char
  | quiet => 'q'
  | verbose => 'v'

/-- A single thing that the arguments ask for. -/
inductive Choice where
  | raise (counter : Counter)
  | hideBanner
  | language (language : Language)
deriving DecidableEq

/-- The language that a choice asks for. -/
def Choice.language? : Choice → Option Language
  | language chosen => some chosen
  | _ => none

/-! ## Occurrences -/

/-- The forms of a language option. -/
inductive LanguageForm where
  /-- `-l X` -/
  | shortApart
  /-- `-lX` -/
  | shortJoined
  /-- `-l=X` -/
  | shortEquals
  /-- `--lang X` -/
  | longApart
  /-- `--lang=X` -/
  | longEquals

/-- A text that is read as a language. -/
structure LanguageName where
  text : String
  language : Language
  reads : Language.parse text = .ok language

/-- One occurrence of an option among the arguments. -/
inductive Occurrence where
  /-- `-q` or `-v`, or several of them behind one dash -/
  | cluster (first : Counter) (rest : List Counter)
  /-- `--quiet` or `--verbose` -/
  | long (counter : Counter)
  /-- `--no-banner` -/
  | noBanner
  | language (form : LanguageForm) (name : LanguageName)

namespace Occurrence

/-- The arguments that an occurrence is written with. -/
def arguments : Occurrence → List String
  | cluster first rest => [String.ofList ('-' :: (first :: rest).map Counter.letter)]
  | long .quiet => ["--quiet"]
  | long .verbose => ["--verbose"]
  | noBanner => ["--no-banner"]
  | language .shortApart name => ["-l", name.text]
  | language .shortJoined name => ["-l" ++ name.text]
  | language .shortEquals name => ["-l=" ++ name.text]
  | language .longApart name => ["--lang", name.text]
  | language .longEquals name => ["--lang=" ++ name.text]

/-- What an occurrence asks for. -/
def choices : Occurrence → List Choice
  | cluster first rest => (first :: rest).map .raise
  | long counter => [.raise counter]
  | noBanner => [.hideBanner]
  | language _ name => [.language name.language]

end Occurrence

/-- The arguments of several occurrences. -/
def render (occurrences : List Occurrence) : List String :=
  occurrences.flatMap Occurrence.arguments

/-! ## Names of languages -/

/-- The name of a language starts with a letter, so it is not taken for a flag, and no sign is
dropped from it. -/
theorem LanguageName.exists_first (name : LanguageName) :
    ∃ c rest, name.text.toList = c :: rest ∧ c ≠ '-' ∧ c ≠ '=' := by
  have hlower := Language.parse_eq_ok_iff_lower.mp name.reads
  have hletters := Language.isAlpha_of_lower_mem_names hlower
  cases htext : name.text.toList with
  | nil =>
    have hempty : Language.lower name.text = "" := by
      rw [Language.lower, htext]
      rfl
    have hnamed : ∀ language, "" ∉ Language.names language := by
      intro language
      cases language <;> decide
    rw [hempty] at hlower
    exact absurd hlower (hnamed name.language)
  | cons c rest =>
    have hletter : c.isAlpha = true := by
      apply hletters
      rw [htext]
      exact List.mem_cons_self
    refine ⟨c, rest, rfl, ?_, ?_⟩
    · rintro rfl
      exact absurd hletter (by decide)
    · rintro rfl
      exact absurd hletter (by decide)

namespace Reading

/-! ## Making a choice -/

/-- Makes a choice where nothing is pending. -/
def grant (r : Reading) : Choice → Except Stop Reading
  | .raise .quiet =>
    .ok (use { r with options := { r.options with quiet := increment r.options.quiet } } .quiet)
  | .raise .verbose =>
    .ok (use { r with options := { r.options with verbose := increment r.options.verbose } }
      .verbose)
  | .hideBanner =>
    if r.options.noBanner then refuse (.repeated .noBanner)
    else .ok (use { r with options := { r.options with noBanner := true } } .noBanner)
  | .language language =>
    if r.used.contains .lang then refuse (.repeated .lang)
    else .ok (use { r with options := { r.options with language } } .lang)

/-- Flags are still read, and the next argument is not taken as a value. -/
structure Open (r : Reading) : Prop where
  flags : r.wordsOnly = false
  notAwaiting : r.pending ≠ .awaiting

/-- Nothing is left to be looked at. -/
structure Settled (r : Reading) : Prop where
  flags : r.wordsOnly = false
  nothing : r.pending = .nothing

theorem Settled.isOpen {r : Reading} (h : Settled r) : Open r :=
  ⟨h.flags, by simp [h.nothing]⟩

theorem settle_of_settled {r : Reading} (h : Settled r) : r.settle = .ok r := by
  rw [settle, h.nothing]

theorem settled_use {r : Reading} (h : Settled r) (options : Options) (flag : Flag) :
    Settled (use { r with options } flag) :=
  ⟨h.flags, h.nothing⟩

theorem settled_of_setLanguage {r s : Reading} {value : String} (h : Settled r)
    (hset : r.setLanguage value = .ok s) : Settled s := by
  unfold setLanguage at hset
  split at hset
  · cases hset
  · split at hset
    · cases hset
      exact settled_use h _ _
    · cases hset

theorem settled_of_settle {r s : Reading} (h : Open r) (hsettle : r.settle = .ok s) :
    Settled s := by
  unfold settle at hsettle
  split at hsettle
  · rename_i hpending
    cases hsettle
    exact ⟨h.flags, hpending⟩
  · cases hsettle
  · refine settled_of_setLanguage ?_ hsettle
    exact ⟨h.flags, rfl⟩

theorem settled_of_grant {r s : Reading} {choice : Choice} (h : Settled r)
    (hgrant : r.grant choice = .ok s) : Settled s := by
  unfold grant at hgrant
  split at hgrant
  · cases hgrant
    exact settled_use h _ _
  · cases hgrant
    exact settled_use h _ _
  · split at hgrant
    · cases hgrant
    · cases hgrant
      exact settled_use h _ _
  · split at hgrant
    · cases hgrant
    · cases hgrant
      exact settled_use h _ _

theorem setLanguage_name (r : Reading) (name : LanguageName) :
    r.setLanguage name.text = r.grant (.language name.language) := by
  rw [setLanguage, name.reads, grant]

/-! ## Scanning -/

/-- A scan makes some choices: once settled, the reading after it is the one before it with the
choices made. -/
structure Scans (scan : Reading → Except Stop Reading) (choices : List Choice) : Prop where
  settle_eq : ∀ {r}, Open r →
    (scan r >>= settle) = (r.settle >>= fun s => choices.foldlM grant s)
  isOpen : ∀ {r s}, Open r → scan r = .ok s → Open s

theorem Scans.congr {scan other : Reading → Except Stop Reading} {choices : List Choice}
    (h : Scans other choices) (heq : ∀ r, Open r → scan r = other r) : Scans scan choices where
  settle_eq hr := by rw [heq _ hr, h.settle_eq hr]
  isOpen hr hs := h.isOpen hr (by rw [← heq _ hr, hs])

theorem scans_pure : Scans .ok [] where
  settle_eq {r} _ := (bind_pure r.settle).symm
  isOpen hr hs := by
    cases hs
    exact hr

theorem Scans.bind {first second : Reading → Except Stop Reading} {choices others : List Choice}
    (h : Scans first choices) (h' : Scans second others) :
    Scans (fun r => first r >>= second) (choices ++ others) where
  settle_eq {r} hr := by
    have hsecond : (first r >>= fun s => second s >>= settle) =
        (first r >>= fun s => s.settle >>= fun t => others.foldlM grant t) := by
      cases hs : first r with
      | error stop => rfl
      | ok s => exact h'.settle_eq (h.isOpen hr hs)
    calc (first r >>= second) >>= settle
        = first r >>= fun s => second s >>= settle := bind_assoc ..
      _ = (first r >>= settle) >>= fun t => others.foldlM grant t := by
        rw [hsecond, bind_assoc]
      _ = r.settle >>= fun s => (choices ++ others).foldlM grant s := by
        simp only [h.settle_eq hr, bind_assoc, List.foldlM_append]
  isOpen {r s} hr hs := by
    cases hfirst : first r with
    | error stop =>
      rw [hfirst] at hs
      cases hs
    | ok t =>
      rw [hfirst] at hs
      exact h'.isOpen (h.isOpen hr hfirst) hs

/-- The choice is made once the pending one is. -/
theorem scans_grant (choice : Choice) :
    Scans (fun r => r.settle >>= (grant · choice)) [choice] where
  settle_eq {r} hr := by
    cases hs : r.settle with
    | error stop => rfl
    | ok s =>
      change (s.grant choice >>= settle) = (s.grant choice >>= pure)
      cases ht : s.grant choice with
      | error stop => rfl
      | ok t => exact settle_of_settled (settled_of_grant (settled_of_settle hr hs) ht)
  isOpen {r t} hr ht := by
    cases hs : r.settle with
    | error stop =>
      rw [hs] at ht
      cases ht
    | ok s =>
      rw [hs] at ht
      exact (settled_of_grant (settled_of_settle hr hs) ht).isOpen

/-! ## Flags -/

theorem attach_name (r : Reading) (name : LanguageName) :
    r.attach name.text = r.settle >>= (grant · (.language name.language)) := by
  simp only [attach, setLanguage_name]

theorem cluster_letter (r : Reading) (counter : Counter) (rest : List Char) :
    r.cluster (counter.letter :: rest) =
      (r.settle >>= (grant · (.raise counter))) >>= (cluster · rest) := by
  cases counter <;> rfl

theorem scans_cluster (counters : List Counter) :
    Scans (cluster · (counters.map Counter.letter)) (counters.map .raise) := by
  induction counters with
  | nil => exact scans_pure.congr fun _ _ => rfl
  | cons counter rest ih =>
    exact ((scans_grant (.raise counter)).bind ih).congr fun r _ => cluster_letter r counter _

/-! ## Arguments -/

theorem argument_long {r : Reading} (h : r.wordsOnly = false) {text : String} {c : Char}
    {rest : List Char} (htext : text.toList = '-' :: '-' :: c :: rest) :
    r.argument text = r.long (splitValue (c :: rest)).1 (splitValue (c :: rest)).2 := by
  rw [argument, h, htext]
  rfl

theorem argument_cluster {r : Reading} (h : r.wordsOnly = false) {text : String} {c : Char}
    {rest : List Char} (htext : text.toList = '-' :: c :: rest) (hc : c ≠ '-') :
    r.argument text = r.cluster (c :: rest) := by
  rw [argument, h, htext]
  simp [hc]

theorem argument_name {r : Reading} (h : r.wordsOnly = false) (name : LanguageName) :
    r.argument name.text = r.word name.text := by
  obtain ⟨c, rest, htext, hdash, _⟩ := name.exists_first
  rw [argument, h, htext]
  simp [hdash]

/-- The value of a language that stands apart waits until the reading is settled. -/
theorem scans_apart {flag : String} (name : LanguageName)
    (hflag : ∀ r, Open r → r.argument flag = r.meet .lang) :
    Scans (fun r => r.argument flag >>= (argument · name.text))
      [.language name.language] := by
  have hread : ∀ r, Open r → (r.argument flag >>= (argument · name.text)) =
      (r.settle >>= fun s => .ok { s with pending := .given name.text }) := by
    intro r hr
    rw [hflag r hr, meet]
    cases hs : r.settle with
    | error stop => rfl
    | ok s =>
      have hflags := (settled_of_settle hr hs).flags
      exact argument_name (r := { s with pending := .awaiting }) hflags name
  refine Scans.congr ⟨?_, ?_⟩ hread
  · intro r hr
    cases hs : r.settle with
    | error stop => rfl
    | ok s =>
      have hsame : { s with pending := .nothing } = s := by
        rw [← (settled_of_settle hr hs).nothing]
      change setLanguage { s with pending := .nothing } name.text = s.grant _ >>= pure
      rw [hsame, setLanguage_name, bind_pure]
  · intro r t hr ht
    cases hs : r.settle with
    | error stop =>
      rw [hs] at ht
      cases ht
    | ok s =>
      rw [hs] at ht
      cases ht
      exact ⟨(settled_of_settle hr hs).flags, by simp⟩

/-- The value of a language that is attached is looked at at once. -/
theorem scans_attached {argument' : String} (name : LanguageName)
    (h : ∀ r, Open r → r.argument argument' = r.attach name.text) :
    Scans (argument · argument') [.language name.language] := by
  refine (scans_grant (.language name.language)).congr fun r hr => ?_
  rw [h r hr, attach_name]

theorem argument_shortLang {r : Reading} (h : Open r) : r.argument "-l" = r.meet .lang := by
  rw [argument_cluster h.flags rfl (by decide)]
  rfl

theorem argument_longLang {r : Reading} (h : Open r) : r.argument "--lang" = r.meet .lang := by
  rw [argument_long h.flags rfl]
  rfl

theorem argument_shortJoined {r : Reading} (h : Open r) (name : LanguageName) :
    r.argument ("-l" ++ name.text) = r.attach name.text := by
  obtain ⟨c, rest, htext, _, hequals⟩ := name.exists_first
  have hlist : ("-l" ++ name.text).toList = '-' :: 'l' :: c :: rest := by
    rw [String.toList_append, htext]
    rfl
  have hvalue : String.ofList (c :: rest) = name.text := by
    rw [← htext, String.ofList_toList]
  have hlang : Flag.ofShort? 'l' = some .lang := by
    decide
  rw [argument_cluster h.flags hlist (by decide), cluster, hlang]
  · simp only [hvalue]
  · simp
  · simp [hequals]

theorem argument_shortEquals {r : Reading} (h : Open r) (name : LanguageName) :
    r.argument ("-l=" ++ name.text) = r.attach name.text := by
  have hlist : ("-l=" ++ name.text).toList = '-' :: 'l' :: '=' :: name.text.toList := by
    rw [String.toList_append]
    rfl
  have hlang : Flag.ofShort? 'l' = some .lang := by
    decide
  rw [argument_cluster h.flags hlist (by decide), cluster, hlang]
  simp

theorem argument_longEquals {r : Reading} (h : Open r) (name : LanguageName) :
    r.argument ("--lang=" ++ name.text) = r.attach name.text := by
  have hlist : ("--lang=" ++ name.text).toList =
      '-' :: '-' :: 'l' :: 'a' :: 'n' :: 'g' :: '=' :: name.text.toList := by
    rw [String.toList_append]
    rfl
  have hsplit : splitValue ('l' :: 'a' :: 'n' :: 'g' :: '=' :: name.text.toList) =
      ("lang", some name.text) := by
    simp [splitValue]
  rw [argument_long h.flags hlist, hsplit]
  rfl

theorem scans_language (form : LanguageForm) (name : LanguageName) :
    Scans ((Occurrence.language form name).arguments.foldlM argument ·)
      [.language name.language] := by
  cases form with
  | shortApart =>
    refine (scans_apart name fun _ => argument_shortLang).congr fun r _ => ?_
    simp [Occurrence.arguments]
  | shortJoined =>
    refine (scans_attached name fun _ h => argument_shortJoined h name).congr fun r _ => ?_
    simp [Occurrence.arguments]
  | shortEquals =>
    refine (scans_attached name fun _ h => argument_shortEquals h name).congr fun r _ => ?_
    simp [Occurrence.arguments]
  | longApart =>
    refine (scans_apart name fun _ => argument_longLang).congr fun r _ => ?_
    simp [Occurrence.arguments]
  | longEquals =>
    refine (scans_attached name fun _ h => argument_longEquals h name).congr fun r _ => ?_
    simp [Occurrence.arguments]

/-- The arguments of an occurrence make its choices. -/
theorem scans_arguments (occurrence : Occurrence) :
    Scans (occurrence.arguments.foldlM argument ·) occurrence.choices := by
  cases occurrence with
  | cluster first rest =>
    refine (scans_cluster (first :: rest)).congr fun r hr => ?_
    have hfirst : first.letter ≠ '-' := by
      cases first <;> decide
    rw [Occurrence.arguments, List.foldlM_cons, List.map_cons,
      argument_cluster hr.flags String.toList_ofList hfirst]
    exact bind_pure _
  | long counter =>
    refine (scans_grant (.raise counter)).congr fun r hr => ?_
    cases counter with
    | quiet =>
      rw [Occurrence.arguments, List.foldlM_cons, argument_long hr.flags rfl]
      exact bind_pure _
    | verbose =>
      rw [Occurrence.arguments, List.foldlM_cons, argument_long hr.flags rfl]
      exact bind_pure _
  | noBanner =>
    refine (scans_grant .hideBanner).congr fun r hr => ?_
    rw [Occurrence.arguments, List.foldlM_cons, argument_long hr.flags rfl]
    exact bind_pure _
  | language form name => exact scans_language form name

/-- The arguments of all occurrences make their choices one after the other. -/
theorem scans_render (occurrences : List Occurrence) :
    Scans ((render occurrences).foldlM argument ·)
      (occurrences.flatMap Occurrence.choices) := by
  induction occurrences with
  | nil => exact scans_pure
  | cons occurrence rest ih =>
    refine ((scans_arguments occurrence).bind ih).congr fun r _ => ?_
    rw [render, List.flatMap_cons, List.foldlM_append]
    rfl

end Reading

/-- Reading the arguments of some occurrences is making their choices, from nothing. -/
theorem parse_render (occurrences : List Occurrence) :
    parse (render occurrences) =
      (occurrences.flatMap Occurrence.choices).foldlM Reading.grant .start >>=
        fun r => .ok r.options := by
  have hscan := (Reading.scans_render occurrences).settle_eq
    (r := .start) ⟨rfl, by decide⟩
  have hparse : parse (render occurrences) =
      ((render occurrences).foldlM Reading.argument .start >>= Reading.settle) >>=
        fun r => .ok r.options := (bind_assoc ..).symm
  rw [hparse, hscan]
  rfl

end CommandLine

end Reckoner
