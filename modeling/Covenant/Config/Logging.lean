import Covenant.Config.Filter
import Covenant.Config.Settings

/-!
# Installing the logger

A process has at most one logger. Installing one with logging switched off does nothing;
otherwise the level must parse as a filter, and only the first installation succeeds.
-/

namespace Covenant

/-- Why a logger could not be installed. -/
inductive LoggingError where
  | invalidFilter (filter reason : String)
  | alreadyInstalled

namespace LoggingError

def kind : LoggingError → String
  | .invalidFilter .. => "InvalidFilter"
  | .alreadyInstalled => "LoggingInit"

def message : LoggingError → String
  | .invalidFilter filter reason => s!"Invalid log filter '{filter}': {reason}"
  | .alreadyInstalled =>
    "Failed to initialize logging: a global default trace dispatcher has already been set"

end LoggingError

/-- Installs a logger into a process that has one already or not: the outcome, and whether
the process has one afterwards. The filter is checked before anything is installed. -/
def LogSettings.install (l : LogSettings) (installed : Bool) :
    Except LoggingError Unit × Bool :=
  if !l.enabled then (.ok (), installed)
  else
    match Config.Filter.problem l.level with
    | some reason => (.error (.invalidFilter l.level reason), installed)
    | none => if installed then (.error .alreadyInstalled, true) else (.ok (), true)

end Covenant
