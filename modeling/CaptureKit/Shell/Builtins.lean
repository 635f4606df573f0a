import CaptureKit.Shell.Builtins.Aliases
import CaptureKit.Shell.Builtins.Flow
import CaptureKit.Shell.Builtins.Folder
import CaptureKit.Shell.Builtins.Input
import CaptureKit.Shell.Builtins.Jobs
import CaptureKit.Shell.Builtins.Settings
import CaptureKit.Shell.Builtins.Signals
import CaptureKit.Tools.Condition

/-!
# The commands of the shell by name

Some commands of the shell are special: variables that are given values with them keep
these, and the shell ends if they give up.
-/

namespace CaptureKit
namespace Shell

open Storage Text Tools

/-- The commands of the shell that keep their changes if variables are given values with
them, and that end the shell if they give up. -/
def specialBuiltins : List (String × Builtin) :=
  [(":", succeed), ("break", leaveLoops .leave), ("continue", leaveLoops .again),
    ("exit", leaveShell), ("return", leaveFunction), ("shift", shift),
    ("export", markVariables "export" (·.exported) ({ · with exported := true })),
    ("readonly", markVariables "readonly" (·.fixed) ({ · with fixed := true })),
    ("unset", unset), ("set", setCommand), ("local", keepLocal), ("trap", trap),
    ("times", printTimes)]

/-- The other commands of the shell that are no tools. -/
def regularBuiltins : List (String × Builtin) :=
  [("true", succeed), ("false", failSilently), ("cd", changeFolder), ("chdir", changeFolder),
    ("pwd", printFolder), ("kill", kill), ("read", readInput), ("getopts", getOption),
    ("wait", wait), ("umask", maskRights), ("jobs", listJobs), ("fg", resumeJob),
    ("bg", resumeJob), ("alias", makeAliases), ("unalias", forgetAliases), ("ulimit", printLimit)]

/-- The tools that the shell brings itself. -/
def shellTools : List (String × Tool) :=
  [("echo", shellEcho), ("printf", shellPrintf), ("test", shellTest), ("[", shellBracket)]

end Shell
end CaptureKit
