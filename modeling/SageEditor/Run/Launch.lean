/-
Starting the programs that files are run with.

* `Program.launch` — what starting a program with one argument leads to.

Design notes: a program gets no input, and what it writes is collected.  It works on the files of
the caller, but a change of directory stays its own, and so does a limit that it sets.
-/
import SageEditor.Shell.Run

namespace SageEditor.Program

/-- Starts a program with one argument. -/
def launch : Launcher :=
  Shell.launchBy fun started => Shell.runProgram started Shell.deepest

end SageEditor.Program
