import FlagEnum.Program

/-!
# The executable

Reads the files that a run may look at, runs the program on them and prints its
outcome. All decisions are made by `FlagEnum.Program`.
-/

namespace FlagEnum.Main

/-- What a path names on the disk of this computer. -/
def probe (path : Path) : IO Named := do
  match ← (IO.FS.readBinFile path.toString).toBaseIO with
  | .ok content => return .file content
  | .error (.inappropriateType _ code _) => return if code = 21 then .directory else .throughFile
  | .error (.invalidArgument _ _ _) => return .tooLong
  | .error _ => return .nothing

/-- The disk of this computer, as far as a run may look at it. -/
def snapshot (arguments : List String) : IO Disk := do
  let known ← (Program.consulted arguments).mapM fun path => do return (path, ← probe path)
  return fun path => (known.lookup path).getD .nothing

/-- What the environment of the process says about colours. -/
def colorHints : IO Text.ColorHints := do
  return {
    noColor := ← IO.getEnv "NO_COLOR"
    color := ← IO.getEnv "CLICOLOR"
    forceColor := ← IO.getEnv "CLICOLOR_FORCE"
    terminal := ← (← IO.getStdout).isTty }

end FlagEnum.Main

/-- Runs the program on the arguments of the process. -/
def main (arguments : List String) : IO UInt32 := do
  let disk ← FlagEnum.Main.snapshot arguments
  let color := (← FlagEnum.Main.colorHints).enabled
  let exit := (FlagEnum.Program.run disk color arguments).exit
  IO.print exit.out
  IO.eprint exit.err
  return exit.code.toUInt32
