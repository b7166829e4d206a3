import SlotAllocation.Cli.Program

/-! Command line: runs the assignment runner on the process's arguments and files. -/

namespace SlotAllocation.Cli

/-- Reads a file, giving the system's reason when it cannot. -/
def readFileText (path : String) : IO (Except String String) := do
  try
    return .ok (← IO.FS.readFile path)
  catch e =>
    match e with
    | .noFileOrDirectory .. => return .error ("open " ++ path ++ ": no such file or directory")
    | _ => return .error ("open " ++ path ++ ": " ++ toString e)

end SlotAllocation.Cli

/-- Runs one command line, printing both streams and exiting with its code. -/
def main (args : List String) : IO UInt32 := do
  let out ← SlotAllocation.Cli.execute SlotAllocation.Cli.readFileText args
  IO.print out.stdout
  IO.eprint out.stderr
  return out.exitCode.toUInt32
