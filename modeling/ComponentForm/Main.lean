import ComponentForm.Console.Program

/-! The program on the command line. It has no sockets, so every request finds the network down. -/
namespace ComponentForm

/-- The content of a file under its name, if it can be read. -/
def readEntry (path : String) : IO Directory :=
  try
    let bytes ← IO.FS.readBinFile path
    return [(path, bytes.toList)]
  catch _ => return []

def readVariable (k : String) : IO (Entries String) := do
  match ← IO.getEnv k with
  | some v => return [(k, v)]
  | none => return []

end ComponentForm

open ComponentForm in
def main (args : List String) : IO UInt32 := do
  let values := ((CommandLine.parse args).toOption.bind CommandLine.valuesFile).toList
  let files ← (Settings.fileName :: values).mapM readEntry
  let env ← Settings.environmentNames.mapM readVariable
  let ending := Program.run (fun _ => Network.down) files.flatten (Entries.value? env.flatten) args
  (← IO.getStdout).putStr ending.out
  (← IO.getStderr).putStr ending.err
  return ending.exit.toUInt32
