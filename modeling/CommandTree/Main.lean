import CommandTree.Launch

/-!
# The program

The command line of the shell: it reads the settings files and the environment, then
answers the standard input line by line.
-/

namespace CommandTree.Main

/-- What stands at a path where a settings file is looked for. -/
def readSettings (path : String) : IO FileContent := do
  try
    let bytes ← IO.FS.readBinFile path
    match Text.decodeBytes bytes.toList with
    | .ok s => return .text s
    | .error _ => return .unreadable
  catch
    | .noFileOrDirectory .. => return .absent
    | _ => return .unreadable

/-- The path of the global settings file, if there is a place for it. -/
def globalPath? : IO (Option String) := do
  match ← IO.getEnv "XDG_CONFIG_HOME", ← IO.getEnv "HOME" with
  | some directory, home =>
    if directory.startsWith "/" then return some (directory ++ "/chatcmd/settings.json")
    else return home.map (· ++ "/.config/chatcmd/settings.json")
  | none, home => return home.map (· ++ "/.config/chatcmd/settings.json")

/-- The path of the settings file of the project in a directory. -/
def projectPath (directory : String) : String := directory ++ "/.chatcmd/settings.json"

/-- The variables of the environment that the program asks for. -/
def variableNames : List String :=
  ["CHATCMD_PREFIX", "CHATCMD_LOG_LEVEL", "CHATCMD_LOG_JSON", "CHATCMD_PROJECT_DIR"]

/-- What the program finds outside itself when it is called with the given options. -/
def lookAround (o : Options) : IO Surroundings := do
  let values ← variableNames.mapM fun name => do return (name, ← IO.getEnv name)
  let environment (name : String) : Option String := (values.lookup name).join
  let directory := (← IO.currentDir).toString
  let globalFile ← match ← globalPath? with
    | none => pure ("", FileContent.absent)
    | some path => do pure (path, ← readSettings path)
  let around : Surroundings := ⟨environment, directory, globalFile, fun d => (d, .absent)⟩
  let path := projectPath (o.projectDirectory around)
  let content ← readSettings path
  return { around with projectFile := fun _ => (path, content) }

/-- The lines of the standard input, each answered before the next one is read. -/
partial def converse (input output : IO.FS.Stream) (shell : Shell World.host)
    (pending : ByteArray) : IO UInt32 := do
  let chunk ← input.read 4096
  let bytes := (pending ++ chunk).toList
  let complete := if chunk.isEmpty then bytes else (bytes.reverse.dropWhile (· != 10)).reverse
  let result := shell.run World.seat complete
  for line in result.output do
    output.putStrLn line
  output.flush
  if let some e := result.broken then
    IO.eprintln ("Error: " ++ e.message)
    return 1
  if chunk.isEmpty then return 0
  converse input output result.shell ⟨(bytes.drop complete.length).toArray⟩

end CommandTree.Main

open CommandTree CommandTree.Main in
/-- The program called with its arguments. -/
def main (arguments : List String) : IO UInt32 := do
  let options := match Request.ofArguments arguments with
    | .ok (.run o) => o
    | _ => .default
  match prepare arguments (← lookAround options) with
  | .error (.usage _) =>
    IO.eprintln usageLine
    return 2
  | .error (.start e) =>
    IO.eprintln ("Error: " ++ e.message)
    return 1
  | .ok (.inl text) =>
    IO.println text
    return 0
  | .ok (.inr shell) => converse (← IO.getStdin) (← IO.getStdout) shell .empty
