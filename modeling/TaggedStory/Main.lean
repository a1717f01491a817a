import TaggedStory.Json.Printer
import TaggedStory.Surface.CommandLine
import TaggedStory.Surface.Conversion
/-!
The program. Files are read and written here and nowhere else; what a command does is decided by
`CommandLine`. The exit code is zero for success, one for a file that cannot be read, and two for
refused arguments or a document with a fault.
-/
set_option autoImplicit false

namespace TaggedStory.Program

def usage : String :=
  "usage: convert INPUT -o OUTPUT --to FORMAT | inspect INPUT | " ++
    "parse-text TEXT [--kind KIND] [--full]"

def stop (cause : Arguments.Stop) : IO UInt32 := do
  match cause with
  | .helpShown =>
    IO.println usage
    return 0
  | .rejected =>
    IO.eprintln usage
    return 2

/-- The text of a file, if it can be read. -/
def contentOf (path : String) : IO (Option String) := do
  try
    return some (← IO.FS.readFile path)
  catch _ => return none

def nameOf (path : String) : String :=
  String.ofList (fileName path.toList)

def rowLine (cells : List String) : String :=
  "  ".intercalate cells

/-- Prints what a command gives; a document goes into the file of that name. -/
def emit (output : String) (outcome : Attempt CommandLine.Output) : IO UInt32 := do
  match outcome with
  | .ok (.record value) =>
    IO.println value.indented
    return 0
  | .ok (.document value) =>
    IO.FS.writeFile output value.indented
    IO.println ("✓ " ++ output)
    return 0
  | .ok (.report rows lines) =>
    for row in rows do IO.println (rowLine row)
    for line in lines do IO.println line
    return 0
  | .ok .unreadable =>
    IO.println "✗ 读取失败"
    return 1
  | .ok (.failed message) =>
    IO.println message
    return 2
  | .ok (.stopped cause) => stop cause
  | .error fault =>
    IO.eprintln fault.message
    return 1

def runConvert (arguments : List String) : IO UInt32 := do
  match Arguments.conversion arguments with
  | .ok request =>
    let content ← contentOf request.input
    emit request.output (CommandLine.convert (CommandLine.documentIn content) request.target)
  | .error cause => stop cause

def runInspect (path : String) : IO UInt32 := do
  let content ← contentOf path
  emit "" (CommandLine.inspect (nameOf path) (CommandLine.documentIn content))

def run (arguments : List String) : IO UInt32 :=
  match arguments with
  | "convert" :: rest => runConvert rest
  | ["inspect", path] => runInspect path
  | "parse-text" :: rest => emit "" (CommandLine.parseText rest)
  | ["-h"] | ["--help"] => stop .helpShown
  | _ => stop .rejected

end TaggedStory.Program

def main (arguments : List String) : IO UInt32 :=
  TaggedStory.Program.run arguments
