import Stencil.Command.Run

/-!
# The program

Takes up the files below the working directory, carries out the command, and reports what it wrote
or why it failed.
-/

namespace Stencil.Main

/-- The usage in words. -/
def usageText : String :=
  "usage: stencil <command>\n\n"
    ++ "  render [-t DIR] [-c FILE] [-r FILE] [-p PATH] [--tz-offset MINUTES] NAME\n"
    ++ "  match -r FILE PATH\n"
    ++ "  url -r FILE NAME [KEY=VALUE]...\n"
    ++ "  routes -r FILE\n"

/-- What is wrong with a command line, in words. -/
def mistakeText : Command.Usage → String
  | .help | .nothing => ""
  | .version => "stencil 0.1.0\n"
  | .unknownCommand word => "unrecognized subcommand '" ++ word ++ "'\n"
  | .unknownArgument argument => "unexpected argument '" ++ argument ++ "'\n"
  | .missing => "a required argument is missing\n"
  | .noValue option => "a value is required for '--" ++ option ++ "'\n"
  | .badValue option value => "invalid value '" ++ value ++ "' for '--" ++ option ++ "'\n"
  | .repeated option => "'--" ++ option ++ "' cannot be used more than once\n"
  | .surplusValue argument => "'--" ++ argument ++ "' takes no value\n"

/-- Adds what is below the directory with the given parts. What cannot be read is left out. -/
partial def takeUp (parts : List String) (files : FileSystem) : IO FileSystem := do
  let directory := parts.foldl (· / ·) (← IO.currentDir)
  let mut files := files
  for entry in ← directory.readDir do
    let parts := parts ++ [entry.fileName]
    try
      if ← entry.path.isDir then
        files ← takeUp parts (files.makeDirectory parts)
      else
        files := files.write parts (← IO.FS.readBinFile entry.path) 0
    catch _ => pure ()
  return files

/-- The variables of the environment that count. -/
def environment : IO Environment := do
  let names := ["KEML_TEMPLATE_DIR", "KEML_DATETIME_FORMAT", "KEML_HOT_RELOAD"]
  let found ← names.filterMapM fun name => do
    return (← IO.getEnv name).map fun value => (name, value)
  return fun name => found.lookup name

/-- Carries out a command line. -/
def run (arguments : List String) : IO UInt32 := do
  match Command.Invocation.read arguments with
  | .error .help => IO.print usageText; return 0
  | .error .version => IO.print (mistakeText .version); return 0
  | .error mistake => IO.eprint (mistakeText mistake ++ usageText); return 2
  | .ok invocation =>
    match Command.run (← takeUp [] .empty) (← environment) invocation with
    | .ok text => IO.print text; return 0
    | .error failure =>
      IO.eprint ("Error: " ++ "\n  caused by: ".intercalate failure.chain ++ "\n")
      return 1

end Stencil.Main

/-- Carries out the command line. -/
def main (arguments : List String) : IO UInt32 := Stencil.Main.run arguments
