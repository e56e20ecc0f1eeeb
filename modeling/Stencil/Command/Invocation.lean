import Stencil.Command.Usage

/-!
# Commands

What can be asked for on the command line.
-/

namespace Stencil.Command

/-- Something asked for. -/
inductive Invocation where
  /-- The page of a template. -/
  | render (name : String) (templates context routes path : Option String) (zone : Int)
  /-- The route that a path matches. -/
  | matchPath (routes path : String)
  /-- The address of a route. -/
  | url (routes name : String) (parameters : List String)
  /-- All routes. -/
  | routes (routes : String)
deriving DecidableEq, Repr

/-- The option that names the file of routes. -/
def routesChoice : Choice := ⟨"routes", some 'r', .path⟩

/-- Reads the arguments of the command that makes a page. -/
def readRender (arguments : List String) : Except Usage Invocation := do
  let g ← Grammar.read
    { choices := [⟨"templates", some 't', .path⟩, ⟨"context", some 'c', .path⟩, routesChoice,
        ⟨"path", some 'p', .text⟩, ⟨"tz-offset", none, .offset⟩]
      required := [], words := 1, more := false } arguments
  return .render (g.words.headD "") (g.option? "templates") (g.option? "context")
    (g.option? "routes") (g.option? "path") (((g.option? "tz-offset").bind offset?).getD 0)

/-- Reads the arguments of the command that matches a path. -/
def readMatch (arguments : List String) : Except Usage Invocation := do
  let g ← Grammar.read ⟨[routesChoice], ["routes"], 1, false⟩ arguments
  return .matchPath ((g.option? "routes").getD "") (g.words.headD "")

/-- Reads the arguments of the command that makes an address. -/
def readUrl (arguments : List String) : Except Usage Invocation := do
  let g ← Grammar.read ⟨[routesChoice], ["routes"], 1, true⟩ arguments
  return .url ((g.option? "routes").getD "") (g.words.headD "") g.words.tail

/-- Reads the arguments of the command that lists the routes. -/
def readRoutes (arguments : List String) : Except Usage Invocation := do
  let g ← Grammar.read ⟨[routesChoice], ["routes"], 0, false⟩ arguments
  return .routes ((g.option? "routes").getD "")

/-- The commands by name. -/
def commands : List (String × (List String → Except Usage Invocation)) :=
  [("render", readRender), ("match", readMatch), ("url", readUrl), ("routes", readRoutes)]

/-- What explains the commands. -/
def helpName : String := "help"

/-- Whether a word names a command. -/
def isCommand (word : String) : Bool := word = helpName || (commands.lookup word).isSome

/-- Reads the words after the request for an explanation: at most one command. -/
def readHelp : List String → Usage
  | [] => .help
  | word :: words =>
    if !isCommand word then .unknownCommand word
    else
      match words with
      | [] => .help
      | word :: _ => .unknownCommand word

/-- Reads an option in front of the command, without its dashes. -/
def readFront (cs : List Char) : Usage :=
  match cs with
  | '-' :: cs =>
    let name := String.ofList (cs.takeWhile (· ≠ '='))
    if name = "help" ∨ name = "version" then
      if cs.contains '=' then .surplusValue name
      else if name = "help" then .help
      else .version
    else .unknownArgument name
  | 'h' :: _ => .help
  | 'V' :: _ => .version
  | cs => .unknownArgument (String.ofList cs)

/-- Reads a command line. -/
def Invocation.read : List String → Except Usage Invocation
  | [] => .error .nothing
  | "--" :: [] => .error .nothing
  | "--" :: word :: _ =>
    .error (if isCommand word then .unknownArgument word else .unknownCommand word)
  | word :: arguments =>
    match word.toList with
    | '-' :: c :: cs => .error (readFront (c :: cs))
    | _ =>
      if word = helpName then .error (readHelp arguments)
      else
        match commands.lookup word with
        | some read => read arguments
        | none => .error (.unknownCommand word)

end Stencil.Command
