/-!
# Reading a command line

A command takes words, in order, and options, anywhere. An option has a long name and perhaps a
letter; its value follows as the next argument, or behind `=`, or directly behind the letter. After
`--` everything is a word. Mistakes are found from left to right; a value is looked at when the next
argument shows that it is complete.
-/

namespace Stencil.Command

/-- Why a command line is not carried out. -/
inductive Usage where
  /-- The explanation is asked for. -/
  | help
  /-- The version is asked for. -/
  | version
  /-- There are no arguments at all. -/
  | nothing
  | unknownCommand (word : String)
  | unknownArgument (argument : String)
  | missing
  /-- An option without a value, or with an empty one where that means nothing. -/
  | noValue (option : String)
  | badValue (option value : String)
  | repeated (option : String)
  /-- A value for something that takes none. -/
  | surplusValue (argument : String)
deriving DecidableEq, Repr

/-- What the value of an option has to be. -/
inductive ValueKind where
  | path
  | text
  /-- A whole number of 32 bits, which may be negative. -/
  | offset
deriving DecidableEq, Repr

/-- An option: its long name and, if it has one, its letter. -/
structure Choice where
  long : String
  letter : Option Char
  kind : ValueKind
deriving DecidableEq, Repr

/-- What a command takes: options, some of which have to be there, and words: so many, or more. -/
structure Grammar where
  choices : List Choice
  required : List String
  words : Nat
  more : Bool

/-- Whether there are digits only, with one dot behind the first of them or an exponent at the end.
-/
def isNumber (cs : List Char) : Bool :=
  let isExponentMark (c : Char) : Bool := c == 'e' || c == 'E'
  let mantissa := cs.takeWhile (!isExponentMark ·)
  let isMantissa :=
    match mantissa.dropWhile Char.isDigit with
    | [] => true
    | '.' :: ds => mantissa.head? != some '.' && ds.all Char.isDigit
    | _ => false
  match cs.dropWhile (!isExponentMark ·) with
  | [] => isMantissa
  | _ :: ds => isMantissa && !mantissa.isEmpty && !ds.isEmpty && ds.all Char.isDigit

/-- The whole number that a text is: digits, perhaps with a sign. -/
def wholeNumber? (text : String) : Option Int :=
  let number (cs : List Char) : Option Nat :=
    if !cs.isEmpty && cs.all Char.isDigit then
      some (cs.foldl (fun n d => 10 * n + (d.toNat - '0'.toNat)) 0)
    else none
  match text.toList with
  | '-' :: cs => (number cs).map fun n => -(n : Int)
  | '+' :: cs => (number cs).map fun n => (n : Int)
  | cs => (number cs).map fun n => (n : Int)

/-- The offset that a text is. -/
def offset? (text : String) : Option Int :=
  (wholeNumber? text).filter fun n => -2147483648 ≤ n && n ≤ 2147483647

/-- Checks the value of an option. -/
def Choice.check (choice : Choice) (value : String) : Except Usage Unit :=
  match choice.kind with
  | .path => if value = "" then .error (.noValue choice.long) else .ok ()
  | .text => .ok ()
  | .offset =>
    if (offset? value).isSome then .ok () else .error (.badValue choice.long value)

/-- What was read of a command line: the latest option, whose value may be missing still, the
options before it, the words, and whether everything that follows is a word. -/
structure Given where
  latest : Option (Choice × Option String)
  options : List (String × String)
  words : List String
  verbatim : Bool

namespace Given

/-- Before the first argument. -/
def empty : Given := ⟨none, [], [], false⟩

/-- The value of an option. -/
def option? (g : Given) (name : String) : Option String := g.options.lookup name

/-- Completes the latest option. -/
def settle (g : Given) : Except Usage Given :=
  match g.latest with
  | none => .ok g
  | some (choice, none) => .error (.noValue choice.long)
  | some (choice, some value) =>
    if (g.option? choice.long).isSome then .error (.repeated choice.long)
    else do
      choice.check value
      return { g with latest := none, options := g.options ++ [(choice.long, value)] }

/-- The option that waits for its value. -/
def waiting? (g : Given) : Option Choice :=
  match g.latest with
  | some (choice, none) => some choice
  | _ => none

/-- Meets an option, with its value if that is attached. -/
def meet (choice : Choice) (attached : Option String) (g : Given) : Except Usage Given := do
  let g := { ← g.settle with latest := some (choice, attached) }
  if attached.isSome then g.settle else return g

/-- Meets a request for the explanation. -/
def meetHelp (g : Given) : Except Usage Given := do
  let _ ← g.settle
  throw .help

/-- Meets a word. -/
def meetWord (grammar : Grammar) (word : String) (g : Given) : Except Usage Given := do
  if g.words.length < grammar.words ∨ grammar.more then
    let g ← g.settle
    return { g with words := g.words ++ [word] }
  else throw (.unknownArgument word)

/-- Meets an argument with two dashes in front, without these. -/
def meetLong (grammar : Grammar) (cs : List Char) (g : Given) : Except Usage Given :=
  let name := String.ofList (cs.takeWhile (· ≠ '='))
  let attached :=
    match cs.dropWhile (· ≠ '=') with
    | _ :: value => some (String.ofList value)
    | [] => none
  match grammar.choices.find? (·.long = name) with
  | some choice => g.meet choice attached
  | none =>
    if name ≠ "help" then .error (.unknownArgument name)
    else if attached.isSome then .error (.surplusValue name)
    else g.meetHelp

/-- Meets a letter with one dash in front, and what is behind it. -/
def meetLetter (grammar : Grammar) (letter : Char) (rest : List Char) (g : Given) :
    Except Usage Given :=
  match grammar.choices.find? (·.letter = some letter) with
  | some choice =>
    g.meet choice
      (match rest with
      | [] => none
      | '=' :: value => some (String.ofList value)
      | value => some (String.ofList value))
  | none =>
    if letter = 'h' then g.meetHelp else .error (.unknownArgument (String.singleton letter))

/-- Meets an argument that is neither marked as an option nor behind `--`. -/
def meetPlain (grammar : Grammar) (argument : String) (g : Given) : Except Usage Given :=
  match g.waiting? with
  | some choice => .ok { g with latest := some (choice, some argument) }
  | none => g.meetWord grammar argument

/-- Meets the next argument. A negative number may be the value of an offset. -/
def next (grammar : Grammar) (g : Given) (argument : String) : Except Usage Given :=
  if g.verbatim then g.meetWord grammar argument
  else
    match argument.toList with
    | ['-', '-'] => .ok { g with verbatim := true }
    | '-' :: '-' :: cs => g.meetLong grammar cs
    | '-' :: letter :: rest =>
      if g.waiting?.any (·.kind = .offset) && isNumber (letter :: rest) then
        g.meetPlain grammar argument
      else g.meetLetter grammar letter rest
    | _ => g.meetPlain grammar argument

end Given

/-- Reads the arguments of a command. -/
def Grammar.read (grammar : Grammar) (arguments : List String) : Except Usage Given := do
  let g ← (← arguments.foldlM (Given.next grammar) .empty).settle
  let lacks := grammar.required.any fun name => (g.option? name).isNone
  if g.words.length < grammar.words ∨ lacks then throw .missing
  return g

end Stencil.Command
