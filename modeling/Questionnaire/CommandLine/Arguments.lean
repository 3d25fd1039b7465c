import Questionnaire.CommandLine.LogFilter

/-!
# Arguments

The arguments are options for logging, a command, and the path of a template.  An
option stands before the command; its value follows an equals sign or is the next
argument.  After a lone `--` every argument stands for itself.

An option is settled only when the next option is read or the arguments end, so
an unknown argument is reported before a fault of the option in front of it, and a
fault behind the command before any fault of an option.

## Main definitions

* `Command`, `Invocation` — what is asked for.
* `Refusal` — why nothing is run.
* `Shape` — the forms of an argument.
* `Invocation.read` — the invocation of a list of arguments.
-/

namespace Questionnaire

/-- What is to be done with a template. -/
inductive Command where
  /-- Summarise what it defines. -/
  | check
  /-- List its tokens. -/
  | tokens
  /-- Dump what it defines. -/
  | dump
  deriving DecidableEq, Repr

/-- The command of a word. -/
def Command.ofWord? (word : Text) : Option Command :=
  if word = "check".toList then some .check
  else if word = "tokens".toList then some .tokens
  else if word = "dump".toList then some .dump
  else none

/-- What the arguments ask for. -/
structure Invocation where
  /-- The options for logging. -/
  log : LogOptions
  /-- What is to be done. -/
  command : Command
  /-- The path of the template. -/
  path : Text
  deriving DecidableEq, Repr

/-- Why nothing is run. -/
inductive Refusal where
  /-- The help text is asked for. -/
  | help
  /-- The version is asked for. -/
  | version
  /-- There is neither an option nor a command. -/
  | nothingGiven
  /-- There is no command. -/
  | missingCommand
  /-- There is no such command. -/
  | unknownCommand
  /-- There is no such argument. -/
  | unknownArgument
  /-- The path is missing. -/
  | missingPath
  /-- Two options exclude each other, or one is given twice. -/
  | conflict
  /-- A value is missing or empty. -/
  | badValue
  /-- A flag has a value. -/
  | needlessValue
  deriving DecidableEq, Repr

/-- The exit code of a program that refuses its arguments; asking for a text is no
mistake. -/
def Refusal.exitCode : Refusal → Nat
  | .help => 0
  | .version => 0
  | _ => 2

/-- How the program is called. -/
def Invocation.usage : Text :=
  "usage: tagtmpl [--trace | --debug | --log-level LEVEL | --log-filter FILTER] ".toList ++
    "(check | tokens | dump) PATH\n".toList

/-! ### Forms of arguments -/

/-- The forms of an argument. -/
inductive Shape where
  /-- Two hyphens alone. -/
  | separator
  /-- A name behind two hyphens, and what follows its equals sign. -/
  | long (name : Text) (value : Option Text)
  /-- A letter behind one hyphen, with or without more of them. -/
  | short (letter : Char)
  /-- Anything else, a lone hyphen included. -/
  | plain
  deriving DecidableEq, Repr

/-- The form of an argument. -/
def Shape.ofArgument : Text → Shape
  | ['-', '-'] => .separator
  | '-' :: '-' :: r =>
    match r.dropWhile (· != '=') with
    | [] => .long r none
    | _ :: value => .long (r.takeWhile (· != '=')) (some value)
  | '-' :: letter :: _ => .short letter
  | _ => .plain

/-! ### Behind the command -/

/-- The path that was read, once it is settled; it must not be empty. -/
def settlePath : Option Text → Except Refusal (Option Text)
  | some [] => .error .badValue
  | path => .ok path

/-- A further path behind the command: there is only one. -/
def addPath (path : Option Text) (arg : Text) : Except Refusal (Option Text) :=
  match path with
  | none => .ok (some arg)
  | some _ => .error .unknownArgument

/-- The help text, asked for once the path is settled. -/
def helpBehind (path : Option Text) : Refusal :=
  match settlePath path with
  | .error refusal => refusal
  | .ok _ => .help

/-- The refusal of an argument behind the command that is not a path. -/
def refuseBehind (path : Option Text) : Shape → Refusal
  | .long name value =>
    if name = "help".toList then
      if value.isSome then .needlessValue else helpBehind path
    else .unknownArgument
  | .short letter => if letter = 'h' then helpBehind path else .unknownArgument
  | _ => .unknownArgument

/-- The path among the arguments behind the command, given the one read so far;
`literal` says whether a lone `--` came before. -/
def readPath (literal : Bool) (path : Option Text) : List Text → Except Refusal Text
  | [] => do
    match ← settlePath path with
    | some path => .ok path
    | none => .error .missingPath
  | arg :: rest =>
    if literal then do
      let path ← addPath path arg
      readPath true path rest
    else match Shape.ofArgument arg with
      | .plain => do
        let path ← addPath path arg
        readPath false path rest
      | .separator => readPath true path rest
      | shape => .error (refuseBehind path shape)

/-! ### In front of the command -/

/-- An option that has a value. -/
inductive LogOption where
  /-- The level of all parts. -/
  | level
  /-- The whole filter. -/
  | whole
  deriving DecidableEq, Repr

/-- What the arguments in front of the command said so far. -/
structure Front where
  /-- The settled options. -/
  log : LogOptions
  /-- The option that is not settled yet, and its value if it has one. -/
  waiting : Option (LogOption × Option Text)
  deriving DecidableEq, Repr

namespace Front

/-- Nothing is said yet. -/
def start : Front := ⟨.silent, none⟩

/-- The options with the value of one of them, which must not have one yet. -/
def assign (log : LogOptions) (option : LogOption) (value : Text) :
    Except Refusal LogOptions :=
  match option with
  | .level => if log.level.isSome then .error .conflict else .ok { log with level := some value }
  | .whole => if log.whole.isSome then .error .conflict else .ok { log with whole := some value }

/-- The options with the waiting one settled: it must have a value. -/
def settle (f : Front) : Except Refusal LogOptions :=
  match f.waiting with
  | none => .ok f.log
  | some (_, none) => .error .badValue
  | some (option, some value) => assign f.log option value

/-- What is refused once the waiting option is settled. -/
def settledThen (f : Front) (refusal : LogOptions → Refusal) : Refusal :=
  match f.settle with
  | .error early => early
  | .ok log => refusal log

/-- The option that needs the next argument for its value. -/
def needsValue? (f : Front) : Option LogOption :=
  match f.waiting with
  | some (option, none) => some option
  | _ => none

/-- The refusal at the end of the arguments, when no command was given. -/
def ending (f : Front) : Refusal :=
  f.settledThen fun log => if log = .silent then .nothingGiven else .missingCommand

/-- A flag, which must be given only once. -/
def setFlag (given : Bool) (set : LogOptions) : Except Refusal Front :=
  if given then .error .conflict else .ok ⟨set, none⟩

/-- An option with a value behind its equals sign, or one that waits for it. -/
def addOption (option : LogOption) (value : Option Text) (f : Front) :
    Except Refusal Front := do
  let log ← f.settle
  match value with
  | none => .ok ⟨log, some (option, none)⟩
  | some value => do
    let log ← assign log option value
    .ok ⟨log, none⟩

/-- A flag, or a text that is asked for; neither has a value. -/
def addPlain (value : Option Text) (f : Front)
    (next : LogOptions → Except Refusal Front) : Except Refusal Front :=
  if value.isSome then .error .needlessValue
  else do
    let log ← f.settle
    next log

/-- What is said after one more name behind two hyphens. -/
def addLong (name : Text) (value : Option Text) (f : Front) : Except Refusal Front :=
  if name = "trace".toList then
    f.addPlain value fun log => setFlag log.trace { log with trace := true }
  else if name = "debug".toList then
    f.addPlain value fun log => setFlag log.debug { log with debug := true }
  else if name = "log-level".toList then f.addOption .level value
  else if name = "log-filter".toList then f.addOption .whole value
  else if name = "help".toList then f.addPlain value fun _ => .error .help
  else if name = "version".toList then f.addPlain value fun _ => .error .version
  else .error .unknownArgument

/-- The refusal of a letter behind one hyphen: two letters ask for a text. -/
def refuseShort (letter : Char) (f : Front) : Refusal :=
  if letter = 'h' then f.settledThen fun _ => .help
  else if letter = 'V' then f.settledThen fun _ => .version
  else .unknownArgument

end Front

/-- A flag excludes the other flag and both options. -/
def LogOptions.conflicting (o : LogOptions) : Bool :=
  let named := o.level.isSome || o.whole.isSome
  (o.trace && (o.debug || named)) || (o.debug && named)

/-- The word that asks for the help text in place of a command. -/
def helpWord : Text := "help".toList

/-- The refusal of the help word with the words behind it: at most one, and that
one a command or the help word itself. -/
def refuseHelp : List Text → Refusal
  | [] => .help
  | [word] =>
    if (Command.ofWord? word).isSome || word = helpWord then .help else .unknownCommand
  | _ => .unknownCommand

/-- The refusal of the arguments behind a lone `--` in front of the command, where
no command may stand. -/
def refuseLiteral (f : Front) : List Text → Refusal
  | [] => f.ending
  | word :: _ =>
    if (Command.ofWord? word).isSome || word = helpWord then .unknownArgument
    else .unknownCommand

/-- The invocation of a command and the arguments behind it. -/
def Invocation.ofCommand (f : Front) (command : Command) (rest : List Text) :
    Except Refusal Invocation := do
  let path ← readPath false none rest
  let log ← f.settle
  if log.conflicting then .error .conflict else .ok ⟨log, command, path⟩

/-- The invocation of a list of arguments, given what was said before them. -/
def Invocation.readFrom (f : Front) : List Text → Except Refusal Invocation
  | [] => .error f.ending
  | arg :: rest =>
    match Shape.ofArgument arg with
    | .separator => .error (refuseLiteral f rest)
    | .long name value => do
      let f ← f.addLong name value
      readFrom f rest
    | .short letter => .error (f.refuseShort letter)
    | .plain =>
      match f.needsValue? with
      | some option => readFrom { f with waiting := some (option, some arg) } rest
      | none =>
        match Command.ofWord? arg with
        | some command => Invocation.ofCommand f command rest
        | none => .error (if arg = helpWord then refuseHelp rest else .unknownCommand)

/-- The invocation of a list of arguments. -/
def Invocation.read (args : List Text) : Except Refusal Invocation :=
  readFrom .start args

end Questionnaire
