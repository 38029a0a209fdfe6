/-!
# The command line of a worker

A worker takes the options `--manifest <path>`, `--log <filter>` and `--once`, each at most once. The
value of an option is the next argument, which may not itself look like an option, or follows an equals
sign. Where the command line gives no filter, the variable `RUST_LOG` does. Help and version are shown
as soon as they are asked for, and everything else is refused.
-/

namespace BatchTraversal

/-- What a command line says. -/
structure CommandLine where
  manifest : Option String := none
  once : Bool := false
  log : Option String := none
  deriving DecidableEq, Repr

/-- Why a worker does not start. -/
inductive Dismissal where
  /-- Help or the version was asked for. -/
  | informed
  /-- The command line is refused. -/
  | refused
  /-- The log filter would be torn within a character. -/
  | torn
  deriving DecidableEq, Repr

/-- The exit code of a worker that does not start. -/
def Dismissal.code : Dismissal → Nat
  | informed => 0
  | refused => 2
  | torn => 101

namespace CommandLine

/-- An argument taken for itself. -/
inductive Argument where
  /-- `--name` or `--name=value`. -/
  | long (name : String) (value : Option String)
  /-- `-letters`. -/
  | short (letters : List Char)
  /-- `--` -/
  | divider
  | plain
  deriving DecidableEq, Repr

/-- What an argument looks like. -/
def Argument.of (text : String) : Argument :=
  match text.toList with
  | ['-', '-'] => .divider
  | '-' :: '-' :: rest =>
    let name := rest.takeWhile (· != '=')
    .long (String.ofList name) <| match rest.dropWhile (· != '=') with
      | [] => none
      | _ :: value => some (String.ofList value)
  | '-' :: c :: rest => .short (c :: rest)
  | _ => .plain

/-- An option that takes a value. -/
inductive Valued where
  | manifest
  | log

def Valued.of? (name : String) : Option Valued :=
  if name = "manifest" then some .manifest else if name = "log" then some .log else none

/-- Gives an option its value. Nothing may be given twice, and a path is not empty. -/
def give (c : CommandLine) (option : Valued) (value : String) : Except Dismissal CommandLine :=
  match option with
  | .manifest =>
    if value = "" || c.manifest.isSome then .error .refused
    else .ok { c with manifest := some value }
  | .log => if c.log.isSome then .error .refused else .ok { c with log := some value }

/-- Takes an option without a value. -/
def flag (c : CommandLine) (name : String) (value : Option String) :
    Except Dismissal CommandLine :=
  if value.isSome then .error .refused
  else if name = "help" || name = "version" then .error .informed
  else if name = "once" && !c.once then .ok { c with once := true }
  else .error .refused

/-- Takes the arguments one after the other. -/
def read (c : CommandLine) : List String → Except Dismissal CommandLine
  | [] => .ok c
  | argument :: rest =>
    match Argument.of argument with
    | .plain => .error .refused
    | .divider => if rest.isEmpty then .ok c else .error .refused
    | .short letters =>
      .error (if letters.head? = some 'h' || letters.head? = some 'V' then .informed else .refused)
    | .long name value =>
      match Valued.of? name, value with
      | none, _ => (c.flag name value).bind (read · rest)
      | some option, some value => (c.give option value).bind (read · rest)
      | some option, none =>
        match rest with
        | [] => .error .refused
        | value :: rest =>
          if Argument.of value = .plain then (c.give option value).bind (read · rest)
          else .error .refused
termination_by arguments => arguments.length

/-- What some arguments say under an environment whose variable `RUST_LOG` is given. -/
def parse (logVariable : Option String) (arguments : List String) :
    Except Dismissal CommandLine :=
  (read {} arguments).map fun c => { c with log := c.log.or logVariable }

end CommandLine

end BatchTraversal
