/-!
Reading the arguments of a command: options by their long names, up to the name of a command
within the command. The arguments are taken one by one, and the first that is wrong, or that asks
for help or for the version, decides.
-/

namespace ScopedGrants.CommandLine

inductive Form where
  /-- Without a value, once at most. -/
  | flag
  /-- With a value, once at most. -/
  | single
  /-- With a value, any number of times. -/
  | repeated
deriving DecidableEq, Repr

structure OptionSpec where
  name : String
  form : Form := .single
  accepts : String → Bool := fun _ => true

structure Level where
  options : List OptionSpec
  commands : List String := []
  showsVersion : Bool := false

inductive Stop where
  | help
  | version
  | rejected
deriving DecidableEq, Repr

/-- The options that have been given, with their values, the latest first. -/
abbrev Given := List (String × String)

/-- A value that follows its option does not look like an option itself; a lone dash does not. -/
def looksLikeOption (argument : String) : Bool := argument.startsWith "-" && argument ≠ "-"

/-- The name of a long option, and the value after its equals sign if there is one. -/
def splitLong (argument : String) : String × Option String :=
  let body := argument.toList.drop 2
  let name := String.ofList (body.takeWhile (· ≠ '='))
  match body.dropWhile (· ≠ '=') with
  | [] => (name, none)
  | _ :: value => (name, some (String.ofList value))

namespace Level

/-- What a long option asks for that ends the reading. -/
def stop? (level : Level) (name : String) : Option Stop :=
  if name = "help" then some .help
  else if level.showsVersion ∧ name = "version" then some .version
  else none

/-- What a letter after a single dash asks for; there are no other such letters. -/
def stopOfLetter (level : Level) (letter : Option Char) : Stop :=
  if letter = some 'h' then .help
  else if level.showsVersion ∧ letter = some 'V' then .version
  else .rejected

def accept (spec : OptionSpec) (value : String) (given : Given) : Except Stop Given :=
  if spec.form ≠ .repeated ∧ given.any (·.1 = spec.name) then .error .rejected
  else if spec.accepts value then .ok ((spec.name, value) :: given)
  else .error .rejected

/-- The options at the front of some arguments, and the command that follows them with its
arguments. -/
def read (level : Level) (given : Given) :
    List String → Except Stop (Given × Option (String × List String))
  | [] => .ok (given, none)
  | argument :: rest =>
    if level.commands.contains argument then .ok (given, some (argument, rest))
    else if argument = "--" then if rest.isEmpty then .ok (given, none) else .error .rejected
    else if argument.startsWith "--" then
      let (name, attached) := splitLong argument
      match level.stop? name, level.options.find? (·.name = name), attached with
      | some stop, _, none => .error stop
      | none, some spec, none =>
        if spec.form = .flag then do level.read (← accept spec "" given) rest
        else
          match rest with
          | [] => .error .rejected
          | value :: rest =>
            if looksLikeOption value then .error .rejected
            else do level.read (← accept spec value given) rest
      | none, some spec, some value =>
        if spec.form = .flag then .error .rejected
        else do level.read (← accept spec value given) rest
      | _, _, _ => .error .rejected
    else if looksLikeOption argument then .error (level.stopOfLetter argument.toList[1]?)
    else .error .rejected

end Level
end ScopedGrants.CommandLine
