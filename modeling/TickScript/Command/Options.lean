/-
  Reading the options of a command.

  An option is written "--name value" or "--name=value".  Options are taken in from left to right, and the
  first thing that cannot be taken in ends the reading.  A call for help ends it too, so help is given
  whatever would have come after it, and is not given after a mistake.
-/

namespace TickScript.Command

/-- Why arguments do not make a command. -/
inductive Refusal where
  /-- They ask for help instead. -/
  | help
  | usage
  deriving DecidableEq

/-- An option, for reading into a record of type `α`. -/
structure OptionRule (α : Type) where
  name : String
  /-- Whether any argument can be its value, even one that begins with a hyphen. -/
  takesAnything : Bool
  /-- The record with one more value of the option, if this can be one. -/
  take : String → α → Option α

/-- Whether an argument asks for help; of a cluster of letters the first one decides. -/
def asksHelp (arg : String) : Bool := arg = "--help" || arg.startsWith "-h"

/-- Whether an argument cannot be the value of an ordinary option. -/
def isHyphened (arg : String) : Bool := arg.startsWith "-" && arg ≠ "-"

/-- The name of an option, and its value if it is attached. -/
def splitOption? (arg : String) : Option (String × Option String) :=
  match arg.toList with
  | '-' :: '-' :: cs =>
    let name := cs.takeWhile (· ≠ '=')
    let value := (cs.drop name.length).tail?.map String.ofList
    some (String.ofList name, value)
  | _ => none

/-- One more value of an option. -/
def takeValue {α : Type} (o : OptionRule α) (value : String) (a : α) : Except Refusal α :=
  match o.take value a with
  | some a => .ok a
  | none => .error .usage

/-- Takes in all arguments.  A lone "--" at the end changes nothing. -/
def readOptions {α : Type} (options : List (OptionRule α)) : List String → α → Except Refusal α
  | [], a => .ok a
  | arg :: rest, a =>
    if asksHelp arg then .error .help
    else if arg = "--" && rest.isEmpty then .ok a
    else match splitOption? arg with
      | none => .error .usage
      | some (name, attached) =>
        match options.find? (·.name = name), attached, rest with
        | none, _, _ => .error .usage
        | some o, some value, rest => do readOptions options rest (← takeValue o value a)
        | some _, none, [] => .error .usage
        | some o, none, value :: rest =>
          if isHyphened value && !o.takesAnything then .error .usage
          else do readOptions options rest (← takeValue o value a)

end TickScript.Command
