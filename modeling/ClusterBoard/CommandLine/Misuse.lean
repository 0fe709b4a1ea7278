import ClusterBoard.CommandLine.Usage

/-!
# Misuse of the command line

What can be wrong with the arguments, and the message for each case.
-/

namespace ClusterBoard.CommandLine

/-- Advice on an argument that means nothing where it stands. -/
inductive Tip where
  | nothing
  /-- It could be passed as the level's argument after two dashes. -/
  | asArgument
  /-- It could be a misspelled option. -/
  | option (intended : Flag)
  /-- A command has such an option. -/
  | optionOf (command : Command) (intended : Flag)
  /-- It names a command, but stands after two dashes. -/
  | commandAfterDashes
  deriving DecidableEq, Repr

/-- What is wrong with the arguments. -/
inductive Misuse where
  | unknownArgument (argument : String) (tip : Tip) (given : Option (List Flag))
  | unknownCommand (name : String) (similar : List String)
  | missingValue (option : Flag)
  | notAChoice (option : Flag) (value : String) (similar : Option String)
  | badValue (option : Flag) (value reason : String)
  | surplusValue (option : Flag) (value : String) (given : List Flag)
  | repeated (option : Flag)
  | missingArgument (given : List Flag)
  deriving DecidableEq, Repr

/-- The advice, in a paragraph of its own. -/
def Tip.text (argument : String) : Tip → String
  | .nothing => ""
  | .asArgument => s!"\n\n  tip: to pass '{argument}' as a value, use '-- {argument}'"
  | .option intended => s!"\n\n  tip: a similar argument exists: '--{intended.long}'"
  | .optionOf command intended => s!"\n\n  tip: '{command.name} --{intended.long}' exists"
  | .commandAfterDashes =>
    s!"\n\n  tip: subcommand '{argument}' exists; to use it, remove the '--' before it"

/-- The names of commands that may have been meant. -/
def similarCommandsText (names : List String) : String :=
  let quoted := Text.join ", " (names.map fun name => s!"'{name}'")
  match names with
  | [] => ""
  | [_] => s!"\n\n  tip: a similar subcommand exists: {quoted}"
  | _ => s!"\n\n  tip: some similar subcommands exist: {quoted}"

/-- The values to choose from, on a line of their own. -/
def choicesLine (o : Flag) : String := if o.choices.isEmpty then "" else "\n  " ++ o.choicesText

namespace Misuse

/-- What is wrong, in words. -/
def description : Misuse → String
  | .unknownArgument argument tip _ =>
    s!"unexpected argument '{argument}' found" ++ tip.text argument
  | .unknownCommand name similar =>
    s!"unrecognized subcommand '{name}'" ++ similarCommandsText similar
  | .missingValue o =>
    s!"a value is required for '{o.spelling}' but none was supplied" ++ choicesLine o
  | .notAChoice o value similar =>
    s!"invalid value '{value}' for '{o.spelling}'" ++ choicesLine o ++
      match similar with
      | some choice => s!"\n\n  tip: a similar value exists: '{choice}'"
      | none => ""
  | .badValue o value reason => s!"invalid value '{value}' for '{o.spelling}': {reason}"
  | .surplusValue o value _ =>
    s!"unexpected value '{value}' for '{o.spelling}' found; no more were expected"
  | .repeated o => s!"the argument '{o.spelling}' cannot be used multiple times"
  | .missingArgument _ => "the following required arguments were not provided:"

/-- The usage line that belongs to the message, if one does. -/
def usage? (level : Level) : Misuse → Option String
  | .missingValue _ | .notAChoice _ _ _ | .badValue _ _ _ => none
  | .unknownArgument _ _ given => some (level.usage given)
  | .surplusValue _ _ given | .missingArgument given => some (level.usage (some given))
  | .unknownCommand _ _ | .repeated _ => some (level.usage none)

/-- The arguments that are missing, each on a line of its own. -/
def missingLines (level : Level) : Misuse → String
  | .missingArgument _ => String.join (level.argumentText.map fun name => "\n  " ++ name)
  | _ => ""

/-- The whole message. A level without options offers no help. -/
def message (level : Level) (m : Misuse) : String :=
  "error: " ++ m.description ++ m.missingLines level ++
    ((m.usage? level).map ("\n\n" ++ ·)).getD "" ++
    (if level.flags.isEmpty then "\n" else "\n\nFor more information, try '--help'.\n")

end Misuse

end ClusterBoard.CommandLine
