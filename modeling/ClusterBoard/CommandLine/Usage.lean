import ClusterBoard.CommandLine.Interface
import ClusterBoard.Text.Lines

/-!
# Usage and help

The one line that sums up how a level is used, and the help text of a level. Where an option's
values are explained one by one, the help asked for by its long name gives each option a paragraph;
otherwise each option takes one line.
-/

namespace ClusterBoard.CommandLine

/-- Rows of two columns, the second one flush and `gap` blanks after the longest first one. -/
def columns (gap : Nat) (rows : List (String × String)) : List String :=
  let width := (rows.map fun row => row.1.length).foldl max 0
  rows.map fun (left, right) =>
    left ++ String.ofList (List.replicate (width + gap - left.length) ' ') ++ right

namespace Level

/-- The argument in a usage line. -/
def argumentText : Level → List String
  | some .help => ["[COMMAND]..."]
  | level => level.argumentName?.toList.map fun name => s!"<{name}>"

/-- How the level is used in general (`none`), or with the options that were given: then no others
are shown. -/
def usage (level : Level) (given : Option (List Flag)) : String :=
  let words :=
    match given with
    | none =>
      (if level.flags.isEmpty then [] else ["[OPTIONS]"]) ++ level.argumentText ++
        (if level.commands.isEmpty then [] else ["[COMMAND]"])
    | some flags => flags.map Flag.spelling ++ level.argumentText
  Text.join " " ("Usage:" :: level.path :: words)

/-- The options in the order of the help text. -/
def listedFlags : Level → List Flag
  | none => [.server, .verbose, .help, .version]
  | some .jobs => [.server, .scope, .user, .verbose, .page, .html, .output, .watch, .help]
  | some .nodes => [.html, .server, .output, .verbose, .watch, .help]
  | some .tui => [.server, .scope, .verbose, .help]
  | some .job | some .node => [.server, .verbose, .help]
  | some .help => []

/-- Whether the level has a longer form of its help. -/
def hasLongHelp (level : Level) : Bool := level.flags.any fun o => !o.choices.isEmpty

end Level

namespace Flag

/-- What the option does, as the shorter or longer help of a level says it. -/
def about (o : Flag) (level : Level) (long : Bool) : String :=
  match o with
  | .server => "Base URL of the dashboard server (overrides config)"
  | .verbose => "Enable debug logging"
  | .scope => "Job collection to read (default from config)"
  | .user => "Focus this user instead of the one with the most nodes"
  | .page => "Page of the focused user's jobs to show"
  | .html => "Render an HTML document instead of a terminal table"
  | .output => "Write output to FILE instead of stdout"
  | .watch => "Watch mode: refresh every N seconds"
  | .help =>
    if !level.hasLongHelp then "Print help"
    else if long then "Print help (see a summary with '-h')"
    else "Print help (see more with '--help')"
  | .version => "Print version"

/-- The values to choose from, in brackets. -/
def choicesText (o : Flag) : String :=
  "[possible values: " ++ Text.join ", " (o.choices.map Prod.fst) ++ "]"

/-- The option's letter and its spelling, indented. -/
def heading (o : Flag) : String :=
  match o.short? with
  | some c => s!"  -{c}, {o.spelling}"
  | none => s!"      {o.spelling}"

/-- The option and what it does, for one line. -/
def summary (level : Level) (o : Flag) : String × String :=
  (o.heading, o.about level false ++ if o.choices.isEmpty then "" else " " ++ o.choicesText)

/-- The option and what it and its values do, in a paragraph. -/
def paragraph (level : Level) (o : Flag) : String :=
  let margin := "          "
  let choices :=
    if o.choices.isEmpty then []
    else
      "" :: (margin ++ "Possible values:") ::
        (columns 1 (o.choices.map fun (name, about) => (s!"{margin}- {name}:", about)))
  Text.join "\n" (o.heading :: (margin ++ o.about level true) :: choices)

end Flag

/-- The help of a level, in its longer form if it is asked for and there is one. -/
def helpText (level : Level) (long : Bool) : String :=
  let commands := columns 2 (level.commands.map fun c => ("  " ++ c.name, c.about))
  let arguments := columns 2
    (level.argumentText.map fun name => ("  " ++ name, level.argumentAbout))
  let options :=
    if long && level.hasLongHelp then
      [Text.join "\n\n" (level.listedFlags.map (Flag.paragraph level))]
    else columns 2 (level.listedFlags.map (Flag.summary level))
  let titled (title : String) (body : List String) : List String :=
    if body.isEmpty then [] else [Text.join "\n" (title :: body)]
  Text.join "\n\n" ([level.about, level.usage none] ++ titled "Commands:" commands ++
    titled "Arguments:" arguments ++ titled "Options:" options) ++ "\n"

/-- The version of the program, as it is printed. -/
def versionText : String := s!"{programName} {programVersion}\n"

end ClusterBoard.CommandLine
