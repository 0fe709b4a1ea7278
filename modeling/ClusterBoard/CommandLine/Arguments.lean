import ClusterBoard.CommandLine.Interval
import ClusterBoard.CommandLine.Misuse
import ClusterBoard.Text.Similarity

/-!
# Reading the arguments

`readArguments` goes through the words of the command line from left to right. An option's value
takes effect when the next word is known not to belong to it, so of two faults the one whose word is
settled first is reported; asking for help or for the version ends the reading at once.
-/

namespace ClusterBoard.CommandLine

open Web

/-- What the options and the argument of a level say. -/
structure Choices where
  server : Option String
  verbose : Bool
  scope : Option JobScope
  user : Option String
  page : Option Nat
  html : Bool
  output : Option String
  /-- In nanoseconds. -/
  watch : Option Nat
  argument : Option String
  deriving DecidableEq, Repr

/-- Nothing said. -/
def Choices.initial : Choices := ⟨none, false, none, none, none, false, none, none, none⟩

/-- The scope of exactly this name. -/
def exactScope? (name : String) : Option JobScope :=
  [JobScope.active, .running, .all].find? (·.name == name)

/-- Why a text is no page number. Its digits are read from the left, and the first fault counts. -/
def pageFault (value : String) : String :=
  let digits :=
    match value.toList with
    | '+' :: d :: rest => d :: rest
    | cs => cs
  if digits.isEmpty then "cannot parse integer from empty string"
  else if Nat.pow 2 64 ≤ Text.digitsValue (digits.takeWhile Char.isDigit) then
    "number too large to fit in target type"
  else "invalid digit found in string"

/-- An option with its value, which is empty for an option without one, taken into account. -/
def Choices.set (choices : Choices) (o : Flag) (value : String) : Except Misuse Choices :=
  match o with
  | .server => .ok { choices with server := some value }
  | .verbose => .ok { choices with verbose := true }
  | .scope =>
    match exactScope? value with
    | some scope => .ok { choices with scope := some scope }
    | none =>
      if value = "" then .error (.missingValue o)
      else .error (.notAChoice o value (Text.similarTo value (o.choices.map Prod.fst)).getLast?)
  | .user => .ok { choices with user := some value }
  | .page =>
    match Text.unsigned64? value with
    | some page => .ok { choices with page := some page }
    | none => .error (.badValue o value (pageFault value))
  | .html => .ok { choices with html := true }
  | .output =>
    if value = "" then .error (.missingValue o) else .ok { choices with output := some value }
  | .watch =>
    match readInterval value with
    | .ok interval => .ok { choices with watch := some interval }
    | .error reason => .error (.badValue o value reason)
  | .help | .version => .ok choices

/-- How far the reading of a level has come. -/
structure Progress where
  choices : Choices
  /-- The options that took effect. -/
  given : List Flag
  /-- An option that has been named but has not taken effect yet, with its value if that has been
  read. -/
  pending : Option (Flag × Option String)
  /-- Whether two dashes have been read. -/
  afterDashes : Bool
  deriving Repr

/-- The start of a level. -/
def Progress.initial : Progress := ⟨.initial, [], none, false⟩

/-- Why the reading ends before its time. -/
inductive Stop where
  | help (level : Level) (long : Bool)
  | version
  | misuse (level : Level) (misuse : Misuse)
  deriving DecidableEq, Repr

namespace Progress

/-- Whether the next word is the value of an option. -/
def awaitsValue (p : Progress) : Bool :=
  match p.pending with
  | some (_, none) => !p.afterDashes
  | _ => false

/-- What a usage line is to show of what was given. -/
def shown (p : Progress) : Option (List Flag) := if p.given.isEmpty then none else some p.given

/-- An option marked as given. -/
def mark (p : Progress) (o : Flag) : Progress :=
  if p.given.contains o then p else { p with given := p.given ++ [o] }

/-- An option with its value takes effect. What went wrong comes with the state reached. -/
def apply (p : Progress) (o : Flag) (value : String) : Progress × Option Misuse :=
  if p.given.contains o then ({ p with given := p.given.erase o }, some (.repeated o))
  else
    let p := p.mark o
    match p.choices.set o value with
    | .ok choices => ({ p with choices }, none)
    | .error m => (p, some m)

/-- The pending option takes effect. -/
def settle (p : Progress) : Progress × Option Misuse :=
  let q := { p with pending := none }
  match p.pending with
  | none => (q, none)
  | some (o, none) => (q, some (.missingValue o))
  | some (o, some value) => q.apply o value

/-- The pending option takes effect, or the reading stops. -/
def settled (p : Progress) (level : Level) : Except Stop Progress :=
  match p.settle with
  | (p, none) => .ok p
  | (_, some m) => .error (.misuse level m)

/-- The pending option takes effect, and then another one with its value. -/
def take (p : Progress) (level : Level) (o : Flag) (value : String) : Except Stop Progress := do
  let p ← p.settled level
  match p.apply o value with
  | (p, none) => .ok p
  | (_, some m) => .error (.misuse level m)

/-- The pending option takes effect, and another one awaits its value. -/
def await (p : Progress) (level : Level) (o : Flag) : Except Stop Progress := do
  let p ← p.settled level
  .ok { p with pending := some (o, none) }

/-- An option without a value takes effect. -/
def takeBare (p : Progress) (level : Level) (o : Flag) (long : Bool) : Except Stop Progress := do
  match o with
  | .help =>
    let _ ← p.settled level
    .error (.help level long)
  | .version =>
    let _ ← p.settled level
    .error .version
  | o => p.take level o ""

end Progress

/-- The option of a level that a misspelled long name may mean. -/
def similarFlag? (level : Level) (name : String) : Option Flag := do
  let long ← (Text.similarTo name (level.flags.map Flag.long)).getLast?
  level.flags.find? (·.long == long)

/-- The command further on that has an option like a misspelled one, and that option. -/
def flagOfLaterCommand? (level : Level) (name : String) (rest : List String) :
    Option (Command × Flag) :=
  let found := level.commands.filterMap fun c => do
    let o ← similarFlag? (some c) name
    let place ← rest.findIdx? (· == c.name)
    some (place, c, o)
  let least := found.foldl (fun best next =>
    match best with
    | some b => if next.1 < b.1 then some next else some b
    | none => some next) (none : Option (Nat × Command × Flag))
  least.map Prod.snd

/-- The fault of a long option that the level does not know. -/
def unknownLong (level : Level) (p : Progress) (name : String) (rest : List String) : Stop :=
  let (p, _) := p.settle
  let argument := "--" ++ name
  match similarFlag? level name with
  | some o =>
    .misuse level (.unknownArgument argument (.option o) (p.mark o).shown)
  | none =>
    let tip :=
      match flagOfLaterCommand? level name rest with
      | some (c, o) => .optionOf c o
      | none => if level.argumentName?.isSome then .asArgument else .nothing
    .misuse level (.unknownArgument argument tip p.shown)

/-- Splits a word at its first equals sign. -/
def splitValue (word : List Char) : String × Option String :=
  let value :=
    match word.dropWhile (· != '=') with
    | _ :: value => some (String.ofList value)
    | [] => none
  (String.ofList (word.takeWhile (· != '=')), value)

/-- A long option, after its dashes. -/
def readLong (level : Level) (word : List Char) (rest : List String) (p : Progress) :
    Except Stop Progress :=
  let (name, value) := splitValue word
  match level.flags.find? (·.long == name) with
  | none => .error (unknownLong level p name rest)
  | some o =>
    match o.valueName?, value with
    | some _, some value => p.take level o value
    | some _, none => p.await level o
    | none, some value =>
      .error (.misuse level (.surplusValue o value (p.mark o).given))
    | none, none => p.takeBare level o true

/-- A run of option letters, after its dash. The first one that takes a value takes what follows
it. -/
def readShort (level : Level) : List Char → Progress → Except Stop Progress
  | [], p => .ok p
  | c :: cs, p =>
    match level.flags.find? (·.short? == some c) with
    | none =>
      let tip := if level.argumentName?.isSome then .asArgument else .nothing
      .error (.misuse level (.unknownArgument (String.ofList ['-', c]) tip none))
    | some o =>
      if o.valueName?.isSome then
        match cs with
        | [] => p.await level o
        | '=' :: value => p.take level o (String.ofList value)
        | value => p.take level o (String.ofList value)
      else do readShort level cs (← p.takeBare level o false)

/-- The fault of a word that is neither an option nor a command nor the level's argument. -/
def strayWord (level : Level) (word : String) (p : Progress) : Misuse :=
  if p.afterDashes && (level.command? word).isSome then
    .unknownArgument word .commandAfterDashes none
  else if level.commands.isEmpty then .unknownArgument word .nothing none
  else .unknownCommand word (Text.similarTo word (level.commands.flatMap Command.names))

/-- A word that is neither an option nor a command. -/
def readWord (level : Level) (word : String) (p : Progress) : Except Stop Progress :=
  if level.argumentName?.isSome && p.choices.argument.isNone then do
    let p ← p.settled level
    .ok { p with choices := { p.choices with argument := some word } }
  else .error (.misuse level (strayWord level word p))

/-- The words of a level, up to a command and the words after it. -/
def readLevel (level : Level) :
    List String → Progress → Except Stop (Progress × Option (Command × List String))
  | [], p => .ok (p, none)
  | word :: rest, p =>
    match p.afterDashes || p.awaitsValue, level.command? word with
    | false, some command => .ok (p, some (command, rest))
    | _, _ => do
      let next ←
        if p.afterDashes then readWord level word p
        else
          match word.toList with
          | ['-', '-'] => .ok { p with afterDashes := true }
          | '-' :: '-' :: long => readLong level long rest p
          | '-' :: c :: cs => readShort level (c :: cs) p
          | _ =>
            match p.pending with
            | some (o, none) => .ok { p with pending := some (o, some word) }
            | _ => readWord level word p
      readLevel level rest next

/-- The level whose help is asked for by naming commands. -/
def helpTopic (level : Level) : List String → Stop
  | [] => .help level true
  | name :: rest =>
    match level.command? name with
    | some command => helpTopic (some command) rest
    | none => .misuse level (.unknownCommand name [])

/-- What the user asks for. -/
structure Request where
  command : Option Command
  choices : Choices
  deriving DecidableEq, Repr

/-- The words after a command. -/
def readCommand (command : Command) (words : List String) : Except Stop Choices := do
  if command = .help then .error (helpTopic none words)
  else
    let level : Level := some command
    let (p, _) ← readLevel level words .initial
    let p ← p.settled level
    if level.argumentName?.isSome && p.choices.argument.isNone then
      .error (.misuse level (.missingArgument p.given))
    else .ok p.choices

/-- The words of the command line. An option given before and after the command counts as it stands
after it. -/
def readArguments (words : List String) : Except Stop Request := do
  let (p, found) ← readLevel none words .initial
  let choices ←
    match found with
    | some (command, rest) => readCommand command rest
    | none => .ok .initial
  let top ← p.settled none
  .ok ⟨found.map Prod.fst,
    { choices with
      server := choices.server <|> top.choices.server
      verbose := choices.verbose || top.choices.verbose }⟩

end ClusterBoard.CommandLine
