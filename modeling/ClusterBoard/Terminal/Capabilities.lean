/-!
# What a terminal can do

The board needs an interactive terminal with an alternate screen.
-/

namespace ClusterBoard.Terminal

/-- What is known of the terminal. -/
structure Capabilities where
  isInteractive : Bool
  /-- The kind of terminal, as the environment names it. -/
  kind : String
  hasAlternateScreen : Bool
  deriving DecidableEq, Repr

namespace Capabilities

/-- The capabilities of a terminal of a kind. -/
def ofKind (isInteractive : Bool) (kind : String) : Capabilities :=
  ⟨isInteractive, kind, !(["dumb", "", "unknown"].contains kind)⟩

/-- Whether the board can be shown. -/
def isSuitable (c : Capabilities) : Bool := c.isInteractive && c.hasAlternateScreen

/-- Why the board cannot be shown. -/
def complaint (c : Capabilities) : String :=
  if !c.isInteractive then
    "TUI mode requires an interactive terminal (stdout is not a TTY).\n" ++
      "Hint: Use non-TUI commands like 'jobdash jobs' or 'jobdash nodes' instead."
  else if !c.hasAlternateScreen then
    let kind := if c.kind = "" then "(unset)" else c.kind
    s!"Terminal type '{kind}' may not support TUI mode.\n" ++
      "Hint: Set TERM to a supported value (e.g., xterm-256color) or use CLI mode."
  else "Unknown terminal capability issue."

end Capabilities

end ClusterBoard.Terminal
