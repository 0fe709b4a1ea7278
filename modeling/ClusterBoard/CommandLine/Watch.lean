import ClusterBoard.Calendar
import ClusterBoard.CommandLine.Interval

/-!
# Watching

A report that is refreshed in the terminal is drawn over its last round, with a line below it that
says when it was made.
-/

namespace ClusterBoard.CommandLine

/-- Nanoseconds in seconds, with the decimals that are needed. -/
def secondsText (nanos : Nat) : String :=
  let fraction := (Nat.toDigits 10 (nanosPerSecond + nanos % nanosPerSecond)).drop 1
  let decimals := (fraction.reverse.dropWhile (· == '0')).reverse
  toString (nanos / nanosPerSecond) ++
    (if decimals.isEmpty then "" else "." ++ String.ofList decimals)

/-- A round of a watched report. The terminal shows it only when it is complete, and what was below
the last round is cleared. -/
def watchText (output : String) (now : Int) (interval : Nat) : String :=
  "\x1b[?2026h\x1b[H" ++ output ++ "\n\nLast updated: " ++ Calendar.timestamp now ++
    " | Refreshing every " ++ secondsText interval ++ "s | Press Ctrl+C to exit\x1b[J\x1b[?2026l"

end ClusterBoard.CommandLine
