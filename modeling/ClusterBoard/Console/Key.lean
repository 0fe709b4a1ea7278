/-!
# Keys

What the operator can press, and the action of each key. Keys without an action are ignored.
-/

namespace ClusterBoard.Console

/-- A key of the keyboard. -/
inductive Key where
  | char (c : Char)
  | enter
  | escape
  | tab
  | backTab
  | backspace
  | delete
  | up
  | down
  | left
  | right
  | home
  | end_
  | pageUp
  | pageDown
  | function (number : Nat)
  deriving DecidableEq, Repr

/-- A key pressed together with others. -/
structure KeyPress where
  key : Key
  control : Bool
  alt : Bool
  shift : Bool
  deriving DecidableEq, Repr

/-- What a key press asks for. -/
inductive Action where
  | moveUp
  | moveDown
  | moveToTop
  | moveToBottom
  | previousPage
  | nextPage
  | nextUser
  | previousUser
  | switchToJobs
  | switchToNodes
  | toggleNodeList
  | toggleHistory
  | select
  | refresh
  | showHelp
  | escape
  | quit
  | unknown
  deriving DecidableEq, Repr

/-- The action of a key press. Only `c` depends on what else is held down. -/
def Action.ofKeyPress (press : KeyPress) : Action :=
  match press.key with
  | .char 'q' => .quit
  | .char 'c' => if press.control then .quit else .unknown
  | .char 'j' | .down => .moveDown
  | .char 'k' | .up => .moveUp
  | .char 'g' | .home => .moveToTop
  | .char 'G' | .end_ => .moveToBottom
  | .left | .pageUp => .previousPage
  | .right | .pageDown => .nextPage
  | .tab => .nextUser
  | .backTab => .previousUser
  | .char '1' => .switchToJobs
  | .char '2' => .switchToNodes
  | .char 'n' => .toggleNodeList
  | .char 'h' => .toggleHistory
  | .enter => .select
  | .char 'r' => .refresh
  | .char '?' | .function 1 => .showHelp
  | .escape => .escape
  | _ => .unknown

end ClusterBoard.Console
