/-!
# Cells that open and close

A collapsible cell wraps finished content and remembers whether it is shown. The state lives in the
cell, so that toggling one cell leaves its neighbours alone.
-/

namespace ClusterBoard

/-- Whether the content of a cell is shown. -/
inductive Disclosure where
  | shown
  | hidden
  deriving DecidableEq, Repr, Inhabited

namespace Disclosure

/-- The other state. -/
def toggled : Disclosure → Disclosure
  | .shown => .hidden
  | .hidden => .shown

/-- Whether the content is shown. -/
def isOpen : Disclosure → Bool
  | .shown => true
  | .hidden => false

/-- The class that marks the state on a page. -/
def className : Disclosure → String
  | .shown => "open"
  | .hidden => "closed"

@[simp] theorem toggled_toggled (d : Disclosure) : d.toggled.toggled = d := by cases d <;> rfl

@[simp] theorem isOpen_toggled (d : Disclosure) : d.toggled.isOpen = !d.isOpen := by cases d <;> rfl

end Disclosure

/-- A cell that opens and closes. -/
structure Collapsible (α : Type) where
  content : α
  state : Disclosure
  deriving Repr, Inhabited, DecidableEq

namespace Collapsible

/-- The cell in its other state. -/
def toggle {α : Type} (cell : Collapsible α) : Collapsible α :=
  { cell with state := cell.state.toggled }

/-- Whether the content is shown. -/
def isOpen {α : Type} (cell : Collapsible α) : Bool := cell.state.isOpen

/-- The content, while it is shown. -/
def visible? {α : Type} (cell : Collapsible α) : Option α :=
  if cell.isOpen then some cell.content else none

@[simp] theorem content_toggle {α : Type} (cell : Collapsible α) :
    cell.toggle.content = cell.content := rfl

@[simp] theorem toggle_toggle {α : Type} (cell : Collapsible α) : cell.toggle.toggle = cell := by
  simp [toggle]

end Collapsible

end ClusterBoard
