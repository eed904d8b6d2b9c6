import EventRules.Rule.Table

/-!
# Installed — the table of a process

A process fixes its table once: by installing one, or by asking for it, which fixes a table made for
the purpose.  After that the table never changes.  Both requests are made of atomic steps on one
cell, so that several threads can make them at the same time.

* `Installed.look`, `Installed.fill`, `Installed.settle` — the atomic steps;
* `Installed.current`, `Installed.install` — the requests, each made without interruption.
-/

namespace EventRules

/-- The cell that holds what was fixed, or nothing yet. -/
structure Installed (α : Type) where
  held : Option α
  deriving DecidableEq

namespace Installed

variable {α : Type}

def unset : Installed α := ⟨none⟩

/-! ## Atomic steps -/

def look (cell : Installed α) : Option α := cell.held

/-- Fills the cell if it is empty; says whether it was. -/
def fill (a : α) (cell : Installed α) : Bool × Installed α :=
  match cell.held with
  | some _ => (false, cell)
  | none => (true, ⟨some a⟩)

/-- What the cell holds, which is the given value if it was empty. -/
def settle (a : α) (cell : Installed α) : α × Installed α :=
  match cell.held with
  | some held => (held, cell)
  | none => (a, ⟨some a⟩)

/-! ## Requests -/

/-- What the process uses, a default if nothing was fixed before. -/
def current (default : α) (cell : Installed α) : α × Installed α :=
  match cell.look with
  | some held => (held, cell)
  | none => cell.settle default

def install (a : α) (cell : Installed α) : Except TableFault α × Installed α :=
  match cell.fill a with
  | (true, filled) => (.ok a, filled)
  | (false, same) => (.error .alreadyInstalled, same)

end Installed

end EventRules
