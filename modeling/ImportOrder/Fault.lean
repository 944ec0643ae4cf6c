/-!
# Faults

A step of the program may be handed positions that no text can honour: a slice that ends
before it starts, or one that cuts through a character. Such a step has no result at
all. It is given a *fault*, which is kept apart from the errors that a user can provoke
and that have a message of their own:

* `Fault` — why the step has no result;
* `Halt ε` — why a step ended early: with a fault, or with an error of type `ε`.
-/

namespace ImportOrder

/-- Why a step has no result. -/
inductive Fault where
  /-- a span was formed that starts after its end -/
  | invertedSpan (start stop : Nat)
  /-- a slice was asked for whose ends are not, in this order, character boundaries of
  the text -/
  | badSlice (start stop : Nat)
  /-- a line or column number left the 32-bit range -/
  | lineOverflow (line : Nat)
deriving DecidableEq, Repr

/-- Why a step ended early: it met a fault, or it failed with an error that has a
message. -/
inductive Halt (ε : Type) where
  /-- the step has no result -/
  | fault (cause : Fault)
  /-- the step failed in a foreseen way -/
  | error (cause : ε)
deriving DecidableEq, Repr

namespace Halt

/-- Change the foreseen error and keep a fault as it is. -/
def map {ε δ : Type} (f : ε → δ) : Halt ε → Halt δ
  | .fault c => .fault c
  | .error e => .error (f e)

/-- A step that can only meet a fault, seen as one that could also fail. -/
def ofFault {ε α : Type} : Except Fault α → Except (Halt ε) α := Except.mapError .fault

/-- A step that can only fail, seen as one that could also meet a fault. -/
def ofError {ε α : Type} : Except ε α → Except (Halt ε) α := Except.mapError .error

end Halt

/-- Line and column numbers are below this bound, `2 ^ 32`. -/
def lineBound : Nat := 0x100000000

/-- The number of the next line, if it is still in range. -/
def nextLine (line : Nat) : Except Fault Nat :=
  if line + 1 < lineBound then .ok (line + 1) else .error (.lineOverflow line)

end ImportOrder
