import PartitionSize.Token.Cursor

/-!
# Tokens on two sides of a place

A `Zipper` holds what a cursor stands for and nothing of how it gets there: the tokens read since
the last reset, newest first, and the tokens still to come. It knows neither blanks nor offsets.
-/

namespace PartitionSize

/-- Tokens read since the last reset, newest first, and tokens to come. -/
structure Zipper where
  taken : List Token := []
  left : List Token
deriving Repr, DecidableEq

namespace Zipper

/-- Before all tokens of a text. -/
def ofText (text : String) : Zipper := { left := Token.scan text.toList }

/-- Takes the next token, if there is one. -/
def next (z : Zipper) : Option Token × Zipper :=
  match z.left with
  | [] => (none, z)
  | t :: left => (some t, { taken := t :: z.taken, left })

/-- Puts the last token back. -/
def undo (z : Zipper) : Zipper :=
  match z.taken with
  | [] => z
  | t :: taken => { taken, left := t :: z.left }

/-- Puts all tokens back. -/
def undoAll (z : Zipper) : Zipper := { taken := [], left := z.taken.reverse ++ z.left }

/-- Forgets the tokens taken. -/
def resetHistory (z : Zipper) : Zipper := { z with taken := [] }

/-- One step and what it shows. -/
def step (z : Zipper) : Cursor.Step → Cursor.Shown × Zipper
  | .next => let (t, z) := z.next; (.read t, z)
  | .undo => (.moved, z.undo)
  | .undoAll => (.moved, z.undoAll)
  | .resetHistory => (.moved, z.resetHistory)

/-- The steps in order: what each shows and the zipper after it. -/
def run (z : Zipper) : List Cursor.Step → List (Cursor.Shown × Zipper)
  | [] => []
  | s :: steps => let r := z.step s; r :: r.2.run steps

end Zipper

end PartitionSize
