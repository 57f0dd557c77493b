import PartitionSize.Token

/-!
# A cursor over tokens

A `Cursor` reads a text token by token and remembers where each token started, so that a reader
can step back over what it read on trial.

* `next` skips blanks and reads one token. At the end of the text it fails, having moved over the
  blanks but recorded nothing.
* `undo` steps back to where the last recorded token started, which is after the blanks before it;
  `undoAll` to where the oldest recorded one started; `resetHistory` keeps the place and forgets
  the way.

No step moves back past the oldest record, so a reader that resets the history first never ends
before the place where it began (`Cursor.left_undo_le`).
-/

namespace PartitionSize

open Text

/-- A place in a text and the starts of the tokens read since the last reset, newest first. -/
structure Cursor where
  spot : Spot
  history : List Spot := []
deriving Repr, DecidableEq

namespace Cursor

/-- A cursor before a text. -/
def ofText (text : String) : Cursor := { spot := Spot.start text.toList }

/-- The offset of the cursor in UTF-8 bytes. -/
def position (c : Cursor) : Nat := c.spot.offset

/-- The number of characters that are left. -/
def left (c : Cursor) : Nat := c.spot.rest.length

/-- Reads the next token; none is left at the end of the text. -/
def next (c : Cursor) : Option Token × Cursor :=
  match c.spot.skipBlanks.token? with
  | none => (none, { c with spot := c.spot.skipBlanks })
  | some (t, after) => (some t, { spot := after, history := c.spot.skipBlanks :: c.history })

/-- Steps back over the last token read. -/
def undo (c : Cursor) : Cursor :=
  match c.history with
  | [] => c
  | s :: older => { spot := s, history := older }

/-- Steps back over all tokens read since the last reset. -/
def undoAll (c : Cursor) : Cursor :=
  match c.history.getLast? with
  | none => c
  | some s => { spot := s, history := [] }

/-- Forgets the tokens read, and stays. -/
def resetHistory (c : Cursor) : Cursor := { c with history := [] }

/-! ## Sequences of steps -/

/-- What a cursor can be told to do. -/
inductive Step where
  | next
  | undo
  | undoAll
  | resetHistory
deriving Repr, DecidableEq

/-- What a step shows: for `next` the token, or nothing at the end of the text. -/
inductive Shown where
  | read (token : Option Token)
  | moved
deriving Repr, DecidableEq

/-- One step and what it shows. -/
def step (c : Cursor) : Step → Shown × Cursor
  | .next => let (t, c) := c.next; (.read t, c)
  | .undo => (.moved, c.undo)
  | .undoAll => (.moved, c.undoAll)
  | .resetHistory => (.moved, c.resetHistory)

/-- The steps in order: what each shows and the cursor after it. -/
def run (c : Cursor) : List Step → List (Shown × Cursor)
  | [] => []
  | s :: steps => let r := c.step s; r :: r.2.run steps

/-! ## Laws -/

theorem left_next_lt {c c' : Cursor} {t : Token} (h : c.next = (some t, c')) :
    c'.left < c.left := by
  unfold next at h
  split at h
  · simp at h
  · next h' =>
    simp only [Prod.mk.injEq, Option.some.injEq] at h
    obtain ⟨rfl, rfl⟩ := h
    exact Nat.lt_of_lt_of_le (length_rest_lt_of_token? h') (length_rest_skipWhile_le ..)

theorem left_next_le (c : Cursor) : c.next.2.left ≤ c.left := by
  unfold next
  split
  · exact length_rest_skipWhile_le ..
  · next h =>
    exact Nat.le_of_lt (Nat.lt_of_lt_of_le (length_rest_lt_of_token? h)
      (length_rest_skipWhile_le ..))

/-- A cursor that records no place further back than `n` characters before the end. -/
def Within (n : Nat) (c : Cursor) : Prop :=
  c.left ≤ n ∧ ∀ s ∈ c.history, s.rest.length ≤ n

theorem within_resetHistory (c : Cursor) : c.resetHistory.Within c.left :=
  ⟨Nat.le_refl _, by simp [resetHistory]⟩

theorem Within.next {n : Nat} {c : Cursor} (h : c.Within n) : c.next.2.Within n := by
  refine ⟨Nat.le_trans c.left_next_le h.1, ?_⟩
  unfold Cursor.next
  split
  · exact h.2
  · intro s hs
    rcases List.mem_cons.1 hs with rfl | hs
    · exact Nat.le_trans (length_rest_skipWhile_le ..) h.1
    · exact h.2 s hs

theorem Within.undo {n : Nat} {c : Cursor} (h : c.Within n) : c.undo.Within n := by
  obtain ⟨spot, history⟩ := c
  cases history with
  | nil => exact h
  | cons s older =>
    exact ⟨h.2 s List.mem_cons_self, fun s' hs => h.2 s' (List.mem_cons_of_mem _ hs)⟩

/-- Undoing after a reset leaves no more than there was at the reset. -/
theorem left_undo_le {n : Nat} {c : Cursor} (h : c.Within n) : c.undo.left ≤ n := h.undo.1

end Cursor

end PartitionSize
