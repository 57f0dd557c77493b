import PartitionSize.Token.Zipper

/-!
# A cursor stands for a zipper

What a cursor can still show is the list of tokens ahead of it (`Cursor.ahead`); where it stands
between two tokens, and how much blank space it has passed, shows in nothing. `Tracks c z`: the
tokens ahead of `c` are those `z` has left, and the places that `c` recorded are the starts of the
tokens that `z` has taken, so that a step back from `c` shows what a step back from `z` shows.

* **The tokens ahead**: a step of `Cursor.next` takes the first (`ahead_next_some`), and fails only
  when there is none (`ahead_next_none`).
* **Every step keeps `Tracks`**: `Tracks.next`, `Tracks.undo`, `Tracks.undoAll`,
  `Tracks.resetHistory`, together `Tracks.step`. A failing `next` moves over blanks, and an `undo`
  lands behind them; the tokens ahead are the same at both ends of a run of blanks
  (`ahead_skipBlanks`), so neither is seen.
* **Whole runs** (`run_ofText`): whatever a new cursor is told to do, it shows what a zipper before
  all tokens of the text shows, and after each step it stands for that zipper (`Cursor.zipper`).
-/

namespace PartitionSize

open Text

/-! ## The tokens ahead -/

/-- The tokens still to come at a place. -/
def Text.Spot.ahead (s : Spot) : List Token := s.tokens.map (·.1)

/-- The tokens still to come. -/
def Cursor.ahead (c : Cursor) : List Token := c.spot.ahead

theorem Text.Spot.skipBlanks_skipBlanks (s : Spot) : s.skipBlanks.skipBlanks = s.skipBlanks := by
  cases h : s.rest.dropWhile isBlank with
  | nil => simp [Spot.skipBlanks, Spot.skipWhile, h]
  | cons c rest =>
    have hc : isBlank c = false := head_dropBlanks (show dropBlanks s.rest = _ from h)
    simp [Spot.skipBlanks, Spot.skipWhile, h, hc]

theorem Text.Spot.ahead_of_none {s : Spot} (h : s.skipBlanks.token? = none) : s.ahead = [] := by
  simp [Spot.ahead, Spot.tokens_of_none h]

theorem Text.Spot.ahead_of_some {s s' : Spot} {t : Token}
    (h : s.skipBlanks.token? = some (t, s')) : s.ahead = t :: s'.ahead := by
  simp [Spot.ahead, Spot.tokens_of_some h]

/-- Blanks in front of the next token do not show. -/
theorem Text.Spot.ahead_skipBlanks (s : Spot) : s.skipBlanks.ahead = s.ahead := by
  have hs := s.skipBlanks_skipBlanks
  cases h : s.skipBlanks.token? with
  | none => rw [ahead_of_none h, ahead_of_none (by rw [hs, h])]
  | some r => rw [ahead_of_some h, ahead_of_some (by rw [hs, h])]

namespace Cursor

@[simp] theorem ahead_resetHistory (c : Cursor) : c.resetHistory.ahead = c.ahead := rfl

theorem ahead_next_none {c c' : Cursor} (h : c.next = (none, c')) :
    c.ahead = [] ∧ c'.ahead = [] := by
  unfold next at h
  split at h
  · next hn =>
    cases h
    have ha : c.ahead = [] := Spot.ahead_of_none hn
    exact ⟨ha, by rw [← ha]; exact c.spot.ahead_skipBlanks⟩
  · cases h

theorem ahead_next_some {c c' : Cursor} {t : Token} (h : c.next = (some t, c')) :
    c.ahead = t :: c'.ahead := by
  unfold next at h
  split at h
  · cases h
  · next hn => cases h; exact Spot.ahead_of_some hn

/-! ## Tokens taken and places recorded -/

/-- The places `spots` are where the tokens `taken` start, both newest first, with `left` behind
the newest. -/
inductive Trail : List Token → List Token → List Spot → Prop where
  | nil {left} : Trail left [] []
  | cons {left t taken s spots} : s.ahead = t :: left → Trail (t :: left) taken spots →
      Trail left (t :: taken) (s :: spots)

/-- The cursor stands for the zipper (module doc). -/
structure Tracks (c : Cursor) (z : Zipper) : Prop where
  left : c.ahead = z.left
  taken : Trail z.left z.taken c.history

theorem tracks_resetHistory (c : Cursor) : Tracks c.resetHistory { left := c.ahead } :=
  ⟨rfl, .nil⟩

theorem tracks_ofText (text : String) : Tracks (ofText text) (Zipper.ofText text) :=
  ⟨rfl, .nil⟩

/-- Before the oldest place recorded stand all tokens taken since, then those that are left. -/
theorem Trail.ahead_getLast {left taken : List Token} {spots : List Spot} {oldest : Spot}
    (h : Trail left taken spots) (hs : spots.getLast? = some oldest) :
    oldest.ahead = taken.reverse ++ left := by
  induction h with
  | nil => cases hs
  | @cons left t taken s spots ha ht ih =>
    -- the place at hand is the oldest unless one was recorded before it
    cases ht with
    | nil =>
      have : s = oldest := by simpa using hs
      rw [← this, ha]
      rfl
    | cons ha' ht' =>
      rw [List.getLast?_cons_cons] at hs
      rw [ih hs]
      simp

namespace Tracks

variable {c : Cursor} {z : Zipper}

/-- Both read the same token, or none. -/
theorem next (h : Tracks c z) : c.next.1 = z.next.1 ∧ Tracks c.next.2 z.next.2 := by
  obtain ⟨hl, ht⟩ := h
  unfold Cursor.next Zipper.next
  split
  · next hn =>
    have hz : z.left = [] := by rw [← hl]; exact Spot.ahead_of_none hn
    rw [hz]
    exact ⟨rfl, by rw [← hl]; exact c.spot.ahead_skipBlanks, ht⟩
  · next t after hn =>
    have ha : c.spot.ahead = t :: after.ahead := Spot.ahead_of_some hn
    have hz : z.left = t :: after.ahead := by rw [← hl]; exact ha
    rw [hz] at ht ⊢
    exact ⟨rfl, rfl, .cons (by rw [Spot.ahead_skipBlanks, ha]) ht⟩

theorem undo (h : Tracks c z) : Tracks c.undo z.undo := by
  obtain ⟨spot, history⟩ := c
  obtain ⟨taken, left⟩ := z
  obtain ⟨hl, ht⟩ := h
  cases ht with
  | nil => exact ⟨hl, .nil⟩
  | cons hs ht => exact ⟨hs, ht⟩

theorem undoAll (h : Tracks c z) : Tracks c.undoAll z.undoAll := by
  obtain ⟨hl, ht⟩ := h
  unfold Cursor.undoAll Zipper.undoAll
  split
  · next hn =>
    have hspots : c.history = [] := List.getLast?_eq_none_iff.1 hn
    rw [hspots] at ht
    cases hz : z.taken with
    | nil => exact ⟨hl, by rw [hspots]; exact .nil⟩
    | cons t taken => rw [hz] at ht; cases ht
  · next oldest ho => exact ⟨ht.ahead_getLast ho, .nil⟩

theorem resetHistory (h : Tracks c z) : Tracks c.resetHistory z.resetHistory :=
  ⟨h.left, .nil⟩

/-- **One step** shows the same on both sides. -/
theorem step (h : Tracks c z) (s : Step) :
    (c.step s).1 = (z.step s).1 ∧ Tracks (c.step s).2 (z.step s).2 := by
  cases s with
  | next =>
    obtain ⟨hshown, hc⟩ := h.next
    exact ⟨congrArg Shown.read hshown, hc⟩
  | undo => exact ⟨rfl, h.undo⟩
  | undoAll => exact ⟨rfl, h.undoAll⟩
  | resetHistory => exact ⟨rfl, h.resetHistory⟩

end Tracks

/-! ## Whole runs -/

/-- The zipper that a cursor stands for: the tokens at the places it recorded, and those ahead. -/
def zipper (c : Cursor) : Zipper :=
  { taken := c.history.filterMap (·.ahead.head?), left := c.ahead }

theorem Trail.filterMap_head? {left taken : List Token} {spots : List Spot}
    (h : Trail left taken spots) : spots.filterMap (·.ahead.head?) = taken := by
  induction h with
  | nil => rfl
  | cons ha _ ih => rw [List.filterMap_cons_some (by rw [ha]; rfl), ih]

theorem Tracks.zipper_eq {c : Cursor} {z : Zipper} (h : Tracks c z) : c.zipper = z := by
  obtain ⟨taken, left⟩ := z
  obtain ⟨hl, ht⟩ := h
  rw [zipper, ht.filterMap_head?, hl]

theorem Tracks.run {c : Cursor} {z : Zipper} (h : Tracks c z) (steps : List Step) :
    (c.run steps).map (fun r => (r.1, r.2.zipper)) = z.run steps := by
  induction steps generalizing c z with
  | nil => rfl
  | cons s steps ih =>
    obtain ⟨hshown, hs⟩ := h.step s
    rw [Cursor.run, Zipper.run, List.map_cons, ih hs, hshown, hs.zipper_eq]

/-- **A cursor refines a zipper.** Whatever steps a new cursor takes, each shows what the same step
of a zipper before all tokens of the text shows, and the cursor after it stands for the zipper
after it. -/
theorem run_ofText (text : String) (steps : List Step) :
    ((ofText text).run steps).map (fun r => (r.1, r.2.zipper)) = (Zipper.ofText text).run steps :=
  (tracks_ofText text).run steps

/-- A read that fails is no step to undo. -/
example : ((ofText "a b ").run [.next, .next, .next, .undo, .next]).map (·.1) =
    [.read (some "a"), .read (some "b"), .read none, .moved, .read (some "b")] := by
  decide +kernel

end Cursor

end PartitionSize
