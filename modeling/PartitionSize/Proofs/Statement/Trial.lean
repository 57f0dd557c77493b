import PartitionSize.Proofs.Statement.Phrase
import PartitionSize.Proofs.Statement.Refinement
import PartitionSize.Proofs.Token.Places
import Mathlib.Order.Bounds.Defs

/-!
# A trial takes no more than its phrase

A trial of a phrase takes the longest part of it that stands at the front of the tokens, the case of
letters aside (`isGreatest_matchLength`). It says whether that was all of the phrase. What it leaves
are the other tokens. Where these run out inside the phrase, it leaves the last one that matched as
well, for there is none that differs to step back over.

It forgets what was read before it, so it cannot step back to before where it began
(`position_le_optional`).
-/

namespace PartitionSize

open Grammar Text

namespace OnePass

/-- As many words as match are the most that do. -/
theorem isGreatest_matchLength (phrase : List String) (ts : List Token) :
    IsGreatest {n | n ≤ phrase.length ∧ Phrase (phrase.take n) (ts.take n)}
      (Token.matchLength phrase ts) := by
  constructor
  · obtain ⟨words, words', taken, rest, rfl, rfl, hp, hn, -⟩ := exists_phrase phrase ts
    refine ⟨?_, ?_⟩
    · rw [hn, List.length_append]
      exact Nat.le_add_right _ _
    · rw [hn, List.take_left, ← length_of_phrase hp, List.take_left]
      exact hp
  · rintro n ⟨hle, hp⟩
    have hmatch := matchLength_of_phrase hp (phrase.drop n) (ts.drop n)
    rw [List.take_append_drop, List.take_append_drop, List.length_take_of_le hle] at hmatch
    rw [hmatch]
    exact Nat.le_add_right _ _

theorem optional_found_iff (phrase : List String) (ts : List Token) :
    (optional phrase ts).1 = true ↔ Token.matchLength phrase ts = phrase.length := by
  unfold optional
  dsimp only
  by_cases hall : Token.matchLength phrase ts = phrase.length
  · rw [if_pos hall]
    exact iff_of_true rfl hall
  · rw [if_neg hall]
    refine iff_of_false ?_ hall
    split
    · exact Bool.false_ne_true
    · exact Bool.false_ne_true

end OnePass

namespace Cursor

/-- A trial keeps to the places that reading on from its own leads to. -/
theorem Places.tryWords {P : Spot → Prop} (hP : Onward P) {c : Cursor} (h : c.Places P)
    (words : List String) : (c.tryWords words).2.Places P := by
  induction words generalizing c with
  | nil => exact h
  | cons word words ih =>
    have hnext := h.next hP
    unfold Cursor.tryWords
    split
    · next hc =>
      rw [hc] at hnext
      exact hnext.undo
    · next hc =>
      rw [hc] at hnext
      split
      · exact ih hnext
      · exact hnext.undo

/-- A trial does not end before the place where it began, whatever was recorded before it. -/
theorem position_le_optional (c : Cursor) (phrase : List String) :
    c.position ≤ (c.optional phrase).2.position := by
  have hstart : c.resetHistory.Places (fun s => c.position ≤ s.offset) :=
    ⟨Nat.le_refl _, fun _ hs => absurd hs List.not_mem_nil⟩
  exact (hstart.tryWords (fun h hle => Nat.le_trans hle h.le) phrase).spot

/-- **A trial takes the words of its phrase and nothing else.** Of the tokens ahead, `n` match the
phrase from its first word on, and no more do. The trial succeeds if these are all its words, and
leaves the tokens behind them. If it fails, it leaves the same tokens where one of them differs, and
one more, if any was taken, where there are no more tokens. It ends no earlier than it began. -/
theorem optional_takes (c : Cursor) (phrase : List String) :
    let n := Token.matchLength phrase c.ahead
    IsGreatest {k | k ≤ phrase.length ∧ Phrase (phrase.take k) (c.ahead.take k)} n ∧
    ((c.optional phrase).1 = true ↔ n = phrase.length) ∧
    (n = phrase.length → (c.optional phrase).2.ahead = c.ahead.drop n) ∧
    (n < phrase.length → n < c.ahead.length → (c.optional phrase).2.ahead = c.ahead.drop n) ∧
    (n < phrase.length → c.ahead.length ≤ n →
      (c.optional phrase).2.ahead = c.ahead.drop (n - 1)) ∧
    c.position ≤ (c.optional phrase).2.position := by
  intro n
  have hview := c.optional_ahead phrase
  have hfound : (c.optional phrase).1 = (OnePass.optional phrase c.ahead).1 :=
    congrArg Prod.fst hview
  have hleft : (c.optional phrase).2.ahead = (OnePass.optional phrase c.ahead).2 :=
    congrArg Prod.snd hview
  refine ⟨OnePass.isGreatest_matchLength phrase c.ahead, ?_, fun hall => ?_, fun hlt hmore => ?_,
    fun hlt hend => ?_, c.position_le_optional phrase⟩
  · rw [hfound]
    exact OnePass.optional_found_iff phrase c.ahead
  · rw [hleft, OnePass.optional, if_pos hall]
  · rw [hleft, OnePass.optional, if_neg (Nat.ne_of_lt hlt), if_pos hmore]
  · rw [hleft, OnePass.optional, if_neg (Nat.ne_of_lt hlt),
      if_neg (Nat.not_lt.2 hend)]

/-- Behind a token that was read, a phrase whose last word is missing: the tokens run out, and the
last word that matched is left again. -/
theorem optional_takes_to_end :
    let c := (ofText "t IF not ").next.2
    let phrase := ["IF", "NOT", "EXISTS"]
    c.history ≠ [] ∧ Token.matchLength phrase c.ahead = 2 ∧ c.ahead.length = 2 ∧
      (c.optional phrase).1 ≠ true ∧ (c.optional phrase).2.ahead = ["not"] ∧
      c.position ≤ (c.optional phrase).2.position := by
  intro c phrase
  have hn : Token.matchLength phrase c.ahead = 2 := by decide +kernel
  have hlength : c.ahead.length = 2 := by decide +kernel
  obtain ⟨-, hfound, -, -, hend, hposition⟩ := c.optional_takes phrase
  rw [hn] at hfound hend
  have hleft := hend (by decide) (Nat.le_of_eq hlength)
  have hone : c.ahead.drop 1 = ["not"] := by decide +kernel
  exact ⟨by decide +kernel, hn, hlength, fun h => absurd (hfound.1 h) (by decide),
    hleft.trans hone, hposition⟩

end Cursor

end PartitionSize
