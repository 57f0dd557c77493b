import PartitionSize.Proofs.Token.Simulation
import PartitionSize.Token.Slice
import Mathlib.Data.List.TakeWhile

/-!
# Every text has one division into tokens

* **Lexemes** (`Token.exists_lexeme`, `Lexeme.length_eq`): a token begins at every character that is
  not blank, and it is as long as the scan takes it to be.
* **Divisions** (`exists_sliced`, `Sliced.unique`): every text has exactly one.
* **Reading** (`reads_slices`): a new cursor reads the tokens of the division, stands at the end of
  each, and finds none behind the last, however often it is asked.
* **Other ends** (`Sliced.replace_rest`): what follows some slices can be exchanged for anything in
  front of which the last of them is still a token. So a text can be cut behind a token
  (`Sliced.take`), lengthened behind a mark (`Sliced.append_of_mark`) and joined to one that begins
  with what ends a run (`Sliced.append`) without a change before.
-/

namespace PartitionSize

open Text

namespace Token

/-! ## Lexemes -/

theorem endsRun_of_isBlank {c : Char} (h : isBlank c = true) : endsRun c = true := by
  simp [endsRun, h]

theorem isBlank_of_isMarkChar {c : Char} (h : isMarkChar c = true) : isBlank c = false := by
  simp only [isMarkChar, Bool.or_eq_true, beq_iff_eq] at h
  rcases h with ((((rfl | rfl) | rfl) | rfl) | rfl) | rfl <;> rfl

namespace Lexeme

variable {lexeme rest : List Char}

theorem isBlank_eq_false (h : Lexeme lexeme rest) : ∀ c ∈ lexeme, isBlank c = false := by
  intro d hd
  cases h with
  | mark hm =>
    rw [List.mem_singleton.1 hd]
    exact isBlank_of_isMarkChar hm
  | run _ hrun _ =>
    have hd' : endsRun d = false := hrun d hd
    by_contra hb
    rw [endsRun_of_isBlank (by simpa using hb)] at hd'
    cases hd'

theorem ne_nil (h : Lexeme lexeme rest) : lexeme ≠ [] := by
  cases h with
  | mark _ => exact List.cons_ne_nil _ _
  | run _ _ _ => exact List.cons_ne_nil _ _

/-- The scan takes the whole lexeme and nothing behind it. -/
theorem length_eq (h : Lexeme lexeme rest) : lexemeLength (lexeme ++ rest) = lexeme.length := by
  cases h with
  | mark hm => simp [lexemeLength, hm]
  | @run c cs rest hm hrun hrest =>
    have hall : ∀ d ∈ c :: cs, continuesRun d = true := by
      intro d hd
      simp [continuesRun, hrun d hd]
    have hnone : rest.takeWhile continuesRun = [] := by
      cases rest with
      | nil => rfl
      | cons d after => simp [continuesRun, hrest d after rfl]
    have htake : (c :: cs ++ rest).takeWhile continuesRun = c :: cs := by
      rw [List.takeWhile_append_of_pos hall, hnone, List.append_nil]
    rw [List.cons_append] at htake ⊢
    simp [lexemeLength, hm, htake]

/-- A token does not see what comes behind the next character. -/
theorem replace {more : List Char} (h : Lexeme lexeme (rest ++ more)) (hne : rest ≠ [])
    (more' : List Char) : Lexeme lexeme (rest ++ more') := by
  cases h with
  | mark hm => exact .mark hm
  | run hm hrun hrest =>
    cases rest with
    | nil => exact absurd rfl hne
    | cons d after =>
      refine .run hm hrun ?_
      rintro _ _ ⟨⟩
      exact hrest d (after ++ more) rfl

/-- A token is a token in front of anything that ends a run, and at the end of a text. -/
theorem of_endsRun {rest' : List Char} (h : Lexeme lexeme rest)
    (hrest : ∀ d after, rest' = d :: after → endsRun d = true) : Lexeme lexeme rest' := by
  cases h with
  | mark hm => exact .mark hm
  | run hm hrun _ => exact .run hm hrun hrest

theorem of_blanks (h : Lexeme lexeme rest) {blanks : List Char}
    (hb : ∀ c ∈ blanks, isBlank c = true) : Lexeme lexeme blanks := by
  apply h.of_endsRun
  rintro d after rfl
  exact endsRun_of_isBlank (hb d List.mem_cons_self)

end Lexeme

/-- A token begins at every character that is not blank. -/
theorem exists_lexeme {c : Char} (h : isBlank c = false) (cs : List Char) :
    ∃ lexeme rest, c :: cs = lexeme ++ rest ∧ Lexeme lexeme rest := by
  by_cases hm : isMarkChar c = true
  · exact ⟨[c], cs, rfl, .mark hm⟩
  · have hc : endsRun c = false := by
      simp only [isMarkChar, Bool.or_eq_true, not_or, Bool.not_eq_true] at hm
      simp [endsRun, h, hm]
    have hrun : ∀ d ∈ c :: cs.takeWhile continuesRun, endsRun d = false := by
      intro d hd
      rcases List.mem_cons.1 hd with rfl | hd
      · exact hc
      · simpa [continuesRun] using List.mem_takeWhile_imp hd
    have hrest : ∀ d after, cs.dropWhile continuesRun = d :: after → endsRun d = true := by
      intro d after heq
      have hne : cs.dropWhile continuesRun ≠ [] := by simp [heq]
      have hd := List.head_dropWhile_not continuesRun hne
      simpa [heq, continuesRun] using hd
    refine ⟨c :: cs.takeWhile continuesRun, cs.dropWhile continuesRun, ?_,
      .run (by simpa using hm) hrun hrest⟩
    rw [List.cons_append, List.takeWhile_append_dropWhile]

end Token

/-! ## Blanks in front of a token -/

theorem takeWhile_isBlank_append {blanks lexeme rest : List Char}
    (hb : ∀ c ∈ blanks, isBlank c = true) (hl : Token.Lexeme lexeme rest) :
    (blanks ++ (lexeme ++ rest)).takeWhile isBlank = blanks := by
  rw [List.takeWhile_append_of_pos hb]
  cases lexeme with
  | nil => exact absurd rfl hl.ne_nil
  | cons c cs => simp [hl.isBlank_eq_false c List.mem_cons_self]

theorem dropWhile_isBlank_append {blanks lexeme rest : List Char}
    (hb : ∀ c ∈ blanks, isBlank c = true) (hl : Token.Lexeme lexeme rest) :
    (blanks ++ (lexeme ++ rest)).dropWhile isBlank = lexeme ++ rest := by
  have h := List.takeWhile_append_dropWhile (p := isBlank) (l := blanks ++ (lexeme ++ rest))
  rw [takeWhile_isBlank_append hb hl] at h
  exact List.append_cancel_left h

/-- The scan reads a slice and stands behind it. -/
theorem Text.Spot.token?_of_slice {spot : Spot} {s : Slice} {rest : List Char}
    (hs : spot.rest = s.chars ++ rest) (hb : ∀ c ∈ s.blanks, isBlank c = true)
    (hl : Token.Lexeme s.lexeme rest) :
    spot.skipBlanks.token? = some (s.token, ⟨spot.offset + byteLength s.chars, rest⟩) := by
  rw [Slice.chars, List.append_assoc] at hs
  have hskip : spot.skipBlanks = ⟨spot.offset + byteLength s.blanks, s.lexeme ++ rest⟩ := by
    rw [Spot.skipBlanks, Spot.skipWhile, hs, takeWhile_isBlank_append hb hl,
      dropWhile_isBlank_append hb hl]
  have hpos : s.lexeme.length ≠ 0 := mt List.eq_nil_of_length_eq_zero hl.ne_nil
  obtain ⟨n, hn⟩ := Nat.exists_eq_succ_of_ne_zero hpos
  rw [hskip, Spot.token?, hl.length_eq, hn]
  simp [Spot.advance, ← Nat.succ_eq_add_one, ← hn, Slice.token, Slice.chars, Nat.add_assoc]

/-- In front of blanks alone the scan goes to the end and reads nothing. -/
theorem Text.Spot.token?_of_blanks {spot : Spot} (hb : ∀ c ∈ spot.rest, isBlank c = true) :
    spot.skipBlanks = ⟨spot.offset + byteLength spot.rest, []⟩ ∧
      spot.skipBlanks.token? = none := by
  have htake : spot.rest.takeWhile isBlank = spot.rest := List.takeWhile_eq_self_iff.2 hb
  have hdrop : spot.rest.dropWhile isBlank = [] := List.dropWhile_eq_nil_iff.2 hb
  have hskip : spot.skipBlanks = ⟨spot.offset + byteLength spot.rest, []⟩ := by
    rw [Spot.skipBlanks, Spot.skipWhile, htake, hdrop]
  exact ⟨hskip, by rw [hskip]; rfl⟩

/-! ## Divisions -/

theorem exists_sliced (text : List Char) : ∃ slices, Sliced text slices := by
  cases hd : text.dropWhile isBlank with
  | nil => exact ⟨[], .nil (List.dropWhile_eq_nil_iff.1 hd)⟩
  | cons c cs =>
    have hc : isBlank c = false := head_dropBlanks (show dropBlanks text = _ from hd)
    obtain ⟨lexeme, rest, heq, hl⟩ := Token.exists_lexeme hc cs
    have hlt : rest.length < text.length := by
      have hle : (text.dropWhile isBlank).length ≤ text.length := length_dropBlanks_le text
      have hpos := List.length_pos_iff.2 hl.ne_nil
      rw [hd, heq, List.length_append] at hle
      omega
    obtain ⟨slices, hs⟩ := exists_sliced rest
    let s : Slice := ⟨text.takeWhile isBlank, lexeme⟩
    have htext : text = s.chars ++ rest := by
      rw [Slice.chars, List.append_assoc, ← heq, ← hd, List.takeWhile_append_dropWhile]
    have hb : ∀ d ∈ s.blanks, isBlank d = true := fun d => List.mem_takeWhile_imp
    exact ⟨s :: slices, htext ▸ .cons hb hl hs⟩
termination_by text.length

namespace Sliced

variable {text : List Char} {slices : List Slice}

/-- Two divisions agree on the first slice, and so on all. -/
theorem unique {slices' : List Slice} (h : Sliced text slices) (h' : Sliced text slices') :
    slices' = slices := by
  induction h generalizing slices' with
  | @nil blanks hb =>
    generalize heq : blanks = text at h'
    cases h' with
    | nil _ => rfl
    | @cons s rest _ _ hl _ =>
      obtain ⟨c, cs, hc⟩ := List.exists_cons_of_ne_nil hl.ne_nil
      have hmem : c ∈ blanks := by simp [heq, Slice.chars, hc]
      have hn := hl.isBlank_eq_false c (by simp [hc])
      rw [hb c hmem] at hn
      cases hn
  | @cons s rest slices hb hl _ ih =>
    generalize heq : s.chars ++ rest = text at h'
    cases h' with
    | nil hb' =>
      obtain ⟨c, cs, hc⟩ := List.exists_cons_of_ne_nil hl.ne_nil
      have hn := hl.isBlank_eq_false c (by simp [hc])
      rw [hb' c (by simp [← heq, Slice.chars, hc])] at hn
      cases hn
    | @cons s' rest' slices' hb' hl' hs' =>
      rw [Slice.chars, Slice.chars, List.append_assoc, List.append_assoc] at heq
      have hblanks := congrArg (List.takeWhile isBlank) heq
      have hrest := congrArg (List.dropWhile isBlank) heq
      rw [takeWhile_isBlank_append hb hl, takeWhile_isBlank_append hb' hl'] at hblanks
      rw [dropWhile_isBlank_append hb hl, dropWhile_isBlank_append hb' hl'] at hrest
      have hlen := congrArg Token.lexemeLength hrest
      rw [hl.length_eq, hl'.length_eq] at hlen
      obtain ⟨hlexeme, rfl⟩ := List.append_inj hrest hlen
      obtain ⟨blanks, lexeme⟩ := s
      obtain ⟨blanks', lexeme'⟩ := s'
      cases hblanks
      cases hlexeme
      rw [ih hs']

theorem lexeme_ne_nil (h : Sliced text slices) : ∀ s ∈ slices, s.lexeme ≠ [] := by
  induction h with
  | nil _ => simp
  | cons _ hl _ ih => exact List.forall_mem_cons.2 ⟨hl.ne_nil, ih⟩

theorem join_tokens (h : Sliced text slices) :
    String.join (slices.map Slice.token) = String.ofList (text.filter fun c => !isBlank c) := by
  induction h with
  | nil hb =>
    rw [List.filter_eq_nil_iff.2 fun c hc => by simp [hb c hc]]
    rfl
  | @cons s rest slices hb hl _ ih =>
    have hblanks : s.blanks.filter (fun c => !isBlank c) = [] :=
      List.filter_eq_nil_iff.2 fun c hc => by simp [hb c hc]
    have hlexeme : s.lexeme.filter (fun c => !isBlank c) = s.lexeme :=
      List.filter_eq_self.2 fun c hc => by simp [hl.isBlank_eq_false c hc]
    rw [List.map_cons, String.join_cons, ih, Slice.chars, List.filter_append, List.filter_append,
      hblanks, hlexeme, List.nil_append, String.ofList_append, Slice.token]

/-! ## Reading a division -/

theorem scan_eq (h : Sliced text slices) : Token.scan text = slices.map Slice.token := by
  suffices hs : ∀ spot : Spot, spot.rest = text → spot.tokens.map (·.1) = slices.map Slice.token from
    hs (Spot.start text) rfl
  induction h with
  | nil hb =>
    rintro spot rfl
    rw [Spot.tokens_of_none (Spot.token?_of_blanks hb).2]
    rfl
  | cons hb hl _ ih =>
    intro spot hs
    rw [Spot.tokens_of_some (Spot.token?_of_slice hs hb hl), List.map_cons, List.map_cons, ih _ rfl]

end Sliced

/-- A token of a text is a token by itself. -/
theorem Token.lexeme_of_mem_scan {text : List Char} {t : Token} (h : t ∈ scan text) :
    Lexeme t.toList [] := by
  obtain ⟨slices, hs⟩ := exists_sliced text
  rw [hs.scan_eq] at h
  induction hs with
  | nil _ => cases h
  | @cons s rest slices _ hl _ ih =>
    rw [List.map_cons, List.mem_cons] at h
    rcases h with rfl | h
    · rw [Slice.token, String.toList_ofList]
      exact hl.of_blanks (by simp)
    · exact ih h

namespace Cursor

/-- What a step shows, and where the cursor stands then. -/
def shownAt (r : Shown × Cursor) : Shown × Nat := (r.1, r.2.position)

theorem run_of_blanks {c : Cursor} (hb : ∀ d ∈ c.spot.rest, isBlank d = true) (n : Nat) :
    (c.run (List.replicate n .next)).map shownAt =
      List.replicate n (.read none, c.position + byteLength c.spot.rest) := by
  induction n generalizing c with
  | zero => rfl
  | succ n ih =>
    obtain ⟨hskip, hnone⟩ := Spot.token?_of_blanks hb
    have hnext : c.next = (none, { c with spot := ⟨c.position + byteLength c.spot.rest, []⟩ }) := by
      rw [next, hnone, hskip]
      rfl
    rw [List.replicate_succ, run, List.map_cons, List.replicate_succ]
    simp only [step, hnext]
    rw [ih (by simp)]
    simp [shownAt, position]

/-- A cursor reads the slices in front of it, then nothing. -/
theorem run_of_sliced {c : Cursor} {slices : List Slice} (h : Sliced c.spot.rest slices) (n : Nat) :
    (c.run (List.replicate (slices.length + n) .next)).map shownAt =
      ((Slice.ends c.position slices).map fun r => (.read (some r.1), r.2)) ++
        List.replicate n (.read none, c.position + byteLength c.spot.rest) := by
  generalize htext : c.spot.rest = text at h
  induction h generalizing c with
  | nil hb =>
    subst htext
    simpa [Slice.ends] using run_of_blanks hb n
  | @cons s rest slices hb hl _ ih =>
    have hnext : c.next = (some s.token,
        { spot := ⟨c.position + byteLength s.chars, rest⟩
          history := c.spot.skipBlanks :: c.history }) := by
      rw [next, Spot.token?_of_slice htext hb hl]
      rfl
    rw [List.length_cons, Nat.add_right_comm, List.replicate_succ, run, List.map_cons]
    simp only [step, hnext]
    rw [ih rfl]
    simp [shownAt, position, Slice.ends, Nat.add_assoc]

/-- **Tokenization is lossless and unique.** A text has one division into slices. A new cursor reads
their tokens in order, standing at the end of each slice after it, and every further read fails at
the end of the text. Joined, the tokens are the text without its blanks. -/
theorem reads_slices (text : String) :
    ∃ slices, Sliced text.toList slices ∧
      (∀ slices', Sliced text.toList slices' → slices' = slices) ∧
      (∀ n, ((ofText text).run (List.replicate (slices.length + n) .next)).map shownAt =
        ((Slice.ends 0 slices).map fun r => (.read (some r.1), r.2)) ++
          List.replicate n (.read none, byteLength text.toList)) ∧
      String.join (slices.map Slice.token) =
        String.ofList (text.toList.filter fun c => !isBlank c) := by
  obtain ⟨slices, hs⟩ := exists_sliced text.toList
  refine ⟨slices, hs, fun _ hs' => hs.unique hs', fun n => ?_, hs.join_tokens⟩
  have hrun := run_of_sliced (c := ofText text) hs n
  simpa [position, ofText, Spot.start] using hrun

/-- A semicolon is a token by itself, but inside a run it belongs to it. -/
example : Token.scan "a;b;(;c".toList = ["a;b;", "(", ";", "c"] := by decide +kernel

end Cursor

/-! ## Other ends -/

namespace Sliced

variable {text : List Char}

/-- The slices of a text stay when what follows them is exchanged, if the last of them is still a
token in front of it. -/
theorem replace_rest {slices behind : List Slice} (h : Sliced text (slices ++ behind)) :
    ∃ rest, text = slices.flatMap Slice.chars ++ rest ∧ Sliced rest behind ∧
      ∀ rest' behind', Sliced rest' behind' →
        (∀ s ∈ slices.getLast?, ∀ after, Token.Lexeme s.lexeme after →
          Token.Lexeme s.lexeme rest') →
        Sliced (slices.flatMap Slice.chars ++ rest') (slices ++ behind') := by
  induction slices generalizing text with
  | nil => exact ⟨text, rfl, h, fun _ _ hs' _ => hs'⟩
  | cons s slices ih =>
    cases h with
    | @cons _ rest₀ _ hb hl hs =>
      obtain ⟨rest, rfl, hbehind, hother⟩ := ih hs
      refine ⟨rest, by simp, hbehind, fun rest' behind' hs' hlast => ?_⟩
      rw [List.flatMap_cons, List.append_assoc]
      cases slices with
      | nil => exact .cons hb (hlast s rfl _ hl) hs'
      | cons s' slices =>
        have hmore := hother rest' behind' hs' fun last hm => hlast last (by simpa using hm)
        -- the next slice is not empty, so `s` does not see what is exchanged
        have hne : s'.lexeme ≠ [] := hs.lexeme_ne_nil s' (by simp)
        exact .cons hb (hl.replace (by simp [Slice.chars, hne]) rest') hmore

/-- A text cut behind some of its tokens has these tokens, whatever blanks follow. -/
theorem take {slices : List Slice} (h : Sliced text slices) (n : Nat) {blanks : List Char}
    (hb : ∀ c ∈ blanks, isBlank c = true) :
    Sliced ((slices.take n).flatMap Slice.chars ++ blanks) (slices.take n) := by
  rw [← List.take_append_drop n slices] at h
  obtain ⟨rest, -, -, hother⟩ := h.replace_rest
  have hcut := hother blanks [] (.nil hb) fun s _ after hl => hl.of_blanks hb
  rwa [List.append_nil] at hcut

/-- Without blanks a text is its tokens. -/
theorem flatMap_chars {slices : List Slice} (h : Sliced text slices)
    (hb : ∀ c ∈ text, isBlank c = false) : text = slices.flatMap Slice.chars := by
  induction h with
  | @nil blanks hblanks =>
    cases blanks with
    | nil => rfl
    | cons c cs =>
      have hc : isBlank c = true := hblanks c List.mem_cons_self
      rw [hb c List.mem_cons_self] at hc
      cases hc
  | cons _ _ _ ih =>
    rw [List.flatMap_cons, ← ih fun c hm => hb c (List.mem_append_right _ hm)]

/-- Where a text ends with a token, and the next one begins with what ends a run, each keeps its
tokens. -/
theorem append {rest : List Char} {slices behind : List Slice} (h : Sliced text slices)
    (htext : text = slices.flatMap Slice.chars) (hs : Sliced rest behind)
    (hrest : ∀ d after, rest = d :: after → Token.endsRun d = true) :
    Sliced (text ++ rest) (slices ++ behind) := by
  rw [← List.append_nil slices] at h
  obtain ⟨-, -, -, hother⟩ := h.replace_rest
  rw [htext]
  exact hother rest behind hs fun s _ after hl => hl.of_endsRun hrest

theorem cons_blank {slices : List Slice} (h : Sliced text slices) {c : Char}
    (hc : isBlank c = true) :
    ∃ slices', Sliced (c :: text) slices' ∧
      slices'.map Slice.token = slices.map Slice.token := by
  cases h with
  | nil hb => exact ⟨[], .nil (by simpa [hc] using hb), rfl⟩
  | @cons s rest slices hb hl hs =>
    exact ⟨⟨c :: s.blanks, s.lexeme⟩ :: slices,
      Sliced.cons (s := ⟨c :: s.blanks, s.lexeme⟩) (by simpa [hc] using hb) hl hs, rfl⟩

/-- Up to a mark a text has the same tokens when more follows it. -/
theorem append_of_mark {slices behind : List Slice} {s : Slice} {mark : Char}
    (h : Sliced text (slices ++ s :: behind)) (hs : s.lexeme = [mark])
    (hm : Token.isMarkChar mark = true) (more : List Char) :
    ∃ behind', Sliced (text ++ more) (slices ++ s :: behind') := by
  rw [List.append_cons] at h
  obtain ⟨rest, rfl, -, hother⟩ := h.replace_rest
  obtain ⟨behind', hbehind'⟩ := exists_sliced (rest ++ more)
  have hmore := hother _ _ hbehind' fun last hlast _ _ => by
    have hlast : s = last := by simpa using hlast
    rw [← hlast, hs]
    exact .mark hm
  rw [← List.append_cons, ← List.append_assoc] at hmore
  exact ⟨behind', hmore⟩

end Sliced

end PartitionSize
