import PartitionSize.Token.Cursor

/-!
# A cursor stays in its text

A cursor carries the text behind its place, so it cannot read past the end of it. What it shows, and
what a text is cut by, are offsets in bytes. They are places of the text whatever the cursor is told
to do.

* **Moving on** (`Text.Spot.Passes`): from one place to a later one some characters are passed, and
  the offset grows by their bytes. `Cursor.next_cases` says so of all that a read can do.
* **Places** (`Cursor.Places`): a property that moving on keeps holds of all places of a cursor,
  those recorded included, after every step.
* **Order** (`Cursor.InText`): the places recorded increase up to the cursor's own, and a token
  starts at each of them. Every step keeps that (`InText.step`), in any order (`forall_run`).
* **Slices** (`run_inBounds`): every offset of a run is where a character of the text begins or the
  text ends, and a token is the text between two of them.
-/

namespace PartitionSize

open Text

/-! ## Bytes -/

theorem Text.byteLength_eq (cs : List Char) : byteLength cs = (String.ofList cs).utf8ByteSize := by
  induction cs with
  | nil => rfl
  | cons c cs ih =>
    rw [byteLength_cons, ih, String.ofList_cons, String.utf8ByteSize_append,
      String.utf8ByteSize_singleton]

theorem Text.byteLength_pos {cs : List Char} (h : cs ≠ []) : 0 < byteLength cs :=
  Nat.lt_of_lt_of_le (List.length_pos_iff.2 h) (length_le_byteLength cs)

/-- The bytes of a text between two others. -/
theorem Text.extract_toByteArray (a b c : String) :
    (a ++ b ++ c).toByteArray.extract a.utf8ByteSize (a.utf8ByteSize + b.utf8ByteSize) =
      b.toByteArray := by
  have hsize : a.utf8ByteSize = a.toByteArray.size + 0 := by
    rw [String.size_toByteArray, Nat.add_zero]
  rw [String.append_assoc, String.toByteArray_append, String.toByteArray_append, hsize,
    Nat.add_zero, ← String.size_toByteArray (s := b)]
  conv => lhs; arg 2; rw [← Nat.add_zero a.toByteArray.size]
  rw [ByteArray.extract_append_size_add, ByteArray.extract_append_size_left,
    ByteArray.extract_zero_size]

/-! ## Moving on -/

namespace Text.Spot

/-- From the place `s` to the place `s'` the characters `cs` are passed. -/
structure Passes (s : Spot) (cs : List Char) (s' : Spot) : Prop where
  rest : s.rest = cs ++ s'.rest
  offset : s'.offset = s.offset + byteLength cs

theorem Passes.trans {s s' s'' : Spot} {cs ds : List Char} (h : s.Passes cs s')
    (h' : s'.Passes ds s'') : s.Passes (cs ++ ds) s'' := by
  constructor
  · rw [h.rest, h'.rest, List.append_assoc]
  · rw [h'.offset, h.offset, byteLength_append, Nat.add_assoc]

theorem Passes.le {s s' : Spot} {cs : List Char} (h : s.Passes cs s') : s.offset ≤ s'.offset := by
  rw [h.offset]
  exact Nat.le_add_right _ _

theorem Passes.lt {s s' : Spot} {cs : List Char} (h : s.Passes cs s') (hcs : cs ≠ []) :
    s.offset < s'.offset := by
  have hpos : 0 < byteLength cs := byteLength_pos hcs
  rw [h.offset]
  omega

theorem passes_skipBlanks (s : Spot) : s.Passes (s.rest.takeWhile isBlank) s.skipBlanks :=
  ⟨List.takeWhile_append_dropWhile.symm, rfl⟩

/-- A token is what is passed by reading it, and it does not begin with a blank. -/
theorem passes_token {s s' : Spot} {t : Token} (h : s.token? = some (t, s')) :
    s.Passes t.toList s' ∧ t.toList ≠ [] := by
  unfold token? at h
  split at h
  · cases h
  · next n hn =>
    have hne : s.rest ≠ [] := by
      intro hnil
      rw [hnil] at hn
      cases hn
    cases h
    rw [String.toList_ofList]
    refine ⟨⟨(List.take_append_drop _ _).symm, rfl⟩, ?_⟩
    simp [hne]

/-- A token can start here: the next character is not blank. -/
def IsStart (s : Spot) : Prop := ∃ c rest, s.rest = c :: rest ∧ isBlank c = false

theorem isStart_skipBlanks {s : Spot} (h : s.skipBlanks.rest ≠ []) : s.skipBlanks.IsStart := by
  obtain ⟨c, rest, hrest⟩ := List.exists_cons_of_ne_nil h
  exact ⟨c, rest, hrest, head_dropBlanks hrest⟩

end Text.Spot

namespace Cursor

/-- All that a read can do: it passes the blanks and then a token, and records the place between
them, or it passes the blanks and records nothing. -/
theorem next_cases (c : Cursor) :
    (∃ blanks stop, c.spot.Passes blanks stop ∧ c.next = (none, ⟨stop, c.history⟩)) ∨
    ∃ blanks start t stop, c.spot.Passes blanks start ∧ start.Passes t.toList stop ∧
      t.toList ≠ [] ∧ start.IsStart ∧ c.next = (some t, ⟨stop, start :: c.history⟩) := by
  have hblanks := c.spot.passes_skipBlanks
  cases h : c.spot.skipBlanks.token? with
  | none => exact .inl ⟨_, _, hblanks, by rw [next, h]⟩
  | some r =>
    obtain ⟨t, stop⟩ := r
    obtain ⟨htoken, hne⟩ := Spot.passes_token h
    have hrest : c.spot.skipBlanks.rest ≠ [] := by
      rw [htoken.rest]
      exact List.append_ne_nil_of_left_ne_nil hne _
    exact .inr ⟨_, _, t, stop, hblanks, htoken, hne, Spot.isStart_skipBlanks hrest,
      by rw [next, h]⟩

/-! ## Places -/

/-- All places of a cursor, its own and those it recorded, have a property. -/
structure Places (P : Spot → Prop) (c : Cursor) : Prop where
  spot : P c.spot
  history : ∀ s ∈ c.history, P s

/-- A property of places that is kept where characters are passed. -/
def Onward (P : Spot → Prop) : Prop := ∀ {s cs s'}, s.Passes cs s' → P s → P s'

namespace Places

variable {P : Spot → Prop} {c : Cursor}

theorem next (hP : Onward P) (h : c.Places P) : c.next.2.Places P := by
  obtain ⟨blanks, stop, hb, hn⟩ | ⟨blanks, start, t, stop, hb, ht, -, -, hn⟩ := c.next_cases
  · rw [hn]
    exact ⟨hP hb h.spot, h.history⟩
  · rw [hn]
    exact ⟨hP ht (hP hb h.spot), List.forall_mem_cons.2 ⟨hP hb h.spot, h.history⟩⟩

theorem undo (h : c.Places P) : c.undo.Places P := by
  obtain ⟨spot, history⟩ := c
  cases history with
  | nil => exact h
  | cons s older =>
    obtain ⟨hs, holder⟩ := List.forall_mem_cons.1 h.history
    exact ⟨hs, holder⟩

theorem undoAll (h : c.Places P) : c.undoAll.Places P := by
  unfold Cursor.undoAll
  split
  · exact h
  · next s hs => exact ⟨h.history s (List.mem_of_getLast? hs), by simp⟩

theorem resetHistory (h : c.Places P) : c.resetHistory.Places P :=
  ⟨h.spot, fun _ hs => absurd hs List.not_mem_nil⟩

end Places

end Cursor

/-! ## Places of a text -/

/-- A place of the text: it is reached from the start by passing what stands before it. -/
def Text.Spot.In (text : List Char) (s : Spot) : Prop :=
  ∃ before, (Spot.start text).Passes before s

namespace Text.Spot

theorem onward_in (text : List Char) : Cursor.Onward (Spot.In text) := by
  rintro s cs s' h ⟨before, hbefore⟩
  exact ⟨before ++ cs, hbefore.trans h⟩

theorem In.exists_append {text : String} {s : Spot} (h : s.In text.toList) :
    ∃ before : String, text = before ++ String.ofList s.rest ∧
      before.utf8ByteSize = s.offset := by
  obtain ⟨before, hrest, hoffset⟩ := h
  refine ⟨String.ofList before, ?_, ?_⟩
  · apply String.toList_injective
    rw [String.toList_append, String.toList_ofList, String.toList_ofList]
    exact hrest
  · rw [hoffset, ← byteLength_eq]
    exact (Nat.zero_add _).symm

theorem In.isValid {text : String} {s : Spot} (h : s.In text.toList) :
    String.Pos.Raw.IsValid text ⟨s.offset⟩ := by
  obtain ⟨before, htext, hoffset⟩ := h.exists_append
  rw [String.Pos.Raw.isValid_iff_exists_append, ← hoffset]
  exact ⟨before, String.ofList s.rest, htext, rfl⟩

/-- What is passed is the text between two offsets. -/
theorem In.slice {text : String} {s s' : Spot} {cs : List Char} (h : s.In text.toList)
    (hcs : s.Passes cs s') :
    text.toByteArray.extract s.offset s'.offset = (String.ofList cs).toByteArray := by
  obtain ⟨before, htext, hoffset⟩ := h.exists_append
  rw [hcs.offset, byteLength_eq, ← hoffset, htext, hcs.rest, String.ofList_append,
    ← String.append_assoc]
  exact extract_toByteArray before (String.ofList cs) (String.ofList s'.rest)

/-- The end of the text is ahead of every place. -/
theorem In.exists_end {text : String} {s : Spot} (h : s.In text.toList) :
    ∃ stop, s.Passes s.rest stop ∧ stop.offset = text.utf8ByteSize := by
  obtain ⟨before, htext, hoffset⟩ := h.exists_append
  refine ⟨⟨s.offset + byteLength s.rest, []⟩, ⟨(List.append_nil _).symm, rfl⟩, ?_⟩
  change s.offset + byteLength s.rest = _
  rw [byteLength_eq, ← hoffset, ← String.utf8ByteSize_append, ← htext]

theorem IsStart.exists_append {text : String} {s : Spot} (hs : s.IsStart) (h : s.In text.toList) :
    ∃ before d after, text = before ++ String.singleton d ++ after ∧
      before.utf8ByteSize = s.offset ∧ isBlank d = false := by
  obtain ⟨d, rest, hrest, hd⟩ := hs
  obtain ⟨before, htext, hoffset⟩ := h.exists_append
  refine ⟨before, d, String.ofList rest, ?_, hoffset, hd⟩
  rw [htext, hrest, String.ofList_cons, String.append_assoc]

end Text.Spot

namespace Cursor

/-- The cursor is in the text, and so are the places it recorded: a token starts at each of them,
and each comes before those recorded later and before the cursor's own. -/
structure InText (text : List Char) (c : Cursor) : Prop where
  places : c.Places (Spot.In text)
  starts : ∀ s ∈ c.history, s.IsStart
  order : (c.spot :: c.history).Pairwise fun s older => older.offset < s.offset

theorem inText_ofText (text : String) : (ofText text).InText text.toList :=
  ⟨⟨⟨[], rfl, rfl⟩, fun _ hs => absurd hs List.not_mem_nil⟩, fun _ hs => absurd hs List.not_mem_nil,
    List.pairwise_singleton _ _⟩

namespace InText

variable {text : List Char} {c : Cursor}

theorem next (h : c.InText text) : c.next.2.InText text := by
  have hplaces := h.places.next (Spot.onward_in text)
  obtain ⟨hlt, horder⟩ := List.pairwise_cons.1 h.order
  obtain ⟨blanks, stop, hb, hn⟩ | ⟨blanks, start, t, stop, hb, ht, hne, hs, hn⟩ := c.next_cases
  · rw [hn] at hplaces ⊢
    refine ⟨hplaces, h.starts, List.pairwise_cons.2 ⟨fun s hs => ?_, horder⟩⟩
    exact Nat.lt_of_lt_of_le (hlt s hs) hb.le
  · rw [hn] at hplaces ⊢
    refine ⟨hplaces, List.forall_mem_cons.2 ⟨hs, h.starts⟩, ?_⟩
    have hstart : ∀ s ∈ c.history, s.offset < start.offset :=
      fun s hs => Nat.lt_of_lt_of_le (hlt s hs) hb.le
    -- the new record comes first, and all older ones lie before it
    refine List.pairwise_cons.2 ⟨?_, List.pairwise_cons.2 ⟨hstart, horder⟩⟩
    rw [List.forall_mem_cons]
    exact ⟨ht.lt hne, fun s hs => Nat.lt_trans (hstart s hs) (ht.lt hne)⟩

theorem undo (h : c.InText text) : c.undo.InText text := by
  have hplaces := h.places.undo
  obtain ⟨spot, history⟩ := c
  cases history with
  | nil => exact h
  | cons s older =>
    exact ⟨hplaces, (List.forall_mem_cons.1 h.starts).2, (List.pairwise_cons.1 h.order).2⟩

theorem undoAll (h : c.InText text) : c.undoAll.InText text := by
  have hplaces := h.places.undoAll
  unfold Cursor.undoAll at hplaces ⊢
  split at hplaces
  · exact h
  · exact ⟨hplaces, fun _ hs => absurd hs List.not_mem_nil, List.pairwise_singleton _ _⟩

theorem resetHistory (h : c.InText text) : c.resetHistory.InText text :=
  ⟨h.places.resetHistory, fun _ hs => absurd hs List.not_mem_nil, List.pairwise_singleton _ _⟩

/-- **One step**, whichever it is. -/
theorem step (h : c.InText text) (s : Step) : (c.step s).2.InText text := by
  cases s with
  | next => exact h.next
  | undo => exact h.undo
  | undoAll => exact h.undoAll
  | resetHistory => exact h.resetHistory

end InText

/-- What every step keeps holds all along a run. -/
theorem forall_run {I : Cursor → Prop} (hstep : ∀ c s, I c → I (c.step s).2) {c : Cursor} (h : I c)
    (steps : List Step) : ∀ r ∈ c.run steps, I r.2 := by
  induction steps generalizing c with
  | nil => exact fun _ hr => absurd hr List.not_mem_nil
  | cons s steps ih =>
    rw [run, List.forall_mem_cons]
    exact ⟨hstep c s h, ih (hstep c s h)⟩

/-! ## Slices -/

/-- A read that takes the cursor from `c` to `c'` cuts the token `t` out of the text: `t` is what
stands between the place that is recorded and the one where the cursor is then. -/
def Cuts (text : String) (c : Cursor) (t : Token) (c' : Cursor) : Prop :=
  ∃ start, c'.history = start :: c.history ∧ c.position ≤ start.offset ∧
    start.offset < c'.position ∧ String.Pos.Raw.IsValid text ⟨start.offset⟩ ∧
    String.Pos.Raw.IsValid text ⟨c'.position⟩ ∧
    text.toByteArray.extract start.offset c'.position = t.toByteArray

/-- The offsets of a cursor are such as a text can be cut at. -/
structure InBounds (text : String) (c : Cursor) : Prop where
  /-- The cursor is not behind the end. -/
  position_le : c.position ≤ text.utf8ByteSize
  /-- It is not inside a character. -/
  position_isValid : String.Pos.Raw.IsValid text ⟨c.position⟩
  /-- What it has still to read is the text from there on. -/
  slice_rest : text.toByteArray.extract c.position text.utf8ByteSize =
    (String.ofList c.spot.rest).toByteArray
  /-- The places recorded, the oldest first, increase. -/
  history_increasing : (c.history.reverse.map Spot.offset).Pairwise (· < ·)
  /-- They are before the cursor. -/
  history_lt : ∀ s ∈ c.history, s.offset < c.position
  /-- A character that is not blank begins at each of them. -/
  history_start : ∀ s ∈ c.history, ∃ before d after, text = before ++ String.singleton d ++ after ∧
    before.utf8ByteSize = s.offset ∧ isBlank d = false
  /-- A read that succeeds moves the cursor on, and a token is cut out. -/
  next : ∀ t c', c.next = (some t, c') → c.position < c'.position ∧ c.Cuts text t c'

theorem InText.cuts_of_next {text : String} {c c' : Cursor} {t : Token} (h : c.InText text.toList)
    (hnext : c.next = (some t, c')) : c.position < c'.position ∧ c.Cuts text t c' := by
  have hplaces := h.places.next (Spot.onward_in text.toList)
  obtain ⟨blanks, stop, hb, hn⟩ | ⟨blanks, start, t', stop, hb, ht, hne, -, hn⟩ := c.next_cases
  · rw [hnext] at hn
    cases hn
  · rw [hn] at hnext hplaces
    cases hnext
    have hstart : start.In text.toList := hplaces.history start List.mem_cons_self
    have hslice := hstart.slice ht
    rw [String.ofList_toList] at hslice
    exact ⟨Nat.lt_of_le_of_lt hb.le (ht.lt hne), start, rfl, hb.le, ht.lt hne, hstart.isValid,
      hplaces.spot.isValid, hslice⟩

theorem InText.inBounds {text : String} {c : Cursor} (h : c.InText text.toList) :
    c.InBounds text := by
  have hspot : c.spot.In text.toList := h.places.spot
  obtain ⟨hlt, horder⟩ := List.pairwise_cons.1 h.order
  obtain ⟨stop, hend, hstop⟩ := hspot.exists_end
  constructor
  · rw [← hstop]
    exact hend.le
  · exact hspot.isValid
  · rw [← hstop]
    exact hspot.slice hend
  · rw [List.pairwise_map, List.pairwise_reverse]
    exact horder
  · exact hlt
  · exact fun s hs => (h.starts s hs).exists_append (h.places.history s hs)
  · exact fun t c' hnext => h.cuts_of_next hnext

/-- **A cursor cuts its text between characters.** Whatever a new cursor is told to do, all along
the run its place and those it recorded are where characters of the text begin, or its end, in
increasing order; every read that succeeds moves it on, and what is read is the text between two
such places. -/
theorem run_inBounds (text : String) (steps : List Step) :
    ∀ c ∈ ofText text :: ((ofText text).run steps).map Prod.snd, c.InBounds text := by
  rw [List.forall_mem_cons, List.forall_mem_map]
  refine ⟨(inText_ofText text).inBounds, fun r hr => ?_⟩
  have htext := forall_run (fun c s (h : c.InText text.toList) => h.step s) (inText_ofText text)
    steps r hr
  exact htext.inBounds

/-- A read that meets nothing but blanks moves the cursor to the end and leaves the records alone.
The first character takes two bytes. -/
theorem run_inBounds_behind_blanks :
    let c : Cursor := ⟨⟨5, []⟩, [⟨3, ['b', ' ']⟩, ⟨0, ['é', ' ', 'b', ' ']⟩]⟩
    c ∈ ofText "é b " :: ((ofText "é b ").run [.next, .next, .next]).map Prod.snd ∧
      c.InBounds "é b " := by
  intro c
  have hc : c ∈ ofText "é b " :: ((ofText "é b ").run [.next, .next, .next]).map Prod.snd := by
    decide +kernel
  exact ⟨hc, run_inBounds "é b " [.next, .next, .next] c hc⟩

end Cursor

end PartitionSize
