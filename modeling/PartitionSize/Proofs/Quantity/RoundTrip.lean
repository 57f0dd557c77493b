import PartitionSize.Proofs.Quantity.Written
import PartitionSize.Proofs.Token.Slices
import PartitionSize.Quantity.SizeOverride
import PartitionSize.Settings.Decode

/-!
# Quantities read back

A quantity is printed as digits and, for a byte size, the largest unit that divides it
(`ByteSize.exists_toText`), so its text is one that the grammar of quantities accepts with the same
value. There is no blank in it, and blanks around it are trimmed. A number needs no grammar, only
the check of its range, and this check rejects the rest of the 64-bit numbers by either route.

In a `COLUMN=SIZE` the name is a token, so it has no blanks either. It is found again unless it has
an equals sign in it, which is the one that would divide the text.
-/

namespace PartitionSize

open Text

/-! ## Numbers -/

namespace Number

theorem isDigit_of_mem_toString {n : Nat} : ∀ c ∈ (toString n).toList, c.isDigit = true := by
  intro c hc
  rw [Nat.toString_eq_ofList_toDigits, String.toList_ofList] at hc
  exact Nat.isDigit_of_mem_toDigits (by decide) (by decide) hc

theorem toString_ne_nil (n : Nat) : (toString n).toList ≠ [] := by
  rw [Nat.toString_eq_ofList_toDigits, String.toList_ofList]
  exact Nat.toDigits_ne_nil

theorem isDigits_toString (n : Nat) : IsDigits (toString n).toList := by
  have hdigit : ∀ c ∈ (toString n).toList, c.isDigit = true := isDigit_of_mem_toString
  cases h : (toString n).toList with
  | nil => exact absurd h (toString_ne_nil n)
  | cons c cs =>
    rw [h, List.forall_mem_cons] at hdigit
    exact ⟨hdigit.1, fun d hd => .inl (hdigit.2 d hd)⟩

theorem decimal_toString (n : Nat) : decimal (toString n).toList = n := by
  rw [← valueOf_eq_decimal (isDigits_toString n).isDigitPart, valueOf,
    List.filter_eq_self.2 isDigit_of_mem_toString, Nat.toString_eq_ofList_toDigits,
    String.toList_ofList]
  exact Nat.ofDigitChars_ten_toDigits

theorem isBlank_of_isDigit {c : Char} (h : c.isDigit = true) : isBlank c = false := by
  have hlow : 48 ≤ c.toNat := by
    simp only [Char.isDigit, Bool.and_eq_true, decide_eq_true_eq] at h
    exact UInt32.le_iff_toNat_le.1 h.1
  have hhigh := toNat_of_isDigitPart ((isDigitPart_iff c).2 (.inl h))
  simp [isBlank]
  omega

theorem isBlank_toString (n : Nat) : ∀ c ∈ (toString n).toList, isBlank c = false :=
  fun c hc => isBlank_of_isDigit (isDigit_of_mem_toString c hc)

end Number

/-! ## Blanks around a text -/

theorem dropBlanks_append {blanks cs : List Char} (hb : ∀ c ∈ blanks, isBlank c = true)
    (hcs : ∀ c ∈ cs, isBlank c = false) (hne : cs ≠ []) (more : List Char) :
    dropBlanks (blanks ++ (cs ++ more)) = cs ++ more := by
  cases cs with
  | nil => exact absurd rfl hne
  | cons c cs =>
    rw [dropBlanks, List.dropWhile_append_of_pos hb]
    exact dropBlanks_cons (hcs c List.mem_cons_self) _

theorem trimChars_append {before cs behind : List Char} (hbefore : ∀ c ∈ before, isBlank c = true)
    (hbehind : ∀ c ∈ behind, isBlank c = true) (hcs : ∀ c ∈ cs, isBlank c = false) (hne : cs ≠ []) :
    trimChars (before ++ cs ++ behind) = cs := by
  have hbehind' : ∀ c ∈ behind.reverse, isBlank c = true := by simpa using hbehind
  have hcs' : ∀ c ∈ cs.reverse, isBlank c = false := by simpa using hcs
  -- The blanks behind are the first ones of the reversed text, and there is nothing behind it.
  have hback := dropBlanks_append hbehind' hcs' (by simpa using hne) []
  rw [List.append_nil] at hback
  rw [trimChars, List.append_assoc, dropBlanks_append hbefore hcs hne, List.reverse_append, hback,
    List.reverse_reverse]

/-! ## Byte sizes -/

namespace ByteSize

variable (b : ByteSize)

/-- The text of a byte size is a number of units. -/
theorem exists_toText : ∃ k name factor, (name, factor) ∈ units ∧ b.toText = toString k ++ name ∧
    b.bytes = k * factor := by
  have hdiv : ∀ factor, b.bytes % factor = 0 → b.bytes = b.bytes / factor * factor :=
    fun factor h => (Nat.div_mul_cancel (Nat.dvd_of_mod_eq_zero h)).symm
  unfold toText
  dsimp only
  -- Each unit is tried by divisibility, so what is printed is multiplied back exactly.
  split
  · next h => exact ⟨0, "B", 1, by decide, rfl, by omega⟩
  split
  · next h => exact ⟨_, "GB", _, by decide, rfl, hdiv _ h⟩
  split
  · next h => exact ⟨_, "MB", _, by decide, rfl, hdiv _ h⟩
  split
  · next h => exact ⟨_, "KB", _, by decide, rfl, hdiv _ h⟩
  · exact ⟨_, "B", 1, by decide, rfl, (Nat.mul_one _).symm⟩

theorem written_toText : Number.Written Unit b.toText.toList b.bytes := by
  obtain ⟨k, name, factor, hm, htext, hbytes⟩ := b.exists_toText
  have hupper : ∀ u ∈ units, u.1.toList.map Char.toUpper = u.1.toList := by decide
  have hunit : Unit name.toList factor :=
    hasFactor_units_iff.1 (.inr ⟨name, hm, (hupper _ hm).symm⟩)
  have hwritten := Number.Written.mk (Number.isDigits_toString k) hunit
  rw [Number.decimal_toString] at hwritten
  rw [htext, hbytes, String.toList_append]
  exact hwritten

theorem isBlank_toText : ∀ c ∈ b.toText.toList, isBlank c = false := by
  obtain ⟨k, name, factor, hm, htext, -⟩ := b.exists_toText
  have hunits : ∀ u ∈ units, u.1.toList.all (!isBlank ·) = true := by decide
  rw [htext, String.toList_append, List.forall_mem_append]
  exact ⟨Number.isBlank_toString k, by simpa using hunits _ hm⟩

theorem toText_ne_nil : b.toText.toList ≠ [] := by
  obtain ⟨k, name, factor, hm, htext, -⟩ := b.exists_toText
  rw [htext, String.toList_append]
  exact List.append_ne_nil_of_left_ne_nil (Number.toString_ne_nil k) _

/-- The text of a byte size is read as this byte size, also with blanks around it. -/
theorem parse_append_toText {before behind : String}
    (hbefore : ∀ c ∈ before.toList, isBlank c = true)
    (hbehind : ∀ c ∈ behind.toList, isBlank c = true) :
    parse (before ++ b.toText ++ behind) = .ok b := by
  have htrim : trimChars (before ++ b.toText ++ behind).toList = b.toText.toList := by
    rw [String.toList_append, String.toList_append]
    exact trimChars_append hbefore hbehind b.isBlank_toText b.toText_ne_nil
  have hfits : b.bytes < Number.unsignedBound := Nat.lt_trans b.bytes_lt (by decide)
  rw [parse_of_read (by rw [htrim]; exact read_eq_ok_iff.2 ⟨b.written_toText, hfits⟩)]
  exact b.ofNat_bytes

theorem parse_toText : parse b.toText = .ok b := by
  have h : parse ("" ++ b.toText ++ "") = .ok b := b.parse_append_toText (by simp) (by simp)
  rwa [String.empty_append, String.append_empty] at h

end ByteSize

/-! ## Bare numbers -/

/-- The text of a number without a unit is written with any units that may be left out. -/
theorem Number.written_toString {Unit : List Char → Nat → Prop} (h : Unit [] 1) (n : Nat) :
    Written Unit (trimChars (toString n).toList) n := by
  have hwritten := Written.mk (isDigits_toString n) h
  have htrim : trimChars ([] ++ (toString n).toList ++ []) = (toString n).toList :=
    trimChars_append (by simp) (by simp) (isBlank_toString n) (toString_ne_nil n)
  rw [List.append_nil, decimal_toString, Nat.mul_one] at hwritten
  rw [List.append_nil, List.nil_append] at htrim
  rwa [htrim]

theorem RowCount.parse_toString {n : Nat} (h : n < Number.unsignedBound) :
    parse (toString n) = ofNat n := by
  apply parse_of_read
  rw [Number.read_eq_ok_iff unambiguous_units, hasFactor_units]
  exact ⟨Number.written_toString .none n, h⟩

theorem RowCount.ofScalar_number {n : Nat} (h : n < Number.unsignedBound) :
    ofScalar (.number n) = ofNat n := by
  rw [ofScalar, if_pos ⟨Int.natCast_nonneg n, Int.ofNat_lt.2 h⟩, Int.toNat_natCast]

theorem RowCount.ofNat_of_le {n : Nat} (h : Number.signedBound ≤ n) :
    ofNat n = .error (.tooLarge n) :=
  dif_neg (Nat.not_lt.2 h)

theorem ByteSize.parse_toString {n : Nat} (h : n < Number.unsignedBound) :
    parse (toString n) = ofNat n :=
  parse_of_read (read_eq_ok_iff.2 ⟨Number.written_toString .none n, h⟩)

theorem ByteSize.ofScalar_number {n : Nat} (h : n < Number.unsignedBound) :
    ofScalar (.number n) = ofNat n := by
  rw [ofScalar, if_pos ⟨Int.natCast_nonneg n, Int.ofNat_lt.2 h⟩, Int.toNat_natCast]

theorem ByteSize.ofNat_of_le {n : Nat} (h : Number.signedBound ≤ n) :
    ofNat n = .error (.tooLarge n) :=
  dif_neg (Nat.not_lt.2 h)

/-! ## Sizes of columns -/

namespace SizeOverride

theorem splitAtEquals_append {front : String} (h : '=' ∉ front.toList) (after : String) :
    splitAtEquals (front ++ "=" ++ after) = some (front, after) := by
  have hfront : ∀ c ∈ front.toList, (c != '=') = true := by
    intro c hc
    have hne : c ≠ '=' := fun heq => h (heq ▸ hc)
    simpa using hne
  have htext : (front ++ "=" ++ after).toList = front.toList ++ '=' :: after.toList := by simp
  have hdrop :
      (front.toList ++ '=' :: after.toList).dropWhile (· != '=') = '=' :: after.toList := by
    rw [List.dropWhile_append_of_pos hfront]
    rfl
  have htake : (front.toList ++ '=' :: after.toList).takeWhile (· != '=') = front.toList := by
    rw [List.takeWhile_append_of_pos hfront]
    simp
  rw [splitAtEquals, htext, hdrop, htake, String.ofList_toList]
  dsimp only
  rw [String.ofList_toList]

/-- A name without an equals sign is found again, and so is a size that is read. -/
theorem parse_name_equals {before name behind after : String} {b : ByteSize}
    (hbefore : ∀ c ∈ before.toList, isBlank c = true)
    (hbehind : ∀ c ∈ behind.toList, isBlank c = true)
    (hname : Token.Lexeme name.toList []) (hequals : '=' ∉ name.toList)
    (hsize : ByteSize.parse after = .ok b) :
    parse (before ++ name ++ behind ++ "=" ++ after) = .ok ⟨name, b⟩ := by
  have hblank : ∀ s : String, (∀ c ∈ s.toList, isBlank c = true) → '=' ∉ s.toList := by
    intro s hs hm
    have := hs _ hm
    cases this
  have hfront : '=' ∉ (before ++ name ++ behind).toList := by
    simp only [String.toList_append, List.mem_append, not_or]
    exact ⟨⟨hblank _ hbefore, hequals⟩, hblank _ hbehind⟩
  have htrim : trim (before ++ name ++ behind) = name := by
    rw [trim, String.toList_append, String.toList_append,
      trimChars_append hbefore hbehind hname.isBlank_eq_false hname.ne_nil, String.ofList_toList]
  have hne : name ≠ "" := by
    rintro rfl
    exact hname.ne_nil rfl
  rw [parse, splitAtEquals_append hfront]
  dsimp only
  rw [htrim, if_neg hne, hsize]

end SizeOverride

/-! ## Values of a settings file -/

namespace ValueError

theorem isShort_of_lt {n : Nat} (h : n < Number.unsignedBound) : isShort n = true := by
  have hlow : (-0x8000000000000000 : Int) ≤ n := by omega
  have hhigh : (n : Int) < 0x10000000000000000 := Int.ofNat_lt.2 h
  simp [isShort, hlow, hhigh]

/-- A number of 64 bits is no error of its own, whether it is kept or not. -/
theorem integer?_of_isShort {n : Int} (h : isShort n = true) (kept : Bool) :
    integer? kept n = none := by
  have hword : integerWord? n = some ("integer `" ++ toString n ++ "`") := if_pos h
  rw [integer?, hword]
  dsimp only
  rw [h, Bool.not_true, Bool.and_false]
  rfl

end ValueError

namespace Settings

variable {α : Type} {ofScalar : Scalar → Except QuantityError α} {a : α}
  (message : QuantityError → String) (place span : Toml.Span)

theorem quantityOf_string {s : String} (h : ofScalar (.text s) = .ok a) :
    quantityOf ofScalar message place (.mk span (.string s)) = .ok a := by
  simp [quantityOf, ValueError.inside?, Toml.Node.value, h]

theorem quantityOf_integer {n : Nat} (hn : n < Number.unsignedBound)
    (h : ofScalar (.number n) = .ok a) :
    quantityOf ofScalar message place (.mk span (.integer n)) = .ok a := by
  rw [quantityOf, ValueError.inside?, ValueError.integer?_of_isShort (ValueError.isShort_of_lt hn)]
  simp [Toml.Node.value, h]

end Settings

/-! ## Every route -/

/-- **Quantities read back by every route.** A byte size is written as its text, also as a value, and
is read back from that text, alone or behind the name of a column, and from its number. A row count
is read back from its text and from its number. A number of 64 bits that 63 do not hold is read from
neither. -/
theorem Number.quantities_read_back :
    (∀ b : ByteSize,
      ByteSize.parse b.toText = .ok b ∧
      b.toScalar = .text b.toText ∧
      ByteSize.ofScalar b.toScalar = .ok b ∧
      ByteSize.ofScalar (.number b.bytes) = .ok b ∧
      (∀ message place span,
        Settings.quantityOf ByteSize.ofScalar message place (.mk span (.string b.toText)) = .ok b ∧
        Settings.quantityOf ByteSize.ofScalar message place (.mk span (.integer b.bytes)) = .ok b) ∧
      ∀ text name, name ∈ Token.scan text → '=' ∉ name.toList →
        ∀ s₁ s₂ s₃ s₄ : String, (∀ s ∈ [s₁, s₂, s₃, s₄], ∀ c ∈ s.toList, isBlank c = true) →
          SizeOverride.parse (s₁ ++ name ++ s₂ ++ "=" ++ (s₃ ++ b.toText ++ s₄)) = .ok ⟨name, b⟩) ∧
    (∀ r : RowCount,
      RowCount.parse r.toText = .ok r ∧
      RowCount.ofScalar (.number r.count) = .ok r ∧
      ∀ message place span,
        Settings.quantityOf RowCount.ofScalar message place (.mk span (.string r.toText)) = .ok r ∧
        Settings.quantityOf RowCount.ofScalar message place (.mk span (.integer r.count)) = .ok r) ∧
    ∀ n, signedBound ≤ n → n < unsignedBound →
      (ByteSize.ofScalar (.number n) = .error (.tooLarge n) ∧
        ByteSize.parse (toString n) = .error (.tooLarge n)) ∧
      (RowCount.ofScalar (.number n) = .error (.tooLarge n) ∧
        RowCount.parse (toString n) = .error (.tooLarge n)) := by
  have hbound : ∀ n, n < signedBound → n < unsignedBound := fun n h => Nat.lt_trans h (by decide)
  refine ⟨fun b => ?_, fun r => ?_, fun n hlow hhigh => ⟨⟨?_, ?_⟩, ?_, ?_⟩⟩
  · have hn := hbound _ b.bytes_lt
    have hnumber : ByteSize.ofScalar (.number b.bytes) = .ok b := by
      rw [ByteSize.ofScalar_number hn, b.ofNat_bytes]
    refine ⟨b.parse_toText, rfl, b.parse_toText, hnumber, fun message place span => ?_, ?_⟩
    · exact ⟨Settings.quantityOf_string _ _ _ b.parse_toText,
        Settings.quantityOf_integer _ _ _ hn hnumber⟩
    · intro text name hname hequals s₁ s₂ s₃ s₄ hblank
      have hsize : ByteSize.parse (s₃ ++ b.toText ++ s₄) = .ok b :=
        b.parse_append_toText (hblank _ (by simp)) (hblank _ (by simp))
      exact SizeOverride.parse_name_equals (hblank _ (by simp)) (hblank _ (by simp))
        (Token.lexeme_of_mem_scan hname) hequals hsize
  · have hn := hbound _ r.count_lt
    have htext : RowCount.parse r.toText = .ok r := by
      rw [RowCount.toText, RowCount.parse_toString hn, r.ofNat_count]
    have hnumber : RowCount.ofScalar (.number r.count) = .ok r := by
      rw [RowCount.ofScalar_number hn, r.ofNat_count]
    refine ⟨htext, hnumber, fun message place span => ?_⟩
    exact ⟨Settings.quantityOf_string _ _ _ htext, Settings.quantityOf_integer _ _ _ hn hnumber⟩
  · rw [ByteSize.ofScalar_number hhigh, ByteSize.ofNat_of_le hlow]
  · rw [ByteSize.parse_toString hhigh, ByteSize.ofNat_of_le hlow]
  · rw [RowCount.ofScalar_number hhigh, RowCount.ofNat_of_le hlow]
  · rw [RowCount.parse_toString hhigh, RowCount.ofNat_of_le hlow]

/-- A size of a column of the table, with blanks around name and size, and the first number that is
too large. -/
theorem Number.quantities_read_back_of_overrides :
    let size : ByteSize := ⟨65536, by decide⟩
    size.toText = "64KB" ∧
    SizeOverride.parse "\tgröße =64KB " = .ok ⟨"größe", size⟩ ∧
    RowCount.parse "9223372036854775808" = .error (.tooLarge 9223372036854775808) := by
  intro size
  obtain ⟨hsizes, -, hlarge⟩ := quantities_read_back
  have hname : "größe" ∈ Token.scan "CREATE TABLE t(größe blob);".toList := by decide +kernel
  have hall : ["\t", " ", "", " "].all (fun s => s.toList.all isBlank) = true := by decide
  have hblank : ∀ s ∈ ["\t", " ", "", " "], ∀ c ∈ s.toList, isBlank c = true :=
    fun s hs => List.all_eq_true.1 (List.all_eq_true.1 hall s hs)
  obtain ⟨-, -, -, -, -, hnamed⟩ := hsizes size
  have hoverride := hnamed _ "größe" hname (by decide) _ _ _ _ hblank
  have htext : "\t" ++ "größe" ++ " " ++ "=" ++ ("" ++ size.toText ++ " ") = "\tgröße =64KB " := by
    decide +kernel
  rw [htext] at hoverride
  obtain ⟨-, -, hrows⟩ := hlarge 9223372036854775808 (by decide) (by decide)
  have hdigits : toString 9223372036854775808 = "9223372036854775808" := by decide +kernel
  rw [hdigits] at hrows
  exact ⟨by decide +kernel, hoverride, hrows⟩

end PartitionSize
