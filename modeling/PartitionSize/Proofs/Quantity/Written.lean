import PartitionSize.Quantity.RowCount
import PartitionSize.Quantity.ByteSize
import Mathlib.Data.List.TakeWhile

/-!
# What a quantity accepts

`Number.Written` says what the text of a quantity is: digits with underscores behind the first of
them, and a unit, which gives the factor. It does not say how the text is read. Reading with a table
of units (`Number.read_eq_ok_iff`) accepts what is written with one of them and fits into 64 bits,
and gives the number that is written, if the units can be told from each other and from digits
(`Number.Unambiguous`).

Row counts and byte sizes read with their own tables, and want 63 bits
(`RowCount.parse_iff_written`, `ByteSize.parse_iff_written`). A byte size is read in upper case,
which changes the unit and not the digits (`Number.written_map_toUpper_iff`).
-/

namespace PartitionSize

open Text

namespace Number

/-! ## Digits -/

/-- A digit, then digits and underscores. -/
def IsDigits : List Char → Prop
  | [] => False
  | c :: cs => c.isDigit = true ∧ ∀ d ∈ cs, d.isDigit = true ∨ d = '_'

/-- The number that digits write; underscores do not count. -/
def decimal (digits : List Char) : Nat :=
  digits.foldl (fun n c => if c = '_' then n else 10 * n + (c.toNat - '0'.toNat)) 0

theorem isDigitPart_iff (c : Char) : isDigitPart c = true ↔ c.isDigit = true ∨ c = '_' := by
  simp [isDigitPart]

theorem IsDigits.isDigitPart {digits : List Char} (h : IsDigits digits) :
    ∀ c ∈ digits, isDigitPart c = true := by
  cases digits with
  | nil => cases h
  | cons c cs =>
    refine List.forall_mem_cons.2 ⟨(isDigitPart_iff c).2 (.inl h.1), fun d hd => ?_⟩
    exact (isDigitPart_iff d).2 (h.2 d hd)

theorem IsDigits.ne_nil {digits : List Char} (h : IsDigits digits) : digits ≠ [] := by
  rintro rfl
  exact h

theorem valueOf_eq_decimal {digits : List Char} (h : ∀ c ∈ digits, isDigitPart c = true) :
    valueOf digits = decimal digits := by
  suffices hs : ∀ n, Nat.ofDigitChars 10 (digits.filter Char.isDigit) n =
      digits.foldl (fun n c => if c = '_' then n else 10 * n + (c.toNat - '0'.toNat)) n from hs 0
  induction digits with
  | nil => exact fun n => rfl
  | cons c cs ih =>
    rw [List.forall_mem_cons, isDigitPart_iff] at h
    intro n
    rw [List.foldl_cons, ← ih h.2]
    by_cases hc : c = '_'
    · subst hc
      rfl
    · have hd : c.isDigit = true := h.1.resolve_right hc
      rw [List.filter_cons_of_pos hd, Nat.ofDigitChars_cons, if_neg hc]

theorem digitPart_append {digits rest : List Char} (h : IsDigits digits)
    (hrest : ∀ c ∈ rest.head?, isDigitPart c = false) : digitPart (digits ++ rest) = digits := by
  cases digits with
  | nil => cases h
  | cons c cs =>
    have hall : ∀ d ∈ cs, isDigitPart d = true := fun d hd => (isDigitPart_iff d).2 (h.2 d hd)
    have hnone : rest.takeWhile isDigitPart = [] := by
      cases rest with
      | nil => rfl
      | cons d after => simp [hrest d rfl]
    rw [List.cons_append, digitPart, if_pos h.1, List.takeWhile_append_of_pos hall, hnone,
      List.append_nil]

theorem isDigits_digitPart {cs : List Char} (h : digitPart cs ≠ []) :
    IsDigits (digitPart cs) ∧ cs = digitPart cs ++ cs.drop (digitPart cs).length := by
  cases cs with
  | nil => exact absurd rfl h
  | cons c cs =>
    by_cases hc : c.isDigit = true
    · rw [digitPart, if_pos hc]
      refine ⟨⟨hc, fun d hd => (isDigitPart_iff d).1 (List.mem_takeWhile_imp hd)⟩, ?_⟩
      rw [List.cons_append, List.length_cons, List.drop_succ_cons]
      congr 1
      exact (List.prefix_iff_eq_append.1 (List.takeWhile_prefix isDigitPart)).symm
    · rw [digitPart, if_neg hc] at h
      exact absurd rfl h

/-! ## Units -/

/-- What is written with units: digits and one unit behind them. -/
inductive Written (Unit : List Char → Nat → Prop) : List Char → Nat → Prop where
  | mk {digits unit factor} : IsDigits digits → Unit unit factor →
      Written Unit (digits ++ unit) (decimal digits * factor)

/-- A unit of a table, or none. -/
def HasFactor (units : List (String × Nat)) (unit : List Char) (factor : Nat) : Prop :=
  unit = [] ∧ factor = 1 ∨ ∃ name, (name, factor) ∈ units ∧ name.toList = unit

/-- Each unit of the table is told from the others and from digits. -/
structure Unambiguous (units : List (String × Nat)) : Prop where
  found : ∀ u ∈ units, unitAt units u.1.toList = (u.1.toList.length, u.2)
  head : ∀ u ∈ units, u.1.toList.head?.any (!isDigitPart ·) = true
  pos : ∀ u ∈ units, 0 < u.2

variable {units : List (String × Nat)}

theorem Unambiguous.unitAt_nil (hu : Unambiguous units) : unitAt units [] = (0, 1) := by
  have hnone : (units.find? fun u => u.1.toList.isPrefixOf []) = none := by
    rw [List.find?_eq_none]
    intro u hm
    have := hu.head u hm
    cases h : u.1.toList with
    | nil => simp [h] at this
    | cons c cs => simp
  rw [unitAt, hnone]

theorem Unambiguous.unitAt_eq (hu : Unambiguous units) {unit : List Char} {factor : Nat}
    (h : HasFactor units unit factor) : unitAt units unit = (unit.length, factor) := by
  rcases h with ⟨rfl, rfl⟩ | ⟨name, hm, rfl⟩
  · exact hu.unitAt_nil
  · exact hu.found _ hm

theorem Unambiguous.factor_pos (hu : Unambiguous units) {unit : List Char} {factor : Nat}
    (h : HasFactor units unit factor) : 0 < factor := by
  rcases h with ⟨-, rfl⟩ | ⟨name, hm, -⟩
  · decide
  · exact hu.pos _ hm

theorem Unambiguous.head?_eq (hu : Unambiguous units) {unit : List Char} {factor : Nat}
    (h : HasFactor units unit factor) : ∀ c ∈ unit.head?, isDigitPart c = false := by
  rcases h with ⟨rfl, -⟩ | ⟨name, hm, rfl⟩
  · simp
  · have := hu.head _ hm
    intro c hc
    rw [Option.mem_def.1 hc] at this
    simpa using this

theorem hasFactor_of_length_le {cs : List Char} (h : cs.length ≤ (unitAt units cs).1) :
    HasFactor units cs (unitAt units cs).2 := by
  unfold unitAt at h ⊢
  split at h
  · next name factor hf =>
    have hp : name.toList <+: cs := by simpa using List.find?_some hf
    exact .inr ⟨name, List.mem_of_find?_eq_some hf, hp.eq_of_length_le h⟩
  · exact .inl ⟨List.eq_nil_of_length_eq_zero (Nat.le_zero.1 h), rfl⟩

/-- A text is written in one way. -/
theorem Written.unique (hu : Unambiguous units) {cs : List Char} {n n' : Nat}
    (h : Written (HasFactor units) cs n) (h' : Written (HasFactor units) cs n') : n' = n := by
  obtain ⟨hd, hf⟩ := h
  next digits unit factor =>
  generalize hcs : digits ++ unit = text at h'
  obtain ⟨hd', hf'⟩ := h'
  next digits' unit' factor' =>
  have hdigits := digitPart_append hd (hu.head?_eq hf)
  rw [hcs, digitPart_append hd' (hu.head?_eq hf')] at hdigits
  subst hdigits
  obtain rfl := List.append_cancel_left hcs
  have hfactor := hu.unitAt_eq hf
  rw [hu.unitAt_eq hf'] at hfactor
  rw [(Prod.mk.inj hfactor).2]

/-- Reading gives the number that is written, if it fits. -/
theorem read_eq_ok_iff (hu : Unambiguous units) {cs : List Char} {n : Nat} :
    read units cs = .ok n ↔ Written (HasFactor units) cs n ∧ n < unsignedBound := by
  constructor
  · intro h
    unfold read at h
    dsimp only at h
    split at h
    · cases h
    next hne =>
    split at h
    · cases h
    split at h
    · cases h
    next hn =>
    split at h
    · next hl =>
      cases h
      obtain ⟨hd, hcs⟩ := isDigits_digitPart hne
      refine ⟨?_, Nat.not_le.1 hn⟩
      rw [valueOf_eq_decimal hd.isDigitPart]
      have hrest : (cs.drop (digitPart cs).length).length ≤
          (unitAt units (cs.drop (digitPart cs).length)).1 := by
        rw [List.length_drop]
        omega
      have hf := hasFactor_of_length_le hrest
      conv => arg 2; rw [hcs]
      exact .mk hd hf
    · cases h
  · rintro ⟨⟨hd, hf⟩, hn⟩
    next digits unit factor =>
    have hdigits := digitPart_append hd (hu.head?_eq hf)
    have hvalue := valueOf_eq_decimal hd.isDigitPart
    have hsmall : decimal digits < unsignedBound :=
      Nat.lt_of_le_of_lt (Nat.le_mul_of_pos_right _ (hu.factor_pos hf)) hn
    unfold read
    simp only [hdigits, hvalue, List.drop_left, hu.unitAt_eq hf, List.length_append]
    rw [if_neg hd.ne_nil, if_neg (Nat.not_le.2 hsmall), if_neg (Nat.not_le.2 hn),
      if_pos (Nat.le_refl _)]

/-! ## Upper case -/

theorem toNat_of_isDigitPart {c : Char} (h : isDigitPart c = true) :
    c.toNat ≤ 57 ∨ c.toNat = 95 := by
  rcases (isDigitPart_iff c).1 h with h | rfl
  · simp only [Char.isDigit, Bool.and_eq_true, decide_eq_true_eq, UInt32.le_iff_toNat_le] at h
    exact .inl h.2
  · exact .inr rfl

/-- Digits and underscores have no case. -/
theorem toUpper_of_isDigitPart {c : Char} (h : isDigitPart c = true) : c.toUpper = c := by
  have hc := toNat_of_isDigitPart h
  unfold Char.toUpper
  split
  · next hl =>
    have h1 : 97 ≤ c.toNat := UInt32.le_iff_toNat_le.1 hl.1
    omega
  · rfl

theorem eq_toUpper_of_isDigitPart {c : Char} (h : isDigitPart c.toUpper = true) :
    c = c.toUpper := by
  have hc := toNat_of_isDigitPart h
  unfold Char.toUpper at hc ⊢
  split
  · next hl =>
    rw [dif_pos hl] at hc
    have h1 : 97 ≤ c.toNat := UInt32.le_iff_toNat_le.1 hl.1
    have h2 : c.toNat ≤ 122 := UInt32.le_iff_toNat_le.1 hl.2
    have hv : (c.val + ('A'.val - 'a'.val)).toNat = c.toNat - 32 := by
      rw [UInt32.toNat_add]
      show (c.toNat + 4294967264) % 4294967296 = _
      omega
    change (c.val + ('A'.val - 'a'.val)).toNat ≤ 57 ∨ (c.val + ('A'.val - 'a'.val)).toNat = 95 at hc
    omega
  · rfl

theorem map_toUpper_eq {digits : List Char} (h : ∀ c ∈ digits, c.toUpper = c) :
    digits.map Char.toUpper = digits := by
  rw [List.map_congr_left h, List.map_id']

/-- A unit in any case, as the same digits in front of it show. -/
theorem written_map_toUpper_iff {cs : List Char} {n : Nat} :
    Written (HasFactor units) (cs.map Char.toUpper) n ↔
      Written (fun unit factor => HasFactor units (unit.map Char.toUpper) factor) cs n := by
  constructor
  · intro h
    generalize hcs : cs.map Char.toUpper = text at h
    cases h with
    | @mk digits unit factor hd hf =>
      obtain ⟨digits', unit', rfl, rfl, rfl⟩ := List.map_eq_append_iff.1 hcs
      have hsame : digits'.map Char.toUpper = digits' := map_toUpper_eq fun c hc =>
        (eq_toUpper_of_isDigitPart (hd.isDigitPart _ (List.mem_map_of_mem hc))).symm
      rw [hsame] at hd ⊢
      exact .mk hd hf
  · rintro ⟨hd, hf⟩
    have hsame := map_toUpper_eq fun c hc => toUpper_of_isDigitPart (hd.isDigitPart c hc)
    rw [List.map_append, hsame]
    exact .mk hd hf

end Number

/-! ## Row counts -/

/-- The units of row counts. -/
inductive RowCount.Unit : List Char → Nat → Prop where
  | none : Unit [] 1
  | thousand {c} : c = 'k' ∨ c = 'K' → Unit [c] 1000
  | million {c} : c = 'm' ∨ c = 'M' → Unit [c] 1000000
  | billion {c} : c = 'b' ∨ c = 'B' → Unit [c] 1000000000

theorem RowCount.unambiguous_units : Number.Unambiguous units :=
  ⟨by decide, by decide, by decide⟩

theorem RowCount.hasFactor_units : Number.HasFactor units = Unit := by
  funext unit factor
  apply propext
  constructor
  · rintro (⟨rfl, rfl⟩ | ⟨name, hm, rfl⟩)
    · exact .none
    · simp only [units, List.mem_cons, Prod.mk.injEq, List.not_mem_nil, or_false] at hm
      rcases hm with ⟨rfl, rfl⟩ | ⟨rfl, rfl⟩ | ⟨rfl, rfl⟩ | ⟨rfl, rfl⟩ | ⟨rfl, rfl⟩ | ⟨rfl, rfl⟩
      · exact .thousand (.inl rfl)
      · exact .thousand (.inr rfl)
      · exact .million (.inl rfl)
      · exact .million (.inr rfl)
      · exact .billion (.inl rfl)
      · exact .billion (.inr rfl)
  · intro h
    cases h with
    | none => exact .inl ⟨rfl, rfl⟩
    | @thousand c hc =>
      exact .inr ⟨String.singleton c, by rcases hc with rfl | rfl <;> decide, by simp⟩
    | @million c hc =>
      exact .inr ⟨String.singleton c, by rcases hc with rfl | rfl <;> decide, by simp⟩
    | @billion c hc =>
      exact .inr ⟨String.singleton c, by rcases hc with rfl | rfl <;> decide, by simp⟩

theorem RowCount.parse_of_read {s : String} {n : Nat}
    (h : Number.read units (trimChars s.toList) = .ok n) : parse s = ofNat n := by
  have hne : trim s ≠ "" := by
    intro h0
    have htrim : trimChars s.toList = [] := by simpa [trim] using congrArg String.toList h0
    rw [htrim] at h
    cases h
  unfold parse
  rw [if_neg hne, trim, String.toList_ofList, h]

theorem RowCount.read_of_parse {s : String} {r : RowCount} (h : parse s = .ok r) :
    Number.read units (trimChars s.toList) = .ok r.count := by
  unfold parse at h
  dsimp only at h
  rw [trim, String.toList_ofList] at h
  split at h
  · cases h
  split at h
  · cases h
  next n hn =>
  unfold ofNat at h
  split at h
  · cases h
    exact hn
  · cases h

theorem RowCount.ofNat_count (r : RowCount) : ofNat r.count = .ok r := dif_pos r.count_lt

theorem RowCount.parse_iff_written (s : String) (n : Nat) :
    (∃ r, parse s = .ok r ∧ r.count = n) ↔
      Number.Written Unit (trimChars s.toList) n ∧ n < Number.signedBound := by
  rw [← hasFactor_units]
  constructor
  · rintro ⟨r, h, rfl⟩
    exact ⟨((Number.read_eq_ok_iff unambiguous_units).1 (read_of_parse h)).1, r.count_lt⟩
  · rintro ⟨h, hn⟩
    have hn' : n < Number.unsignedBound := Nat.lt_trans hn (by decide)
    refine ⟨⟨n, hn⟩, ?_, rfl⟩
    rw [parse_of_read ((Number.read_eq_ok_iff unambiguous_units).2 ⟨h, hn'⟩)]
    exact ofNat_count ⟨n, hn⟩

/-! ## Byte sizes -/

/-- The units of byte sizes, in any case. -/
inductive ByteSize.Unit : List Char → Nat → Prop where
  | none : Unit [] 1
  | bytes {unit} : unit.map Char.toUpper = ['B'] → Unit unit 1
  | kilobytes {unit} : unit.map Char.toUpper = ['K', 'B'] → Unit unit 1024
  | megabytes {unit} : unit.map Char.toUpper = ['M', 'B'] → Unit unit (1024 * 1024)
  | gigabytes {unit} : unit.map Char.toUpper = ['G', 'B'] → Unit unit (1024 * 1024 * 1024)

theorem ByteSize.unambiguous_units : Number.Unambiguous units :=
  ⟨by decide, by decide, by decide⟩

theorem ByteSize.hasFactor_units_iff {unit : List Char} {factor : Nat} :
    Number.HasFactor units (unit.map Char.toUpper) factor ↔ Unit unit factor := by
  constructor
  · rintro (⟨h0, rfl⟩ | ⟨name, hm, hu⟩)
    · rw [List.map_eq_nil_iff.1 h0]
      exact .none
    · simp only [units, List.mem_cons, Prod.mk.injEq, List.not_mem_nil, or_false] at hm
      rcases hm with ⟨rfl, rfl⟩ | ⟨rfl, rfl⟩ | ⟨rfl, rfl⟩ | ⟨rfl, rfl⟩
      · exact .kilobytes hu.symm
      · exact .megabytes hu.symm
      · exact .gigabytes hu.symm
      · exact .bytes hu.symm
  · intro h
    cases h with
    | none => exact .inl ⟨rfl, rfl⟩
    | bytes hu => exact .inr ⟨"B", by decide, hu.symm⟩
    | kilobytes hu => exact .inr ⟨"KB", by decide, hu.symm⟩
    | megabytes hu => exact .inr ⟨"MB", by decide, hu.symm⟩
    | gigabytes hu => exact .inr ⟨"GB", by decide, hu.symm⟩

theorem ByteSize.parse_of_read {s : String} {n : Nat}
    (h : Number.read units ((trimChars s.toList).map Char.toUpper) = .ok n) :
    parse s = ofNat n := by
  have hne : trim s ≠ "" := by
    intro h0
    have htrim : trimChars s.toList = [] := by simpa [trim] using congrArg String.toList h0
    rw [htrim] at h
    cases h
  unfold parse
  rw [if_neg hne, trim, String.toUpper, String.toList_map, String.toList_ofList, h]

theorem ByteSize.read_of_parse {s : String} {b : ByteSize} (h : parse s = .ok b) :
    Number.read units ((trimChars s.toList).map Char.toUpper) = .ok b.bytes := by
  unfold parse at h
  dsimp only at h
  rw [trim, String.toUpper, String.toList_map, String.toList_ofList] at h
  split at h
  · cases h
  split at h
  · cases h
  next n hn =>
  unfold ofNat at h
  split at h
  · cases h
    exact hn
  · cases h

theorem ByteSize.ofNat_bytes (b : ByteSize) : ofNat b.bytes = .ok b := dif_pos b.bytes_lt

theorem ByteSize.written_iff {cs : List Char} {n : Nat} :
    Number.Written (Number.HasFactor units) (cs.map Char.toUpper) n ↔ Number.Written Unit cs n := by
  have hunit :
      (fun unit factor => Number.HasFactor units (unit.map Char.toUpper) factor) = Unit := by
    funext unit factor
    exact propext hasFactor_units_iff
  rw [Number.written_map_toUpper_iff, hunit]

theorem ByteSize.read_eq_ok_iff {cs : List Char} {n : Nat} :
    Number.read units (cs.map Char.toUpper) = .ok n ↔
      Number.Written Unit cs n ∧ n < Number.unsignedBound := by
  rw [Number.read_eq_ok_iff unambiguous_units, written_iff]

theorem ByteSize.parse_iff_written (s : String) (n : Nat) :
    (∃ b, parse s = .ok b ∧ b.bytes = n) ↔
      Number.Written Unit (trimChars s.toList) n ∧ n < Number.signedBound := by
  constructor
  · rintro ⟨b, h, rfl⟩
    exact ⟨(read_eq_ok_iff.1 (read_of_parse h)).1, b.bytes_lt⟩
  · rintro ⟨h, hn⟩
    have hn' : n < Number.unsignedBound := Nat.lt_trans hn (by decide)
    refine ⟨⟨n, hn⟩, ?_, rfl⟩
    rw [parse_of_read (read_eq_ok_iff.2 ⟨h, hn'⟩)]
    exact ofNat_bytes ⟨n, hn⟩

/-! ## Both quantities -/

namespace Number

/-- A text is accepted for the number that it writes with these units, if this fits into 64 bits
with a sign; every other text is an error. A text writes one number at most. -/
structure AcceptsWritten {α : Type} (parse : String → Except QuantityError α) (value : α → Nat)
    (Unit : List Char → Nat → Prop) : Prop where
  ok : ∀ s n, (∃ a, parse s = .ok a ∧ value a = n) ↔
    Written Unit (trimChars s.toList) n ∧ n < signedBound
  error : ∀ s, (∃ e, parse s = .error e) ↔
    ∀ n, Written Unit (trimChars s.toList) n → signedBound ≤ n
  unique : ∀ cs n n', Written Unit cs n → Written Unit cs n' → n' = n

theorem AcceptsWritten.of_ok {α : Type} {parse : String → Except QuantityError α} {value : α → Nat}
    {Unit : List Char → Nat → Prop}
    (hok : ∀ s n, (∃ a, parse s = .ok a ∧ value a = n) ↔
      Written Unit (trimChars s.toList) n ∧ n < signedBound)
    (hunique : ∀ cs n n', Written Unit cs n → Written Unit cs n' → n' = n) :
    AcceptsWritten parse value Unit := by
  refine ⟨hok, fun s => ?_, hunique⟩
  cases hs : parse s with
  | error e =>
    have hnone : ∀ n, ¬ (Written Unit (trimChars s.toList) n ∧ n < signedBound) := by
      intro n hn
      obtain ⟨a, ha, -⟩ := (hok s n).2 hn
      rw [hs] at ha
      cases ha
    exact iff_of_true ⟨e, rfl⟩ fun n hn => Nat.not_lt.1 fun hlt => hnone n ⟨hn, hlt⟩
  | ok a =>
    obtain ⟨hw, hlt⟩ := (hok s (value a)).1 ⟨a, hs, rfl⟩
    exact iff_of_false (by simp) fun h => Nat.not_le.2 hlt (h _ hw)

/-- **Quantities accept exactly what is written, with its exact value.** -/
theorem quantities_accept_written :
    AcceptsWritten RowCount.parse RowCount.count RowCount.Unit ∧
    AcceptsWritten ByteSize.parse ByteSize.bytes ByteSize.Unit := by
  refine ⟨.of_ok RowCount.parse_iff_written ?_, .of_ok ByteSize.parse_iff_written ?_⟩
  · rw [← RowCount.hasFactor_units]
    exact fun cs n n' h h' => h.unique RowCount.unambiguous_units h'
  · intro cs n n' h h'
    exact (ByteSize.written_iff.2 h).unique ByteSize.unambiguous_units (ByteSize.written_iff.2 h')

/-- Factors do not wrap around: in 64 bits the product would be zero. -/
example : ∃ e, ByteSize.parse "18014398509481984kB" = .error e :=
  ⟨.malformed "18014398509481984kB" 19, by decide +kernel⟩

end Number

end PartitionSize
