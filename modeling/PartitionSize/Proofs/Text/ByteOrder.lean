/-!
# Texts in the order of their bytes

Texts are compared by the codes of their characters. Their UTF-8 bytes compare alike
(`Text.bytes_lt_bytes`): of two characters, the one with the smaller code has the smaller first
byte, or the same one and smaller digits behind it (`lead_spec`).
-/

namespace PartitionSize.Text

/-- The bytes of a text in UTF-8. -/
def bytes (s : String) : List UInt8 := s.toUTF8.data.toList

/-- The bytes `x` come before the bytes `y`, whatever follows each of them. -/
def Precedes (x y : List UInt8) : Prop := ∀ u v, x ++ u < y ++ v

theorem precedes_cons {a b : Nat} {x y : List UInt8} (hb : b < 256) (hle : a ≤ b)
    (h : a = b → Precedes x y) : Precedes (UInt8.ofNat a :: x) (UInt8.ofNat b :: y) := by
  intro u v
  rw [List.cons_append, List.cons_append, List.cons_lt_cons_iff]
  rcases Nat.lt_or_eq_of_le hle with hlt | heq
  · exact .inl ((UInt8.ofNat_lt_iff_lt (Nat.lt_of_le_of_lt hle hb) hb).2 hlt)
  · exact .inr ⟨by rw [heq], h heq u v⟩

/-! ## The bytes of a character -/

/-- The last `n` digits of a code to base 64, as bytes that go on with a character. -/
def continuation (v : Nat) : Nat → List UInt8
  | 0 => []
  | n + 1 => UInt8.ofNat (v / Nat.pow 64 n % 64 + 0x80) :: continuation v n

/-- The number of bytes behind the first one. -/
def continued (v : Nat) : Nat :=
  if v ≤ 0x7f then 0 else if v ≤ 0x7ff then 1 else if v ≤ 0xffff then 2 else 3

/-- The first byte: the digits in front, and how many bytes go on. -/
def lead (v : Nat) : Nat :=
  if v ≤ 0x7f then v
  else if v ≤ 0x7ff then v / 64 % 0x20 + 0xc0
  else if v ≤ 0xffff then v / 4096 % 0x10 + 0xe0
  else v / 262144 % 0x08 + 0xf0

theorem utf8EncodeChar_eq (c : Char) :
    String.utf8EncodeChar c =
      UInt8.ofNat (lead c.val.toNat) :: continuation c.val.toNat (continued c.val.toNat) := by
  unfold String.utf8EncodeChar lead continued
  dsimp only
  generalize c.val.toNat = v
  by_cases hone : v ≤ 0x7f
  · simp only [if_pos hone, continuation]
  by_cases htwo : v ≤ 0x7ff
  · simp only [if_neg hone, if_pos htwo]
    simp [continuation]
  by_cases hthree : v ≤ 0xffff
  · simp only [if_neg hone, if_neg htwo, if_pos hthree]
    simp [continuation]
  · simp only [if_neg hone, if_neg htwo, if_neg hthree]
    simp [continuation]

/-- Digits to one base compare as the numbers they make. -/
theorem precedes_continuation {v w n : Nat} (h : v % Nat.pow 64 n < w % Nat.pow 64 n) :
    Precedes (continuation v n) (continuation w n) := by
  induction n with
  | zero => exact absurd h (by simp [Nat.mod_one])
  | succ n ih =>
    have hsplit : ∀ u, u % Nat.pow 64 (n + 1) =
        u % Nat.pow 64 n + Nat.pow 64 n * (u / Nat.pow 64 n % 64) :=
      fun u => Nat.mod_mul
    rw [hsplit, hsplit] at h
    have hv : v % Nat.pow 64 n < Nat.pow 64 n := Nat.mod_lt _ (Nat.pow_pos (by decide))
    have hw : w % Nat.pow 64 n < Nat.pow 64 n := Nat.mod_lt _ (Nat.pow_pos (by decide))
    refine precedes_cons (by omega) (Nat.add_le_add_right ?_ _) fun heq => ih ?_
    · -- a larger digit would weigh more than all digits behind it
      refine Nat.le_of_not_lt fun hgt => ?_
      have hmul := Nat.mul_le_mul_left (Nat.pow 64 n) hgt
      rw [Nat.succ_eq_add_one, Nat.mul_add, Nat.mul_one] at hmul
      omega
    · rw [Nat.add_right_cancel heq] at h
      exact Nat.lt_of_add_lt_add_right h

/-- A larger code has a larger first byte, or the same one and larger digits behind it. -/
theorem lead_spec {v w : Nat} (h : v < w) (hw : w < 0x110000) :
    lead w < 256 ∧ lead v ≤ lead w ∧ (lead v = lead w → continued v = continued w ∧
      v % Nat.pow 64 (continued w) < w % Nat.pow 64 (continued w)) := by
  unfold lead continued
  -- the first bytes of one, two, three and four bytes follow each other
  repeat' split
  all_goals
    refine ⟨by omega, by omega, fun heq => ⟨by omega, ?_⟩⟩
    simp only [Nat.reducePow, Nat.pow_eq]
    omega

theorem precedes_utf8EncodeChar {c d : Char} (h : c < d) :
    Precedes (String.utf8EncodeChar c) (String.utf8EncodeChar d) := by
  have hmax : d.val.toNat < 0x110000 := by
    have hvalid := d.valid
    simp only [UInt32.isValidChar, Nat.isValidChar] at hvalid
    omega
  obtain ⟨hbyte, hle, heq⟩ := lead_spec (UInt32.lt_iff_toNat_lt.1 h) hmax
  rw [utf8EncodeChar_eq, utf8EncodeChar_eq]
  refine precedes_cons hbyte hle fun hlead => ?_
  obtain ⟨hcontinued, hdigits⟩ := heq hlead
  rw [hcontinued]
  exact precedes_continuation hdigits

/-! ## The bytes of a text -/

theorem bytes_ofList (cs : List Char) :
    bytes (String.ofList cs) = cs.flatMap String.utf8EncodeChar := by
  unfold bytes
  rw [String.toUTF8_eq_toByteArray, String.toByteArray_ofList]
  exact List.toList_data_toByteArray

theorem flatMap_lt_flatMap {cs ds : List Char} (h : cs < ds) :
    cs.flatMap String.utf8EncodeChar < ds.flatMap String.utf8EncodeChar := by
  induction cs generalizing ds with
  | nil =>
    cases ds with
    | nil => exact absurd h (List.lt_irrefl [])
    | cons d ds =>
      rw [List.flatMap_cons, utf8EncodeChar_eq]
      exact List.nil_lt_cons _ _
  | cons c cs ih =>
    cases ds with
    | nil => exact absurd h (List.not_lt_nil _)
    | cons d ds =>
      rw [List.flatMap_cons, List.flatMap_cons]
      rcases List.cons_lt_cons_iff.1 h with hlt | ⟨rfl, hrest⟩
      · exact precedes_utf8EncodeChar hlt _ _
      · exact List.append_left_lt (ih hrest)

theorem bytes_lt_bytes {a b : String} (h : a < b) : bytes a < bytes b := by
  rw [← String.ofList_toList (s := a), ← String.ofList_toList (s := b), bytes_ofList, bytes_ofList]
  exact flatMap_lt_flatMap (String.lt_iff.1 h)

end PartitionSize.Text
