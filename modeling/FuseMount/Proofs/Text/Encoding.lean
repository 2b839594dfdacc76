import FuseMount.Text.Utf8
import Mathlib.Algebra.Group.Nat.Defs
import Mathlib.Data.List.Basic
import Mathlib.Tactic.Ring
import Mathlib.Tactic.SplitIfs

/-!
# Reading encoded texts back

The bytes of a character are a first byte, which tells how many bytes follow, and the last digits of
the code point in base 64. The first byte narrows the range of the byte after it, but to no byte that
a character has there. So the bytes of a text are read back as the text, whatever follows them.

Results:

* `utf8EncodeChar_eq`: the bytes of a character as a first byte and digits in base 64.
* `exists_demand?_lead`, `takeTail_tailBytes`, `codePoint_tailBytes`: what its first byte asks for,
  the bytes after it, and the code point that they give.
* `pieces_encodeChar_append`: a character, whatever follows it.
* `decode?_encode`, `lossy_encode`: a whole text.
* `encode_injective`: the bytes of a text determine it.
-/

namespace FuseMount.Utf8

/-! ## Characters as digits -/

/-- How many bytes follow the first one of the character with a code point. -/
def tailLength (n : Nat) : Nat :=
  if n ≤ 0x7F then 0 else if n ≤ 0x7FF then 1 else if n ≤ 0xFFFF then 2 else 3

/-- What the first byte adds to the digit in it, by the number of bytes that follow. -/
def leadMark : Nat → Nat
  | 0 => 0
  | 1 => 0xC0
  | 2 => 0xE0
  | _ => 0xF0

/-- The first byte of a character, as a number. -/
def lead (n : Nat) : Nat :=
  leadMark (tailLength n) + n / 64 ^ tailLength n

/-- The last digits of a number in base 64, each with the mark of a following byte. -/
def tailBytes : Nat → Nat → Bytes
  | 0, _ => []
  | k + 1, n => UInt8.ofNat (n / 64 ^ k % 64 + 0x80) :: tailBytes k n

@[simp] theorem length_tailBytes (k n : Nat) : (tailBytes k n).length = k := by
  induction k with
  | zero => rfl
  | succ k ih => rw [tailBytes, List.length_cons, ih]

theorem toNat_lt (c : Char) : c.toNat < 0x110000 := by
  rcases c.valid with below | ⟨-, above⟩
  · exact Nat.lt_trans below (by decide)
  · exact above

theorem lead_lt {n : Nat} (hn : n < 0x110000) : lead n < 256 := by
  unfold lead tailLength
  split_ifs <;> simp [leadMark] <;> omega

theorem utf8EncodeChar_eq (c : Char) :
    String.utf8EncodeChar c =
      UInt8.ofNat (lead c.toNat) :: tailBytes (tailLength c.toNat) c.toNat := by
  have hlt := toNat_lt c
  unfold String.utf8EncodeChar lead tailLength
  simp only [show c.val.toNat = c.toNat from rfl]
  split_ifs with h1 h2 h3
  · simp [leadMark, tailBytes]
  · rw [Nat.mod_eq_of_lt (show c.toNat / 64 < 0x20 by omega)]
    simp [leadMark, tailBytes, Nat.add_comm]
  · rw [Nat.mod_eq_of_lt (show c.toNat / 4096 < 0x10 by omega)]
    simp [leadMark, tailBytes, Nat.add_comm]
  · rw [Nat.mod_eq_of_lt (show c.toNat / 262144 < 0x08 by omega)]
    simp [leadMark, tailBytes, Nat.add_comm]

/-! ## Reading a character -/

/-- A demand asks for as many bytes as a character has after the first one, and its range has the
next one of them. -/
structure Demand.Admits (d : Demand) (n : Nat) : Prop where
  count_eq : d.count = tailLength n
  range : ∀ k, tailLength n = k + 1 →
    d.low.toNat ≤ n / 64 ^ k % 64 + 0x80 ∧ n / 64 ^ k % 64 + 0x80 ≤ d.high.toNat

theorem Demand.Admits.of_range {d : Demand} {n k : Nat} (hlength : tailLength n = k + 1)
    (hcount : d.count = k + 1) (hlow : d.low.toNat ≤ n / 64 ^ k % 64 + 0x80)
    (hhigh : n / 64 ^ k % 64 + 0x80 ≤ d.high.toNat) : d.Admits n where
  count_eq := hcount.trans hlength.symm
  range k' hk' := by
    obtain rfl : k' = k := Nat.succ.inj (hk'.symm.trans hlength)
    exact ⟨hlow, hhigh⟩

/-- The demand of a first byte that is given as a number. -/
theorem demand?_ofNat {m : Nat} (hm : m < 256) :
    demand? (UInt8.ofNat m) =
      if m < 0x80 then some { count := 0 }
      else if m < 0xC2 then none
      else if m < 0xE0 then some { count := 1 }
      else if m = 0xE0 then some { count := 2, low := 0xA0 }
      else if m = 0xED then some { count := 2, high := 0x9F }
      else if m < 0xF0 then some { count := 2 }
      else if m = 0xF0 then some { count := 3, low := 0x90 }
      else if m < 0xF4 then some { count := 3 }
      else if m = 0xF4 then some { count := 3, high := 0x8F }
      else none := by
  unfold demand?
  simp only [UInt8.lt_iff_toNat_lt, beq_iff_eq, ← UInt8.toNat_inj, UInt8.toNat_ofNat_of_lt' hm]
  rfl

section

variable {n : Nat}

theorem exists_demand?_one (h : n ≤ 0x7F) :
    ∃ d, demand? (UInt8.ofNat (lead n)) = some d ∧ d.Admits n := by
  have hlength : tailLength n = 0 := if_pos h
  have hlead : lead n = n := by simp [lead, leadMark, hlength]
  rw [hlead, demand?_ofNat (by omega), if_pos (by omega)]
  exact ⟨_, rfl, hlength.symm, by simp [hlength]⟩

theorem exists_demand?_two (hlow : 0x7F < n) (hhigh : n ≤ 0x7FF) :
    ∃ d, demand? (UInt8.ofNat (lead n)) = some d ∧ d.Admits n := by
  have hlength : tailLength n = 1 := by
    rw [tailLength, if_neg (by omega), if_pos hhigh]
  have hlead : lead n = 0xC0 + n / 64 := by simp [lead, leadMark, hlength]
  rw [hlead, demand?_ofNat (by omega), if_neg (by omega), if_neg (by omega), if_pos (by omega)]
  exact ⟨_, rfl, .of_range hlength rfl (Nat.le_add_left _ _) (show _ ≤ 0xBF by omega)⟩

/-- Two first bytes have a narrower range: one keeps out what fits into two bytes, and the other one
surrogates. -/
theorem exists_demand?_three (hlow : 0x7FF < n) (hhigh : n ≤ 0xFFFF)
    (hvalid : n < 0xD800 ∨ 0xDFFF < n) :
    ∃ d, demand? (UInt8.ofNat (lead n)) = some d ∧ d.Admits n := by
  have hlength : tailLength n = 2 := by
    rw [tailLength, if_neg (by omega), if_neg (by omega), if_pos hhigh]
  have hlead : lead n = 0xE0 + n / 4096 := by simp [lead, leadMark, hlength]
  rw [hlead, demand?_ofNat (by omega), if_neg (by omega), if_neg (by omega), if_neg (by omega)]
  by_cases hfirst : n / 4096 = 0
  · rw [if_pos (by omega)]
    exact ⟨_, rfl, .of_range hlength rfl (show 0xA0 ≤ _ by omega) (show _ ≤ 0xBF by omega)⟩
  · rw [if_neg (by omega)]
    by_cases hsurrogate : n / 4096 = 13
    · rw [if_pos (by omega)]
      exact ⟨_, rfl, .of_range hlength rfl (Nat.le_add_left _ _) (show _ ≤ 0x9F by omega)⟩
    · rw [if_neg (by omega), if_pos (by omega)]
      exact ⟨_, rfl, .of_range hlength rfl (Nat.le_add_left _ _) (show _ ≤ 0xBF by omega)⟩

/-- The range is narrower for the first of these bytes and for the last one, which keeps out code
points above the greatest one. -/
theorem exists_demand?_four (hlow : 0xFFFF < n) (hhigh : n < 0x110000) :
    ∃ d, demand? (UInt8.ofNat (lead n)) = some d ∧ d.Admits n := by
  have hlength : tailLength n = 3 := by
    rw [tailLength, if_neg (by omega), if_neg (by omega), if_neg (by omega)]
  have hlead : lead n = 0xF0 + n / 262144 := by simp [lead, leadMark, hlength]
  rw [hlead, demand?_ofNat (by omega), if_neg (by omega), if_neg (by omega), if_neg (by omega),
    if_neg (by omega), if_neg (by omega), if_neg (by omega)]
  by_cases hfirst : n / 262144 = 0
  · rw [if_pos (by omega)]
    exact ⟨_, rfl, .of_range hlength rfl (show 0x90 ≤ _ by omega) (show _ ≤ 0xBF by omega)⟩
  · rw [if_neg (by omega)]
    by_cases hlast : n / 262144 = 4
    · rw [if_neg (by omega), if_pos (by omega)]
      exact ⟨_, rfl, .of_range hlength rfl (Nat.le_add_left _ _) (show _ ≤ 0x8F by omega)⟩
    · rw [if_pos (by omega)]
      exact ⟨_, rfl, .of_range hlength rfl (Nat.le_add_left _ _) (show _ ≤ 0xBF by omega)⟩

end

theorem exists_demand?_lead (c : Char) :
    ∃ d, demand? (UInt8.ofNat (lead c.toNat)) = some d ∧ d.Admits c.toNat := by
  have hvalid : c.toNat < 0xD800 ∨ 0xDFFF < c.toNat := c.valid.imp id And.left
  by_cases hone : c.toNat ≤ 0x7F
  · exact exists_demand?_one hone
  by_cases htwo : c.toNat ≤ 0x7FF
  · exact exists_demand?_two (Nat.lt_of_not_le hone) htwo
  by_cases hthree : c.toNat ≤ 0xFFFF
  · exact exists_demand?_three (Nat.lt_of_not_le htwo) hthree hvalid
  · exact exists_demand?_four (Nat.lt_of_not_le hthree) (toNat_lt c)

/-- The bytes after the first one are all taken, and no others. -/
theorem takeTail_tailBytes {k n : Nat} {low high : UInt8}
    (h : ∀ j, k = j + 1 →
      low.toNat ≤ n / 64 ^ j % 64 + 0x80 ∧ n / 64 ^ j % 64 + 0x80 ≤ high.toNat) (bytes : Bytes) :
    takeTail k low high (tailBytes k n ++ bytes) = (tailBytes k n, bytes) := by
  induction k generalizing low high with
  | zero => rfl
  | succ k ih =>
    obtain ⟨hlow, hhigh⟩ := h k rfl
    have hbyte : (UInt8.ofNat (n / 64 ^ k % 64 + 0x80)).toNat = n / 64 ^ k % 64 + 0x80 :=
      UInt8.toNat_ofNat_of_lt' (show _ < 256 by omega)
    have hrest := @ih 0x80 0xBF fun j _ =>
      ⟨Nat.le_add_left _ _, show _ ≤ 0xBF by omega⟩
    rw [tailBytes, List.cons_append, takeTail, if_pos, hrest]
    rw [Bool.and_eq_true, decide_eq_true_eq, decide_eq_true_eq, UInt8.le_iff_toNat_le,
      UInt8.le_iff_toNat_le, hbyte]
    exact ⟨hlow, hhigh⟩

theorem foldl_tailBytes (k a n : Nat) :
    (tailBytes k n).foldl (fun a b => a * 0x40 + b.toNat % 0x40) a = a * 64 ^ k + n % 64 ^ k := by
  induction k generalizing a with
  | zero => simp [tailBytes, Nat.mod_one]
  | succ k ih =>
    have hbyte : (UInt8.ofNat (n / 64 ^ k % 64 + 0x80)).toNat % 0x40 = n / 64 ^ k % 64 := by
      rw [UInt8.toNat_ofNat_of_lt' (show _ < 256 by omega)]
      omega
    rw [tailBytes, List.foldl_cons, ih, hbyte, Nat.pow_succ, Nat.mod_mul]
    ring

/-- The digits give the code point back. -/
theorem codePoint_tailBytes {n : Nat} (hn : n < 0x110000) :
    codePoint (UInt8.ofNat (lead n)) (tailLength n) (tailBytes (tailLength n) n) = n := by
  have hlead : (UInt8.ofNat (lead n)).toNat = lead n := UInt8.toNat_ofNat_of_lt' (lead_lt hn)
  unfold codePoint
  rw [foldl_tailBytes, hlead]
  -- the mark of the first byte is a multiple of what the digit in it is taken by
  unfold lead tailLength
  split_ifs <;> simp [leadMark] <;> omega

/-- A character is read back, whatever follows it. -/
theorem pieces_encodeChar_append (c : Char) (bytes : Bytes) :
    pieces (String.utf8EncodeChar c ++ bytes) = .char c :: pieces bytes := by
  obtain ⟨d, hdemand, hadmits⟩ := exists_demand?_lead c
  have htail := takeTail_tailBytes hadmits.range bytes
  rw [utf8EncodeChar_eq, List.cons_append, pieces, hdemand]
  simp only [hadmits.count_eq, htail, length_tailBytes, if_pos, codePoint_tailBytes (toNat_lt c),
    Char.ofNat_toNat]

/-! ## Texts -/

theorem pieces_encode (s : String) : pieces (encode s) = s.toList.map .char := by
  rw [encode]
  induction s.toList with
  | nil => rw [List.flatMap_nil, pieces, List.map_nil]
  | cons c cs ih => rw [List.flatMap_cons, pieces_encodeChar_append, ih, List.map_cons]

theorem mapM_char? (cs : List Char) : (cs.map Piece.char).mapM Piece.char? = some cs := by
  induction cs with
  | nil => rfl
  | cons c cs ih => simp [ih, Piece.char?]

theorem decode?_encode (s : String) : decode? (encode s) = some s := by
  rw [decode?, pieces_encode, mapM_char?, Option.map_some, String.ofList_toList]

/-- Texts with the same bytes are the same. -/
theorem encode_injective {a b : String} (h : encode a = encode b) : a = b := by
  have hdecode := congrArg decode? h
  rwa [decode?_encode, decode?_encode, Option.some.injEq] at hdecode

theorem encode_ne_nil {s : String} (h : s ≠ "") : encode s ≠ [] :=
  fun hnil => h (encode_injective hnil)

/-- Nothing in a text is broken. -/
theorem lossy_encode (s : String) : lossy (encode s) = s := by
  have hshown : Piece.shown ∘ Piece.char = id := rfl
  rw [lossy, pieces_encode, List.map_map, hshown, List.map_id, String.ofList_toList]

end FuseMount.Utf8
