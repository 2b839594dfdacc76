import FuseMount.Proofs.Text.Encoding
import FuseMount.TextMap

/-!
# The order of texts and of their bytes

Texts are compared by the code points of their characters. The bytes of texts in UTF-8 compare in
the same way: of two characters the smaller one has the smaller first byte, or else the same one and
smaller digits in the bytes after it, as many as the other has.

Results:

* `lead_lt_or`, `tailBytes_append_lt`: the order of first bytes, and that of the digits after them.
* `utf8EncodeChar_append_lt`: smaller characters have smaller bytes, whatever follows them.
* `encode_lt_encode_iff`: the order of texts is the order of their bytes.
-/

namespace FuseMount.Utf8

/-! ## Order -/

theorem cons_append_lt_of_lt {a b : Nat} (hab : a < b) (hb : b < 256) (p q : Bytes) :
    UInt8.ofNat a :: p < UInt8.ofNat b :: q := by
  refine List.cons_lt_cons_iff.2 (.inl ?_)
  rwa [UInt8.lt_iff_toNat_lt, UInt8.toNat_ofNat_of_lt' (Nat.lt_trans hab hb),
    UInt8.toNat_ofNat_of_lt' hb]

/-- Of two numbers with the same digits before the last `k` ones, the smaller one has the smaller
digits, whatever follows them. -/
theorem tailBytes_append_lt {k m n : Nat} (hdiv : m / 64 ^ k = n / 64 ^ k) (hmn : m < n)
    (x y : Bytes) : tailBytes k m ++ x < tailBytes k n ++ y := by
  induction k with
  | zero =>
    rw [Nat.pow_zero, Nat.div_one, Nat.div_one] at hdiv
    omega
  | succ k ih =>
    have hm : m / 64 ^ (k + 1) = m / 64 ^ k / 64 := by rw [Nat.pow_succ, Nat.div_div_eq_div_mul]
    have hn : n / 64 ^ (k + 1) = n / 64 ^ k / 64 := by rw [Nat.pow_succ, Nat.div_div_eq_div_mul]
    have hle : m / 64 ^ k ≤ n / 64 ^ k := Nat.div_le_div_right (Nat.le_of_lt hmn)
    rw [hm, hn] at hdiv
    rw [tailBytes, tailBytes, List.cons_append, List.cons_append]
    rcases Nat.lt_or_eq_of_le hle with hlt | heq
    · exact cons_append_lt_of_lt (by omega) (by omega) _ _
    · rw [heq]
      exact List.cons_lt_cons_iff.2 (.inr ⟨rfl, ih heq⟩)

/-- A greater code point has a greater first byte, or the same one with as many bytes after it and
greater digits in these. -/
theorem lead_lt_or {m n : Nat} (hmn : m < n) (hn : n < 0x110000) :
    lead m < lead n ∨ lead m = lead n ∧ tailLength m = tailLength n ∧
      m / 64 ^ tailLength m = n / 64 ^ tailLength n := by
  unfold lead tailLength
  split_ifs <;> simp [leadMark] <;> omega

/-- The bytes of a smaller character are smaller, whatever follows them. -/
theorem utf8EncodeChar_append_lt {c d : Char} (h : c < d) (x y : Bytes) :
    String.utf8EncodeChar c ++ x < String.utf8EncodeChar d ++ y := by
  rw [utf8EncodeChar_eq, utf8EncodeChar_eq, List.cons_append, List.cons_append]
  have hcd : c.toNat < d.toNat := h
  rcases lead_lt_or hcd (toNat_lt d) with hlt | ⟨hlead, hlength, hdiv⟩
  · exact cons_append_lt_of_lt hlt (lead_lt (toNat_lt d)) _ _
  · rw [hlead, hlength]
    rw [hlength] at hdiv
    exact List.cons_lt_cons_iff.2 (.inr ⟨rfl, tailBytes_append_lt hdiv hcd x y⟩)

/-! ## Texts -/

theorem flatMap_utf8EncodeChar_lt {cs ds : List Char} (h : cs < ds) :
    cs.flatMap String.utf8EncodeChar < ds.flatMap String.utf8EncodeChar := by
  induction h with
  | nil =>
    rw [List.flatMap_nil, List.flatMap_cons, utf8EncodeChar_eq]
    exact .nil
  | rel h =>
    rw [List.flatMap_cons, List.flatMap_cons]
    exact utf8EncodeChar_append_lt h _ _
  | cons _ ih =>
    rw [List.flatMap_cons, List.flatMap_cons]
    exact List.append_left_lt ih

theorem encode_lt_encode {a b : String} (h : a < b) : encode a < encode b :=
  flatMap_utf8EncodeChar_lt h

/-- **The order of texts is the order of their bytes.** -/
theorem encode_lt_encode_iff {a b : String} : encode a < encode b ↔ a < b := by
  refine ⟨fun h => Decidable.byContradiction fun hab => ?_, encode_lt_encode⟩
  by_cases he : a = b
  · exact List.lt_irrefl _ (he ▸ h)
  · exact List.lt_asymm h (encode_lt_encode (TextMap.lt_of_not_lt_of_ne hab he))

end FuseMount.Utf8
