import FuseMount.InitFlags
import FuseMount.Proofs.Text.Numeral

/-!
# Numerals for capability flags

A set of flags is given by a numeral for its word. Which texts are numerals, and for which number,
is written down here without regard to how they are read: a plus sign or none, then digits, in base
16 after `0x` and else in base 10. A text is read exactly if it is a numeral for a number of 32 bits,
and a greater number is refused as such. The three ways to write a word are numerals for it.

Results:

* `digit?_eq_some_iff`: the characters that are taken for digits.
* `read_eq_ok_iff_isNumeral`, `read_eq_tooLarge_of_isNumeral`: reading a number below a bound.
* `parse_eq_ok_iff_denotes`, `parse_eq_tooLarge_of_denotes`: reading a set of flags.
* `parse_numerals`: all of this, and that what is written is read back.
-/

namespace FuseMount

/-! ## Specification -/

namespace Numeral

/-- A character writes a digit in base 10. -/
def DecimalDigit (c : Char) (d : Nat) : Prop :=
  "0123456789".toList[d]? = some c

/-- A character writes a digit in base 16. Letters may be of either case. -/
def HexDigit (c : Char) (d : Nat) : Prop :=
  "0123456789abcdef".toList[d]? = some c ∨ "0123456789ABCDEF".toList[d]? = some c

instance (c : Char) (d : Nat) : Decidable (DecimalDigit c d) :=
  inferInstanceAs (Decidable (_ = _))

instance (c : Char) (d : Nat) : Decidable (HexDigit c d) :=
  inferInstanceAs (Decidable (_ ∨ _))

/-- A text is at most one plus sign and then one digit or more, which stand for a number in a base.
-/
def IsNumeral (Digit : Char → Nat → Prop) (base : Nat) (text : List Char) (n : Nat) : Prop :=
  ∃ sign digits ds, (sign = [] ∨ sign = ['+']) ∧ text = sign ++ digits ∧ ds ≠ [] ∧
    List.Forall₂ Digit digits ds ∧ n = Nat.ofDigits base ds.reverse

end Numeral

namespace InitFlags

open Numeral

/-- A text denotes a number: in base 16 if it begins with `0x`, and else in base 10. -/
inductive Denotes (s : String) (n : Nat) : Prop
  | hex {text : List Char} (mark : s.toList = '0' :: 'x' :: text) (h : IsNumeral HexDigit 16 text n)
  | decimal (noMark : ∀ text, s.toList ≠ '0' :: 'x' :: text)
      (h : IsNumeral DecimalDigit 10 s.toList n)

end InitFlags

/-! ## Digits -/

namespace Numeral

theorem exists_eq_ofNat (first : Nat) {c : Char} (h : first ≤ c.toNat) :
    ∃ k, c.toNat = first + k ∧ c = Char.ofNat (first + k) := by
  obtain ⟨k, hk⟩ := Nat.exists_eq_add_of_le h
  exact ⟨k, hk, by rw [← hk, Char.ofNat_toNat]⟩

/-- The three ranges of characters that are taken for digits. -/
theorem hexDigit_ofNat : (∀ k < 10, HexDigit (Char.ofNat (0x30 + k)) k) ∧
    (∀ k < 6, HexDigit (Char.ofNat (0x61 + k)) (k + 10)) ∧
      ∀ k < 6, HexDigit (Char.ofNat (0x41 + k)) (k + 10) := by
  decide

theorem digit?_of_getElem? : ∀ d < 16,
    "0123456789abcdef".toList[d]?.bind (digit? 16) = some d ∧
      "0123456789ABCDEF".toList[d]?.bind (digit? 16) = some d := by
  decide

/-- No other characters than these are digits, in any base up to 16. -/
theorem digit?_eq_some_iff {base : Nat} (hbase : base ≤ 16) (c : Char) (d : Nat) :
    digit? base c = some d ↔ d < base ∧ HexDigit c d := by
  constructor
  · intro h
    rw [digit?, Option.filter_eq_some_iff, decide_eq_true_eq] at h
    obtain ⟨hvalue, hd⟩ := h
    refine ⟨hd, ?_⟩
    obtain ⟨hdecimal, hlower, hupper⟩ := hexDigit_ofNat
    simp only [Bool.and_eq_true, decide_eq_true_eq] at hvalue
    split_ifs at hvalue with hzero ha hA
    · obtain ⟨k, hk, rfl⟩ := exists_eq_ofNat 0x30 hzero.1
      have hlast : (Char.ofNat (0x30 + k)).toNat ≤ 0x39 := hzero.2
      obtain rfl : k = d := by simpa [hk] using hvalue
      exact hdecimal k (by omega)
    · obtain ⟨k, hk, rfl⟩ := exists_eq_ofNat 0x61 ha.1
      obtain rfl : k + 10 = d := by simpa [hk] using hvalue
      exact hlower k (by omega)
    · obtain ⟨k, hk, rfl⟩ := exists_eq_ofNat 0x41 hA.1
      obtain rfl : k + 10 = d := by simpa [hk] using hvalue
      exact hupper k (by omega)
  · rintro ⟨hd, h⟩
    obtain ⟨hlower, hupper⟩ := digit?_of_getElem? d (Nat.lt_of_lt_of_le hd hbase)
    rcases h with h | h
    · rw [h] at hlower
      exact digit?_of_lt hd hlower
    · rw [h] at hupper
      exact digit?_of_lt hd hupper

theorem digit?_sixteen_iff (c : Char) (d : Nat) : digit? 16 c = some d ↔ HexDigit c d := by
  rw [digit?_eq_some_iff (Nat.le_refl 16), and_iff_right_iff_imp]
  rintro (h | h) <;> exact (List.getElem?_eq_some_iff.1 h).1

theorem digit?_ten_iff (c : Char) (d : Nat) : digit? 10 c = some d ↔ DecimalDigit c d := by
  have hlow : ∀ d < 10, "0123456789abcdef".toList[d]? = "0123456789".toList[d]? ∧
      "0123456789ABCDEF".toList[d]? = "0123456789".toList[d]? := by decide
  rw [digit?_eq_some_iff (by decide)]
  constructor
  · rintro ⟨hd, h⟩
    rwa [HexDigit, (hlow d hd).1, (hlow d hd).2, or_self] at h
  · intro h
    have hd : d < 10 := (List.getElem?_eq_some_iff.1 h).1
    exact ⟨hd, .inl ((hlow d hd).1.trans h)⟩

/-! ## Numbers below a bound -/

section

variable {Digit : Char → Nat → Prop} {base bound : Nat} {text : List Char} {n : Nat}
  (hdigit : ∀ c d, digit? base c = some d ↔ Digit c d)

include hdigit

theorem isNumeral_iff :
    IsNumeral Digit base text n ↔
      ∃ ds, ds ≠ [] ∧ Spells base (withoutPlus text) ds ∧ n = value base ds := by
  obtain rfl : (fun c d => digit? base c = some d) = Digit :=
    funext fun c => funext fun d => propext (hdigit c d)
  constructor
  · rintro ⟨sign, digits, ds, rfl | rfl, rfl, hne, hspells, rfl⟩
    · rw [withoutPlus_of_spells hspells]
      exact ⟨ds, hne, hspells, rfl⟩
    · exact ⟨ds, hne, hspells, rfl⟩
  · rintro ⟨ds, hne, hspells, rfl⟩
    unfold withoutPlus at hspells
    split at hspells
    · exact ⟨['+'], _, ds, .inr rfl, rfl, hne, hspells, rfl⟩
    · exact ⟨[], _, ds, .inl rfl, rfl, hne, hspells, rfl⟩

theorem read_eq_ok_iff_isNumeral (hbase : 0 < base) (hbound : 0 < bound) :
    read base bound text = .ok n ↔ IsNumeral Digit base text n ∧ n < bound := by
  rw [read_eq_ok_iff hbase hbound, isNumeral_iff hdigit]
  constructor
  · rintro ⟨ds, hne, hspells, hn, hlt⟩
    exact ⟨⟨ds, hne, hspells, hn⟩, hlt⟩
  · rintro ⟨⟨ds, hne, hspells, hn⟩, hlt⟩
    exact ⟨ds, hne, hspells, hn, hlt⟩

/-- A numeral for any other number is refused for its size. -/
theorem read_eq_tooLarge_of_isNumeral (hbound : 0 < bound) (h : IsNumeral Digit base text n)
    (hn : bound ≤ n) : read base bound text = .error .tooLarge := by
  obtain ⟨ds, hne, hspells, rfl⟩ := (isNumeral_iff hdigit).1 h
  rcases read_cases base bound text with ⟨hnil, -⟩ | ⟨-, hread⟩
  · rw [hnil] at hspells
    exact absurd (List.forall₂_nil_left_iff.1 hspells) hne
  · rw [hread]
    exact readDigits_eq_tooLarge hspells hbound (by rwa [Nat.zero_mul, Nat.zero_add])

end

end Numeral

/-! ## Sets of flags -/

namespace InitFlags

open Numeral

/-- What comes of the number that is read for a text. -/
def ofReading (s : String) : Except Numeral.Fault Nat → Except BadNumeral InitFlags
  | .ok n => .ok ⟨UInt32.ofNat n⟩
  | .error fault => .error ⟨s, fault⟩

section

variable {s : String} {text : List Char} {n : Nat}

theorem parse_eq_of_mark (h : s.toList = '0' :: 'x' :: text) :
    parse s = ofReading s (read 16 UInt32.size text) := by
  simp only [parse, h]
  rfl

theorem parse_eq_of_noMark (h : ∀ text, s.toList ≠ '0' :: 'x' :: text) :
    parse s = ofReading s (read 10 UInt32.size s.toList) := by
  unfold parse
  split
  · rename_i digits hdigits
    exact absurd hdigits (h digits)
  · rfl

/-- A number that was read fits into the word, so that it is the word. -/
theorem ofReading_eq_ok_iff {r : Except Numeral.Fault Nat} (h : ∀ n, r = .ok n → n < UInt32.size)
    (flags : InitFlags) : ofReading s r = .ok flags ↔ r = .ok flags.bits.toNat := by
  cases r with
  | error fault => simp [ofReading]
  | ok n =>
    have hn : (UInt32.ofNat n).toNat = n := UInt32.toNat_ofNat_of_lt' (h n rfl)
    obtain ⟨bits⟩ := flags
    simp only [ofReading, Except.ok.injEq, mk.injEq]
    constructor
    · rintro rfl
      exact hn.symm
    · rintro rfl
      exact UInt32.ofNat_toNat

/-- A text is a numeral in one of the two bases, and is read in that base. -/
theorem exists_parse_eq (s : String) : ∃ r,
    parse s = ofReading s r ∧ (∀ n, r = .ok n ↔ Denotes s n ∧ n < UInt32.size) ∧
      ∀ n, Denotes s n → UInt32.size ≤ n → r = .error .tooLarge := by
  have hsize : 0 < UInt32.size := by decide
  by_cases hmark : ∃ text, s.toList = '0' :: 'x' :: text
  · obtain ⟨text, hmark⟩ := hmark
    have hdenotes : ∀ n, Denotes s n ↔ IsNumeral HexDigit 16 text n := by
      intro n
      constructor
      · rintro (⟨hmark', h⟩ | ⟨hno, -⟩)
        · rw [hmark] at hmark'
          cases hmark'
          exact h
        · exact absurd hmark (hno text)
      · exact .hex hmark
    refine ⟨_, parse_eq_of_mark hmark, fun n => ?_, fun n h => ?_⟩
    · rw [hdenotes]
      exact read_eq_ok_iff_isNumeral digit?_sixteen_iff (by decide) hsize
    · exact read_eq_tooLarge_of_isNumeral digit?_sixteen_iff hsize ((hdenotes n).1 h)
  · rw [not_exists] at hmark
    have hdenotes : ∀ n, Denotes s n ↔ IsNumeral DecimalDigit 10 s.toList n := by
      intro n
      constructor
      · rintro (⟨hmark', -⟩ | ⟨-, h⟩)
        · exact absurd hmark' (hmark _)
        · exact h
      · exact .decimal hmark
    refine ⟨_, parse_eq_of_noMark hmark, fun n => ?_, fun n h => ?_⟩
    · rw [hdenotes]
      exact read_eq_ok_iff_isNumeral digit?_ten_iff (by decide) hsize
    · exact read_eq_tooLarge_of_isNumeral digit?_ten_iff hsize ((hdenotes n).1 h)

theorem parse_eq_ok_iff_denotes (s : String) (flags : InitFlags) :
    parse s = .ok flags ↔ Denotes s flags.bits.toNat := by
  obtain ⟨r, hparse, hok, -⟩ := exists_parse_eq s
  rw [hparse, ofReading_eq_ok_iff fun n hn => ((hok n).1 hn).2, hok]
  exact and_iff_left flags.bits.toNat_lt

theorem parse_eq_tooLarge_of_denotes (h : Denotes s n) (hn : 2 ^ 32 ≤ n) :
    parse s = .error ⟨s, .tooLarge⟩ := by
  obtain ⟨r, hparse, -, hlarge⟩ := exists_parse_eq s
  rw [hparse, hlarge n h hn]
  rfl

/-- No other texts than numerals for a number of 32 bits are read. -/
theorem exists_parse_eq_ok_iff (s : String) :
    (∃ flags, parse s = .ok flags) ↔ ∃ n, Denotes s n ∧ n < 2 ^ 32 := by
  constructor
  · rintro ⟨flags, hparse⟩
    exact ⟨_, (parse_eq_ok_iff_denotes s flags).1 hparse, flags.bits.toNat_lt⟩
  · rintro ⟨n, h, hn⟩
    refine ⟨⟨UInt32.ofNat n⟩, (parse_eq_ok_iff_denotes s _).2 ?_⟩
    rwa [UInt32.toNat_ofNat_of_lt' hn]

end

/-! ## Written words -/

theorem toList_mark_append (text : String) : ("0x" ++ text).toList = '0' :: 'x' :: text.toList := by
  rw [String.toList_append]
  rfl

/-- In base 16 a word is read back, however many zeros come first. -/
theorem parse_mark_paddedHex (width : Nat) (flags : InitFlags) :
    parse ("0x" ++ Numeral.paddedHex width flags.bits.toNat) = .ok flags := by
  rw [parse_eq_of_mark (toList_mark_append _), read_paddedHex width flags.bits.toNat_lt]
  exact congrArg Except.ok (congrArg mk UInt32.ofNat_toNat)

theorem toList_paddedHex (flags : InitFlags) :
    flags.paddedHex.toList = '0' :: 'x' :: (Numeral.paddedHex 8 flags.bits.toNat).toList :=
  toList_mark_append _

theorem parse_paddedHex (flags : InitFlags) : parse flags.paddedHex = .ok flags :=
  parse_mark_paddedHex 8 flags

theorem parse_mark_hex (flags : InitFlags) : parse ("0x" ++ flags.hex) = .ok flags := by
  have hwidth : flags.hex = Numeral.paddedHex 0 flags.bits.toNat := by
    rw [hex, Numeral.hex, Numeral.paddedHex, List.leftpad, Nat.zero_sub]
    rfl
  rw [hwidth]
  exact parse_mark_paddedHex 0 flags

theorem parse_repr (flags : InitFlags) : parse flags.bits.toNat.repr = .ok flags := by
  have hmark : ∀ text, flags.bits.toNat.repr.toList ≠ '0' :: 'x' :: text := by
    intro text h
    have hmem : 'x' ∈ flags.bits.toNat.repr.toList := by simp [h]
    exact absurd (isDigit_of_mem_repr hmem) (by decide)
  rw [parse_eq_of_noMark hmark, read_repr flags.bits.toNat_lt]
  exact congrArg Except.ok (congrArg mk UInt32.ofNat_toNat)

/-! ## Main theorem -/

/-- **Numerals for flags.** A text is read exactly if it is a numeral for a number of 32 bits, and
then as the set whose word is that number; a numeral for any other number is refused for its size.
A word is read back from base 10, and from base 16 with and without leading zeros. -/
theorem parse_numerals :
    (∀ s flags, parse s = .ok flags ↔ Denotes s flags.bits.toNat) ∧
      (∀ s, (∃ flags, parse s = .ok flags) ↔ ∃ n, Denotes s n ∧ n < 2 ^ 32) ∧
      (∀ s n, Denotes s n → 2 ^ 32 ≤ n → parse s = .error ⟨s, .tooLarge⟩) ∧
      ∀ flags, parse flags.bits.toNat.repr = .ok flags ∧ parse ("0x" ++ flags.hex) = .ok flags ∧
        parse flags.paddedHex = .ok flags := by
  refine ⟨parse_eq_ok_iff_denotes, exists_parse_eq_ok_iff, fun s n => parse_eq_tooLarge_of_denotes,
    fun flags => ?_⟩
  exact ⟨parse_repr flags, parse_mark_hex flags, parse_paddedHex flags⟩

/-- The greatest word, and the number after it, each with a sign, zeros and letters of either case.
-/
theorem parse_numerals_bound :
    Denotes "0x+00FfffFFFf" (2 ^ 32 - 1) ∧ parse "0x+00FfffFFFf" = .ok ⟨0xffffffff⟩ ∧
      Denotes "+04294967296" (2 ^ 32) ∧
      parse "+04294967296" = .error ⟨"+04294967296", .tooLarge⟩ := by
  have hlast : Denotes "0x+00FfffFFFf" (2 ^ 32 - 1) :=
    .hex rfl ⟨['+'], "00FfffFFFf".toList, [0, 0, 15, 15, 15, 15, 15, 15, 15, 15], .inr rfl, rfl,
      by decide, by decide, by decide⟩
  have hnext : Denotes "+04294967296" (2 ^ 32) :=
    .decimal (by simp) ⟨['+'], "04294967296".toList, [0, 4, 2, 9, 4, 9, 6, 7, 2, 9, 6], .inr rfl,
      rfl, by decide, by decide, by decide⟩
  obtain ⟨hok, -, hlarge, -⟩ := parse_numerals
  exact ⟨hlast, (hok _ ⟨0xffffffff⟩).2 hlast, hnext, hlarge _ _ hnext (Nat.le_refl _)⟩

end InitFlags

end FuseMount
