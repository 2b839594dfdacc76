import FuseMount.Text.Numeral
import Mathlib.Data.List.Forall2
import Mathlib.Data.Nat.Digits.Defs

/-!
# The numbers that numerals spell

A numeral is read from left to right, and the reading stops as soon as the number reaches the bound.
That is no loss: a number only grows with further digits, so a numeral is read exactly if the number
that all its digits stand for is below the bound. What is written is read back.

Results:

* `readDigits_eq_ok_iff`, `read_eq_ok_iff`: what is read, by the value of all digits.
* `readDigits_eq_tooLarge`: digits are refused only if their value is not below the bound.
* `exists_toDigits_eq`: the digits that are written, and their value.
* `read_repr`, `read_paddedHex`: a number is read back in base 10, and in base 16, also if it is
  filled up with zeros.
-/

namespace FuseMount.Numeral

/-! ## Specification -/

/-- The number that digits stand for, the most significant one first. -/
def value (base : Nat) (ds : List Nat) : Nat :=
  Nat.ofDigits base ds.reverse

/-- Characters stand for digits, one by one. -/
def Spells (base : Nat) (cs : List Char) (ds : List Nat) : Prop :=
  List.Forall₂ (fun c d => digit? base c = some d) cs ds

/-- The text after a plus sign, if it begins with one. -/
def withoutPlus : List Char → List Char
  | '+' :: cs => cs
  | cs => cs

/-! ## Values -/

theorem value_append (base : Nat) (ds ds' : List Nat) :
    value base (ds ++ ds') = value base ds * base ^ ds'.length + value base ds' := by
  rw [value, List.reverse_append, Nat.ofDigits_append, List.length_reverse, Nat.mul_comm,
    Nat.add_comm]
  rfl

theorem value_singleton (base d : Nat) : value base [d] = d :=
  Nat.ofDigits_singleton

theorem value_cons (base d : Nat) (ds : List Nat) :
    value base (d :: ds) = d * base ^ ds.length + value base ds := by
  rw [← List.singleton_append, value_append, value_singleton]

theorem value_replicate_zero_append (base k : Nat) (ds : List Nat) :
    value base (List.replicate k 0 ++ ds) = value base ds := by
  induction k with
  | zero => rfl
  | succ k ih => rw [List.replicate_succ, List.cons_append, value_cons, ih, Nat.zero_mul,
      Nat.zero_add]

/-- Reading one digit more, the number so far is brought up by one place. -/
theorem mul_pow_add_value_cons (base n d : Nat) (ds : List Nat) :
    n * base ^ (d :: ds).length + value base (d :: ds) =
      (n * base + d) * base ^ ds.length + value base ds := by
  rw [value_cons, List.length_cons, pow_succ]
  ring

/-! ## Reading -/

/-- A number is read if the number that all digits lead to is below the bound. -/
theorem readDigits_eq_ok_iff {base bound n : Nat} (hbase : 0 < base) (hn : n < bound)
    (cs : List Char) (v : Nat) :
    readDigits base bound n cs = .ok v ↔
      ∃ ds, Spells base cs ds ∧ v = n * base ^ ds.length + value base ds ∧ v < bound := by
  induction cs generalizing n with
  | nil =>
    rw [readDigits]
    constructor
    · rintro ⟨⟩
      exact ⟨[], .nil, by simp [value], hn⟩
    · rintro ⟨ds, ⟨⟩, hv, -⟩
      rw [hv]
      simp [value]
  | cons c cs ih =>
    rw [readDigits]
    cases hc : digit? base c with
    | none =>
      refine iff_of_false (by simp) ?_
      rintro ⟨_, hcons | ⟨hd, -⟩, -⟩
      rw [hc] at hd
      cases hd
    | some d =>
      simp only
      constructor
      · intro h
        split_ifs at h with hlt
        obtain ⟨ds, hds, hv, hbound⟩ := (ih hlt).1 h
        exact ⟨d :: ds, .cons hc hds, hv.trans (mul_pow_add_value_cons base n d ds).symm, hbound⟩
      · rintro ⟨_, _ | ⟨hd, hds⟩, hv, hbound⟩
        rename_i d' ds
        rw [hc] at hd
        cases hd
        rw [mul_pow_add_value_cons] at hv
        -- the number so far is not above the number that all digits lead to
        have hlt : n * base + d < bound :=
          calc n * base + d ≤ (n * base + d) * base ^ ds.length :=
                Nat.le_mul_of_pos_right _ (Nat.pow_pos hbase)
            _ ≤ v := by rw [hv]; exact Nat.le_add_right _ _
            _ < bound := hbound
        rw [if_pos hlt]
        exact (ih hlt).2 ⟨ds, hds, hv, hbound⟩

/-- Where all characters are digits, nothing but a number that is too large can be wrong. -/
theorem readDigits_eq_tooLarge {base bound n : Nat} {cs : List Char} {ds : List Nat}
    (h : Spells base cs ds) (hn : n < bound)
    (hbound : bound ≤ n * base ^ ds.length + value base ds) :
    readDigits base bound n cs = .error .tooLarge := by
  induction h generalizing n with
  | nil =>
    have hnil : n * base ^ ([] : List Nat).length + value base [] = n := by simp [value]
    omega
  | @cons c d cs ds hc hcs ih =>
    simp only [readDigits, hc]
    split_ifs with hlt
    · rw [mul_pow_add_value_cons] at hbound
      exact ih hlt hbound
    · rfl

/-- Only a text in which nothing stands, or nothing but a plus sign, is refused at once. -/
theorem read_cases (base bound : Nat) (cs : List Char) :
    withoutPlus cs = [] ∧ (∃ fault, read base bound cs = .error fault) ∨
      withoutPlus cs ≠ [] ∧ read base bound cs = readDigits base bound 0 (withoutPlus cs) := by
  unfold read
  split
  · exact .inl ⟨rfl, _, rfl⟩
  · exact .inl ⟨rfl, _, rfl⟩
  · rename_i cs hcs
    exact .inr ⟨fun h => hcs (h ▸ rfl), rfl⟩
  · rename_i hne _ hplus
    unfold withoutPlus
    split
    · exact absurd rfl (hplus _)
    · exact .inr ⟨hne, rfl⟩

/-- A text is read if digits stand in it, after at most one plus sign, and their value is below the
bound. -/
theorem read_eq_ok_iff {base bound : Nat} (hbase : 0 < base) (hbound : 0 < bound)
    (cs : List Char) (v : Nat) :
    read base bound cs = .ok v ↔
      ∃ ds, ds ≠ [] ∧ Spells base (withoutPlus cs) ds ∧ v = value base ds ∧ v < bound := by
  rcases read_cases base bound cs with ⟨hnil, fault, hread⟩ | ⟨hne, hread⟩
  · refine iff_of_false (by simp [hread]) ?_
    rw [hnil]
    rintro ⟨ds, hds, ⟨⟩, -⟩
    exact hds rfl
  · rw [hread, readDigits_eq_ok_iff hbase hbound]
    refine exists_congr fun ds => ?_
    rw [Nat.zero_mul, Nat.zero_add]
    refine ⟨fun ⟨hds, h⟩ => ⟨?_, hds, h⟩, fun ⟨_, hds, h⟩ => ⟨hds, h⟩⟩
    rintro rfl
    exact hne (List.forall₂_nil_right_iff.1 hds)

/-- What stands for digits does not begin with a plus sign. -/
theorem withoutPlus_of_spells {base : Nat} {cs : List Char} {ds : List Nat}
    (h : Spells base cs ds) : withoutPlus cs = cs := by
  unfold withoutPlus
  split
  · rcases h with _ | ⟨hplus, -⟩
    cases hplus
  · rfl

theorem Spells.unique {base : Nat} {cs : List Char} {ds ds' : List Nat} (h : Spells base cs ds)
    (h' : Spells base cs ds') : ds = ds' := by
  induction h generalizing ds' with
  | nil => cases h'; rfl
  | cons hd _ ih =>
    rcases h' with _ | ⟨hd', h'⟩
    rw [hd] at hd'
    cases hd'
    rw [ih h']

/-- Digits are read if their value is below the bound. -/
theorem read_eq_ok_iff_of_spells {base bound : Nat} (hbase : 0 < base) (hbound : 0 < bound)
    {cs : List Char} {ds : List Nat} (hne : ds ≠ []) (h : Spells base cs ds) (v : Nat) :
    read base bound cs = .ok v ↔ v = value base ds ∧ v < bound := by
  rw [read_eq_ok_iff hbase hbound, withoutPlus_of_spells h]
  constructor
  · rintro ⟨ds', -, h', hv⟩
    rwa [h.unique h']
  · rintro hv
    exact ⟨ds, hne, h, hv⟩

/-! ## Writing -/

/-- A number is written in digits that have it as their value. -/
theorem exists_toDigits_eq {base : Nat} (hbase : 1 < base) (n : Nat) :
    ∃ ds, Nat.toDigits base n = ds.map Nat.digitChar ∧ (∀ d ∈ ds, d < base) ∧
      value base ds = n := by
  induction n using Nat.strongRecOn with
  | ind n ih =>
    rw [Nat.toDigits_eq_if hbase]
    split_ifs with hn
    · exact ⟨[n], rfl, by simpa using hn, value_singleton base n⟩
    · obtain ⟨ds, hds, hlt, hv⟩ := ih (n / base) (Nat.div_lt_self (by omega) hbase)
      refine ⟨ds ++ [n % base], by simp [hds], ?_, ?_⟩
      · intro d hd
        rcases List.mem_append.1 hd with hd | hd
        · exact hlt d hd
        · rw [List.mem_singleton.1 hd]
          exact Nat.mod_lt n (by omega)
      · rw [value_append, hv, value_singleton, List.length_singleton, pow_one,
          Nat.div_add_mod']

theorem isDigit_of_mem_repr {n : Nat} {c : Char} (h : c ∈ n.repr.toList) : c.isDigit := by
  rw [Nat.toList_repr] at h
  exact Nat.isDigit_of_mem_toDigits (by decide) (by decide) h

/-- Filling up with zeros changes neither the value nor which characters there may be. -/
theorem exists_paddedHex_eq (width n : Nat) :
    ∃ ds, (paddedHex width n).toList = ds.map Nat.digitChar ∧ (∀ d ∈ ds, d < 16) ∧
      value 16 ds = n := by
  obtain ⟨ds, hds, hlt, hv⟩ := exists_toDigits_eq (show 1 < 16 by decide) n
  refine ⟨List.replicate (width - (Nat.toDigits 16 n).length) 0 ++ ds, ?_, ?_, ?_⟩
  · rw [paddedHex, String.toList_ofList, List.leftpad, List.map_append, List.map_replicate, ← hds]
    rfl
  · intro d hd
    rcases List.mem_append.1 hd with hd | hd
    · rw [List.eq_of_mem_replicate hd]
      decide
    · exact hlt d hd
  · rw [value_replicate_zero_append, hv]

theorem length_paddedHex {width n : Nat} (hwidth : 0 < width) (hn : n < 16 ^ width) :
    (paddedHex width n).toList.length = width := by
  rw [paddedHex, String.toList_ofList, List.length_leftpad, Nat.max_eq_left]
  exact (Nat.length_toDigits_le_iff (by decide) hwidth).2 hn

/-- A digit is the same digit in every base that has it. -/
theorem digit?_of_lt {base d : Nat} {c : Char} (hd : d < base) (h : digit? 16 c = some d) :
    digit? base c = some d := by
  rw [digit?, Option.filter_eq_some_iff] at h ⊢
  exact ⟨h.1, decide_eq_true hd⟩

theorem digit?_digitChar {base d : Nat} (hbase : base ≤ 16) (hd : d < base) :
    digit? base (Nat.digitChar d) = some d := by
  have hsixteen : ∀ d < 16, digit? 16 (Nat.digitChar d) = some d := by decide
  exact digit?_of_lt hd (hsixteen d (Nat.lt_of_lt_of_le hd hbase))

theorem spells_map_digitChar {base : Nat} (hbase : base ≤ 16) {ds : List Nat}
    (h : ∀ d ∈ ds, d < base) : Spells base (ds.map Nat.digitChar) ds := by
  rw [Spells, List.forall₂_map_left_iff, List.forall₂_same]
  exact fun d hd => digit?_digitChar hbase (h d hd)

/-- Written digits are read back if their value is below the bound. -/
theorem read_map_digitChar {base bound : Nat} (hbase : base ≤ 16) {ds : List Nat} (hne : ds ≠ [])
    (hlt : ∀ d ∈ ds, d < base) (h : value base ds < bound) :
    read base bound (ds.map Nat.digitChar) = .ok (value base ds) := by
  have hpos : 0 < base := by
    obtain ⟨d, hd⟩ := List.exists_mem_of_ne_nil ds hne
    exact Nat.zero_lt_of_lt (hlt d hd)
  exact (read_eq_ok_iff_of_spells hpos (Nat.zero_lt_of_lt h) hne (spells_map_digitChar hbase hlt)
    _).2 ⟨rfl, h⟩

/-- A number below the bound is read back in base 10, -/
theorem read_repr {bound n : Nat} (h : n < bound) : read 10 bound n.repr.toList = .ok n := by
  obtain ⟨ds, hds, hlt, rfl⟩ := exists_toDigits_eq (show 1 < 10 by decide) n
  have hne : ds ≠ [] := by
    rintro rfl
    exact absurd hds Nat.toDigits_ne_nil
  rw [Nat.toList_repr, hds]
  exact read_map_digitChar (by decide) hne hlt h

/-- and in base 16. -/
theorem read_paddedHex (width : Nat) {bound n : Nat} (h : n < bound) :
    read 16 bound (paddedHex width n).toList = .ok n := by
  obtain ⟨ds, hds, hlt, rfl⟩ := exists_paddedHex_eq width n
  have hne : ds ≠ [] := by
    rintro rfl
    rw [paddedHex, String.toList_ofList, List.leftpad] at hds
    simp at hds
  rw [hds]
  exact read_map_digitChar (Nat.le_refl 16) hne hlt h

end FuseMount.Numeral
