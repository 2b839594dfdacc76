import FuseMount.Json.Lexeme
import Mathlib.Data.List.Forall2
import Mathlib.Data.List.TakeWhile

/-!
# The grammar of JSON

JSON documents (RFC 8259) as trees. A `Tree` keeps every lexeme as it is written, but not the white
space between them; a list of characters spells a tree if it is made of the lexemes of the tree with
any white space between them (`Tree.Spells`). Numbers may be of any size, and an escape in a string
may be half of a surrogate pair without the other half: a string like that is well formed, but
stands for no text (`chars?`).

Results:

* `Tree.spells_text`: every tree is spelled without white space by `Tree.text`.
* `Tree.Spells.exists_cons`: what a tree begins with tells its kind.
* `ValueEnd.of_blank_append`: what may come after a value may do so after white space.
-/

namespace FuseMount.Json

/-! ## White space -/

/-- White space between lexemes. -/
def Blank (cs : List Char) : Prop :=
  ∀ c ∈ cs, isSpace c = true

theorem blank_nil : Blank [] := fun _ h => absurd h List.not_mem_nil

theorem Blank.append {w w' : List Char} (hw : Blank w) (hw' : Blank w') : Blank (w ++ w') :=
  fun c hc => (List.mem_append.1 hc).elim (hw c) (hw' c)

theorem skipSpace_blank_append {w : List Char} (hw : Blank w) (cs : List Char) :
    skipSpace (w ++ cs) = skipSpace cs :=
  List.dropWhile_append_of_pos hw

theorem skipSpace_of_blank {w : List Char} (hw : Blank w) : skipSpace w = [] :=
  List.dropWhile_eq_nil_iff.2 hw

theorem skipSpace_cons {c : Char} (hc : isSpace c = false) (cs : List Char) :
    skipSpace (c :: cs) = c :: cs := by
  rw [skipSpace, List.dropWhile_cons_of_neg (by simp [hc])]

theorem skipSpace_blank_append_cons {w : List Char} (hw : Blank w) {c : Char}
    (hc : isSpace c = false) (cs : List Char) : skipSpace (w ++ c :: cs) = c :: cs := by
  rw [skipSpace_blank_append hw, skipSpace_cons hc]

/-- What is skipped is white space. -/
theorem exists_blank_append_skipSpace (cs : List Char) :
    ∃ w, Blank w ∧ cs = w ++ skipSpace cs :=
  ⟨cs.takeWhile isSpace, fun _ h => List.mem_takeWhile_imp h, List.takeWhile_append_dropWhile.symm⟩

/-! ## Strings -/

/-- Four digits in base 16 and their value. -/
inductive IsHex4 : List Char → Nat → Prop
  | mk {a b c d : Char} {x y z w : Nat} (ha : hexDigit? a = some x) (hb : hexDigit? b = some y)
      (hc : hexDigit? c = some z) (hd : hexDigit? d = some w) :
      IsHex4 [a, b, c, d] (((x * 16 + y) * 16 + z) * 16 + w)

/-- A unit of a string as it is written. -/
inductive StringUnit where
  /-- A character that stands for itself. -/
  | plain (c : Char) (ordinary : c ≠ '"' ∧ c ≠ '\\' ∧ 0x20 ≤ c.toNat)
  /-- A backslash with a letter that stands for a character. -/
  | short (letter c : Char) (h : shortEscape? letter = some c)
  /-- A backslash with a code unit in base 16. -/
  | code (digits : List Char) (n : Nat) (h : IsHex4 digits n)

/-- A unit as it is written. -/
def StringUnit.text : StringUnit → List Char
  | plain c _ => [c]
  | short letter _ _ => ['\\', letter]
  | code digits _ _ => '\\' :: 'u' :: digits

/-- Units as they are written between the quotes. -/
def bodyText (units : List StringUnit) : List Char :=
  units.flatMap StringUnit.text

/-- A string as it is written. -/
def stringText (units : List StringUnit) : List Char :=
  '"' :: (bodyText units ++ ['"'])

/-- The characters that units stand for, unless half of a surrogate pair stands alone. -/
def chars? : List StringUnit → Option (List Char)
  | [] => some []
  | .plain c _ :: us => (c :: ·) <$> chars? us
  | .short _ c _ :: us => (c :: ·) <$> chars? us
  | .code _ n _ :: us =>
    if isTrailing n then none
    else if isLeading n then
      match us with
      | .code _ m _ :: us =>
        if isTrailing m then
          (Char.ofNat (0x10000 + (n - 0xD800) * 0x400 + (m - 0xDC00)) :: ·) <$> chars? us
        else none
      | _ => none
    else (Char.ofNat n :: ·) <$> chars? us

/-- The text that units stand for. -/
def text? (units : List StringUnit) : Option String :=
  String.ofList <$> chars? units

/-! ## Numbers -/

/-- One or more decimal digits. -/
def Digits (ds : List Char) : Prop :=
  ds ≠ [] ∧ ∀ c ∈ ds, isDigit c = true

/-- The digits before the point, of which the first one is a zero only if it is the only one. -/
inductive IsInteger : List Char → Prop
  | zero : IsInteger ['0']
  | digits {d : Char} {ds : List Char} (hd : isDigit d = true) (hzero : d ≠ '0')
      (hds : ∀ c ∈ ds, isDigit c = true) : IsInteger (d :: ds)

/-- The point and the digits after it, or nothing. -/
inductive IsFraction : List Char → Prop
  | none : IsFraction []
  | digits {ds : List Char} (h : Digits ds) : IsFraction ('.' :: ds)

/-- An exponent, or nothing. -/
inductive IsExponent : List Char → Prop
  | none : IsExponent []
  | digits {e : Char} {sign ds : List Char} (he : e = 'e' ∨ e = 'E')
      (hsign : sign = [] ∨ sign = ['+'] ∨ sign = ['-']) (h : Digits ds) :
      IsExponent (e :: (sign ++ ds))

/-- A number without its sign. -/
inductive IsMagnitude : List Char → Prop
  | mk {i f e : List Char} (hi : IsInteger i) (hf : IsFraction f) (he : IsExponent e) :
      IsMagnitude (i ++ (f ++ e))

/-- A number. -/
inductive IsNumber : List Char → Prop
  | positive {cs : List Char} (h : IsMagnitude cs) : IsNumber cs
  | negative {cs : List Char} (h : IsMagnitude cs) : IsNumber ('-' :: cs)

/-! ## Trees -/

/-- A value of JSON by its lexemes. -/
inductive Tree where
  | null
  | bool (b : Bool)
  | number (text : { cs : List Char // IsNumber cs })
  | string (units : List StringUnit)
  | array (items : List Tree)
  | object (members : List (List StringUnit × Tree))

/-- What stands before an item or a member: white space, and a comma unless it is the first one. -/
inductive Separator : Bool → List Char → Prop
  | first {w : List Char} (hw : Blank w) : Separator true w
  | comma {w w' : List Char} (hw : Blank w) (hw' : Blank w') : Separator false (w ++ ',' :: w')

mutual

/-- The characters spell a tree. -/
inductive Tree.Spells : Tree → List Char → Prop
  | null : Spells .null ['n', 'u', 'l', 'l']
  | true : Spells (.bool true) ['t', 'r', 'u', 'e']
  | false : Spells (.bool false) ['f', 'a', 'l', 's', 'e']
  | number (n : { cs : List Char // IsNumber cs }) : Spells (.number n) n.val
  | string (us : List StringUnit) : Spells (.string us) (stringText us)
  | array {ts : List Tree} {cs : List Char} (h : SpellsItems .true ts cs) :
      Spells (.array ts) ('[' :: cs)
  | object {ms : List (List StringUnit × Tree)} {cs : List Char} (h : SpellsMembers .true ms cs) :
      Spells (.object ms) ('\x7b' :: cs)

/-- The characters spell the items of an array that are left, the first ones of all or further ones,
and the bracket after them. -/
inductive Tree.SpellsItems : Bool → List Tree → List Char → Prop
  | done {first : Bool} {w : List Char} (hw : Blank w) : SpellsItems first [] (w ++ [']'])
  | item {first : Bool} {w value cs : List Char} {t : Tree} {ts : List Tree}
      (hw : Separator first w) (h : Spells t value) (hts : SpellsItems .false ts cs) :
      SpellsItems first (t :: ts) (w ++ (value ++ cs))

/-- The characters spell the members of an object that are left, the first ones of all or further
ones, and the brace after them. -/
inductive Tree.SpellsMembers : Bool → List (List StringUnit × Tree) → List Char → Prop
  | done {first : Bool} {w : List Char} (hw : Blank w) : SpellsMembers first [] (w ++ ['\x7d'])
  | member {first : Bool} {w w₁ w₂ value cs : List Char} {us : List StringUnit} {t : Tree}
      {ms : List (List StringUnit × Tree)} (hw : Separator first w) (hw₁ : Blank w₁)
      (hw₂ : Blank w₂) (h : Spells t value) (hms : SpellsMembers .false ms cs) :
      SpellsMembers first ((us, t) :: ms)
        (w ++ (stringText us ++ (w₁ ++ ':' :: (w₂ ++ (value ++ cs)))))

end

namespace Tree

/-! ## Trees without white space -/

/-- A separator without white space. -/
def separatorText (first : Bool) : List Char :=
  if first then [] else [',']

theorem separator_separatorText : (first : Bool) → Separator first (separatorText first)
  | true => .first blank_nil
  | false => .comma blank_nil blank_nil

mutual

/-- A tree without white space. -/
def text : Tree → List Char
  | null => ['n', 'u', 'l', 'l']
  | bool true => ['t', 'r', 'u', 'e']
  | bool false => ['f', 'a', 'l', 's', 'e']
  | number n => n.val
  | string us => stringText us
  | array items => '[' :: itemsText true items
  | object members => '\x7b' :: membersText true members

/-- Items without white space, and the bracket after them. -/
def itemsText (first : Bool) : List Tree → List Char
  | [] => [']']
  | t :: ts => separatorText first ++ (t.text ++ itemsText false ts)

/-- Members without white space, and the brace after them. -/
def membersText (first : Bool) : List (List StringUnit × Tree) → List Char
  | [] => ['\x7d']
  | (us, t) :: ms =>
    separatorText first ++ (stringText us ++ ':' :: (t.text ++ membersText false ms))

end

mutual

theorem spells_text : (t : Tree) → t.Spells t.text
  | null => .null
  | bool true => .true
  | bool false => .false
  | number n => .number n
  | string us => .string us
  | array ts => .array (spellsItems_text true ts)
  | object ms => .object (spellsMembers_text true ms)

theorem spellsItems_text (first : Bool) : (ts : List Tree) →
    SpellsItems first ts (itemsText first ts)
  | [] => .done blank_nil
  | t :: ts => .item (separator_separatorText first) (spells_text t) (spellsItems_text false ts)

theorem spellsMembers_text (first : Bool) : (ms : List (List StringUnit × Tree)) →
    SpellsMembers first ms (membersText first ms)
  | [] => .done blank_nil
  | (_, t) :: ms =>
    .member (separator_separatorText first) blank_nil blank_nil (spells_text t)
      (spellsMembers_text false ms)

end

/-! ## What a value begins with -/

/-- The characters that a tree may begin with. -/
def Opens : Tree → Char → Prop
  | null, c => c = 'n'
  | bool true, c => c = 't'
  | bool false, c => c = 'f'
  | number _, c => c = '-' ∨ isDigit c = true
  | string _, c => c = '"'
  | array _, c => c = '['
  | object _, c => c = '\x7b'

end Tree

theorem isDigit_ne {c d : Char} (hc : isDigit c = true) (hd : isDigit d = false) : c ≠ d := by
  rintro rfl
  rw [hc] at hd
  cases hd

theorem isSpace_eq_false_iff {c : Char} :
    isSpace c = false ↔ c ≠ ' ' ∧ c ≠ '\n' ∧ c ≠ '\t' ∧ c ≠ '\r' := by
  simp [isSpace, and_assoc]

theorem isSpace_of_isDigit {c : Char} (hc : isDigit c = true) : isSpace c = false :=
  isSpace_eq_false_iff.2
    ⟨isDigit_ne hc rfl, isDigit_ne hc rfl, isDigit_ne hc rfl, isDigit_ne hc rfl⟩

theorem IsInteger.exists_cons {cs : List Char} (h : IsInteger cs) :
    ∃ d ds, cs = d :: ds ∧ isDigit d = true := by
  cases h with
  | zero => exact ⟨'0', [], rfl, rfl⟩
  | digits hd _ _ => exact ⟨_, _, rfl, hd⟩

theorem IsMagnitude.exists_cons {cs : List Char} (h : IsMagnitude cs) :
    ∃ d ds, cs = d :: ds ∧ isDigit d = true := by
  obtain ⟨hi, -, -⟩ := h
  obtain ⟨d, ds, rfl, hd⟩ := hi.exists_cons
  exact ⟨d, _, rfl, hd⟩

namespace Tree

theorem Spells.exists_cons {t : Tree} {cs : List Char} (h : t.Spells cs) :
    ∃ c cs', cs = c :: cs' ∧ t.Opens c := by
  cases h with
  | number n =>
    obtain ⟨text, hnumber⟩ := n
    cases hnumber with
    | positive h =>
      obtain ⟨d, ds, rfl, hd⟩ := h.exists_cons
      exact ⟨d, ds, rfl, .inr hd⟩
    | negative h => exact ⟨'-', _, rfl, .inl rfl⟩
  | _ => exact ⟨_, _, rfl, rfl⟩

/-- A value begins neither with white space nor with what separates and ends values. -/
theorem Opens.ne {t : Tree} {c : Char} (h : t.Opens c) :
    isSpace c = false ∧ c ≠ ',' ∧ c ≠ ']' ∧ c ≠ '\x7d' := by
  cases t with
  | number n =>
    rcases h with rfl | hd
    · decide
    · exact ⟨isSpace_of_isDigit hd, isDigit_ne hd rfl, isDigit_ne hd rfl, isDigit_ne hd rfl⟩
  | bool b =>
    cases b <;> cases h <;> decide
  | _ => cases h; decide

section

variable {t : Tree}

theorem Opens.eq_null (h : t.Opens 'n') : t = .null := by
  cases t with
  | null => rfl
  | bool b => cases b <;> simp [Opens] at h
  | _ => simp [Opens, isDigit] at h

theorem Opens.eq_true (h : t.Opens 't') : t = .bool true := by
  cases t with
  | bool b => cases b <;> simp [Opens] at h ⊢
  | _ => simp [Opens, isDigit] at h

theorem Opens.eq_false (h : t.Opens 'f') : t = .bool false := by
  cases t with
  | bool b => cases b <;> simp [Opens] at h ⊢
  | _ => simp [Opens, isDigit] at h

theorem Opens.exists_eq_string (h : t.Opens '"') : ∃ us, t = .string us := by
  cases t with
  | string us => exact ⟨us, rfl⟩
  | bool b => cases b <;> simp [Opens] at h
  | _ => simp [Opens, isDigit] at h

theorem Opens.exists_eq_array (h : t.Opens '[') : ∃ ts, t = .array ts := by
  cases t with
  | array ts => exact ⟨ts, rfl⟩
  | bool b => cases b <;> simp [Opens] at h
  | _ => simp [Opens, isDigit] at h

theorem Opens.exists_eq_object (h : t.Opens '\x7b') : ∃ ms, t = .object ms := by
  cases t with
  | object ms => exact ⟨ms, rfl⟩
  | bool b => cases b <;> simp [Opens] at h
  | _ => simp [Opens, isDigit] at h

end

end Tree

/-! ## What may come after a value -/

/-- What may come after a value: nothing, white space, or what separates and ends values. -/
inductive ValueEnd : List Char → Prop
  | nil : ValueEnd []
  | space {c : Char} (hc : isSpace c = true) (cs : List Char) : ValueEnd (c :: cs)
  | comma (cs : List Char) : ValueEnd (',' :: cs)
  | bracket (cs : List Char) : ValueEnd (']' :: cs)
  | brace (cs : List Char) : ValueEnd ('\x7d' :: cs)

theorem ValueEnd.of_blank_append {w cs : List Char} (hw : Blank w) (h : ValueEnd cs) :
    ValueEnd (w ++ cs) := by
  cases w with
  | nil => exact h
  | cons c w => exact .space (hw c List.mem_cons_self) _

theorem ValueEnd.of_blank {w : List Char} (hw : Blank w) : ValueEnd w := by
  simpa using ValueEnd.of_blank_append hw .nil

theorem Tree.Spells.skipSpace_append {t : Tree} {cs w : List Char} (h : t.Spells cs) (hw : Blank w)
    (rest : List Char) : skipSpace (w ++ (cs ++ rest)) = cs ++ rest := by
  obtain ⟨c, cs', rfl, hopens⟩ := h.exists_cons
  rw [List.cons_append, skipSpace_blank_append_cons hw hopens.ne.1]

theorem exists_separator_first {c : Char} {cs r : List Char} (h : skipSpace cs = c :: r) :
    ∃ w, Separator true w ∧ cs = w ++ c :: r := by
  obtain ⟨w, hw, hcs⟩ := exists_blank_append_skipSpace cs
  exact ⟨w, .first hw, h ▸ hcs⟩

theorem exists_separator_comma {cs r : List Char} (h : skipSpace cs = ',' :: r) :
    ∃ w, Separator false w ∧ cs = w ++ skipSpace r := by
  obtain ⟨w, hw, hcs⟩ := exists_blank_append_skipSpace cs
  obtain ⟨w', hw', hr⟩ := exists_blank_append_skipSpace r
  refine ⟨w ++ ',' :: w', .comma hw hw', ?_⟩
  rw [List.append_assoc, List.cons_append, ← hr, ← h, ← hcs]

theorem Separator.append_blank {first : Bool} {w w' : List Char} (h : Separator first w)
    (hw' : Blank w') : Separator first (w ++ w') := by
  cases h with
  | first hw => exact .first (hw.append hw')
  | comma hw hw₁ =>
    rw [List.append_assoc, List.cons_append]
    exact .comma hw (hw₁.append hw')

theorem Tree.SpellsItems.valueEnd {ts : List Tree} {cs : List Char} (h : SpellsItems false ts cs)
    (rest : List Char) : ValueEnd (cs ++ rest) := by
  cases h with
  | done hw =>
    rw [List.append_assoc]
    exact .of_blank_append hw (.bracket rest)
  | item hw =>
    cases hw with
    | comma hw =>
      rw [List.append_assoc, List.append_assoc]
      exact .of_blank_append hw (.comma _)

theorem Tree.SpellsMembers.valueEnd {ms : List (List StringUnit × Tree)} {cs : List Char}
    (h : SpellsMembers false ms cs) (rest : List Char) : ValueEnd (cs ++ rest) := by
  cases h with
  | done hw =>
    rw [List.append_assoc]
    exact .of_blank_append hw (.brace rest)
  | member hw =>
    cases hw with
    | comma hw =>
      rw [List.append_assoc, List.append_assoc]
      exact .of_blank_append hw (.comma _)

/-! ## Documents -/

/-- Members with the texts of their names, each of which has one. -/
def Named (ms : List (List StringUnit × Tree)) (members : List (String × Tree)) : Prop :=
  List.Forall₂ (fun m named => text? m.1 = some named.1 ∧ m.2 = named.2) ms members

/-- The characters begin with a value, before which there may be white space. -/
def BeginsWithValue (cs rest : List Char) : Prop :=
  ∃ w t value, Blank w ∧ Tree.Spells t value ∧ cs = w ++ (value ++ rest)

theorem BeginsWithValue.of_spells {t : Tree} {cs value rest : List Char} (h : t.Spells value)
    (hcs : skipSpace cs = value ++ rest) : BeginsWithValue cs rest := by
  obtain ⟨w, hw, happend⟩ := exists_blank_append_skipSpace cs
  exact ⟨w, t, value, hw, h, hcs ▸ happend⟩

theorem BeginsWithValue.blank_append {w cs rest : List Char} (hw : Blank w)
    (h : BeginsWithValue cs rest) : BeginsWithValue (w ++ cs) rest := by
  obtain ⟨w', t, value, hw', ht, rfl⟩ := h
  exact ⟨w ++ w', t, value, hw.append hw', ht, (List.append_assoc ..).symm⟩

theorem BeginsWithValue.of_skipSpace {cs rest : List Char}
    (h : BeginsWithValue (skipSpace cs) rest) : BeginsWithValue cs rest := by
  obtain ⟨w, hw, hcs⟩ := exists_blank_append_skipSpace cs
  exact hcs ▸ h.blank_append hw

/-- The text is a document that holds a tree. -/
def IsDocument (t : Tree) (text : String) : Prop :=
  ∃ w cs w', Blank w ∧ t.Spells cs ∧ Blank w' ∧ text.toList = w ++ (cs ++ w')

end FuseMount.Json
