import FuseMount.MountPoint
import FuseMount.Proofs.Text.Numeral

/-!
# Which paths name a descriptor

A path names the descriptor `N` of another process if it begins at the root and leads over `dev` and
`fd` to `N`, and nowhere else. How it is written does not count as long as it leads there: slashes
may be repeated or stand at the end, and the name of the directory itself may stand anywhere after
the first slash. The name of the directory above may not, even where it would lead back.

Results:

* `Path.splits_iff`, `Path.steps_append_slash`: the pieces of a path, and where joined paths lead.
* `descriptorDigits?_eq_some_iff`: the digits that are found are those that the path names.
* `descriptorDigits?_of_respelled`: other spellings of a path name the same descriptor.
* `externalDescriptor?_eq_some_iff`: the number of the descriptor, which is never cut off.
* `isExternallyManaged_iff`: a path is recognised exactly if it names a descriptor.
* `recognition`: all of this.
-/

namespace FuseMount

/-! ## Specification -/

namespace Path

/-- The pieces of a path: none of them holds a slash, and with slashes between them they are the
path. -/
structure Splits (path : Bytes) (pieces : List Bytes) : Prop where
  ne_nil : pieces ≠ []
  slash_notMem : ∀ piece ∈ pieces, slash ∉ piece
  intercalate_eq : [slash].intercalate pieces = path

/-- A path, written with one more slash or with one more name of the directory itself. -/
inductive Respelled : Bytes → Bytes → Prop
  /-- A slash is doubled. -/
  | slash (before after : Bytes) :
      Respelled (before ++ slash :: after) (before ++ slash :: slash :: after)
  /-- The directory itself is named between two slashes. -/
  | here (before after : Bytes) :
      Respelled (before ++ slash :: after) (before ++ slash :: (here ++ slash :: after))
  /-- A slash stands at the end. -/
  | slashAtEnd (path : Bytes) : Respelled path (path ++ [slash])
  /-- The directory itself is named at the end. -/
  | hereAtEnd (path : Bytes) : Respelled path (path ++ slash :: here)

end Path

namespace MountPoint

open FuseMount.Path (slash here above Splits Respelled)

/-- A path names a descriptor by digits. -/
structure Names (path digits : Bytes) : Prop where
  /-- It begins at the root. -/
  absolute : ∃ rest, path = slash :: rest
  /-- Apart from empty pieces and the directory itself it has three pieces. -/
  pieces : ∃ pieces, Splits path pieces ∧
    pieces.filter (fun piece => piece ≠ [] ∧ piece ≠ here) = [dev, fd, digits]
  digits_ne_nil : digits ≠ []
  of_mem_digits : ∀ b ∈ digits, 0x30 ≤ b ∧ b ≤ 0x39

/-- The number that ASCII digits spell. -/
def decimal (digits : Bytes) : Nat :=
  Numeral.value 10 (digits.map fun b => b.toNat - 0x30)

/-- The bytes that stand in paths of the form `/dev/fd/N`. -/
def Allowed (b : UInt8) : Prop :=
  b = slash ∨ b ∈ here ∨ b ∈ dev ∨ b ∈ fd ∨ 0x30 ≤ b ∧ b ≤ 0x39

/-- What is promised about a path. -/
structure Recognition (path : Bytes) : Prop where
  /-- It counts as managed by another process exactly if it names a descriptor. -/
  isExternallyManaged_iff : isExternallyManaged path ↔ ∃ digits, Names path digits
  /-- The descriptor is the whole number that its digits spell, if it is below 2³¹. -/
  externalDescriptor?_iff : ∀ v, externalDescriptor? path = some v ↔
    ∃ digits, Names path digits ∧ v = decimal digits ∧ v ≤ 2 ^ 31 - 1
  /-- More slashes and more names of the directory itself change nothing. -/
  of_respelled : ∀ path', Respelled path path' →
    isExternallyManaged path' = isExternallyManaged path ∧
      externalDescriptor? path' = externalDescriptor? path
  /-- The directory above does not stand in it. -/
  not_of_above : ∀ pieces, Splits path pieces → above ∈ pieces → ¬isExternallyManaged path
  /-- No other bytes stand in it, such as signs or parts of characters that are not ASCII. -/
  not_of_mem : ∀ b ∈ path, ¬Allowed b → ¬isExternallyManaged path

end MountPoint

/-! ## Pieces of a path -/

namespace Path

theorem slash_notMem_of_mem_parts {path piece : Bytes} (h : piece ∈ parts path) :
    slash ∉ piece := by
  induction path generalizing piece with
  | nil =>
    rw [show piece = [] by simpa [parts] using h]
    exact List.not_mem_nil
  | cons b path ih =>
    rw [parts, List.splitOn_cons_eq_if_modifyHead, ← parts] at h
    split_ifs at h with hb
    · rcases List.mem_cons.1 h with rfl | h
      · exact List.not_mem_nil
      · exact ih h
    · cases hparts : parts path with
      | nil => exact absurd hparts (List.splitOn_ne_nil _ _)
      | cons first rest =>
        rw [hparts, List.modifyHead_cons] at h
        rw [hparts] at ih
        rcases List.mem_cons.1 h with rfl | h
        · rw [List.mem_cons, not_or]
          exact ⟨fun he => hb (by simp [he]), ih List.mem_cons_self⟩
        · exact ih (List.mem_cons_of_mem _ h)

/-- A path falls into pieces in one way. -/
theorem splits_iff (path : Bytes) (pieces : List Bytes) :
    Splits path pieces ↔ pieces = parts path := by
  constructor
  · rintro ⟨hne, hslash, rfl⟩
    exact (List.splitOn_intercalate slash hslash hne).symm
  · rintro rfl
    exact ⟨List.splitOn_ne_nil _ _, fun _ => slash_notMem_of_mem_parts,
      List.intercalate_splitOn slash⟩

theorem mem_of_mem_intercalate {b : UInt8} {pieces : List Bytes}
    (h : b ∈ [slash].intercalate pieces) : b = slash ∨ ∃ piece ∈ pieces, b ∈ piece := by
  induction pieces with
  | nil => cases h
  | cons piece pieces ih =>
    by_cases hne : pieces = []
    · subst hne
      exact .inr ⟨piece, List.mem_cons_self, by simpa using h⟩
    · rw [List.intercalate_cons_of_ne_nil hne, List.mem_append, List.mem_append,
        List.mem_singleton] at h
      rcases h with (h | h) | h
      · exact .inr ⟨piece, List.mem_cons_self, h⟩
      · exact .inl h
      · rcases ih h with h | ⟨p, hp, hb⟩
        · exact .inl h
        · exact .inr ⟨p, List.mem_cons_of_mem _ hp, hb⟩

/-- A path that is joined to another one leads on from there. -/
theorem steps_append_slash (before after : Bytes) :
    steps (before ++ slash :: after) = steps before ++ steps after := by
  rw [steps, parts, List.splitOn_append_cons_self, List.filter_append]
  rfl

theorem steps_nil : steps [] = [] := by decide

theorem steps_here : steps here = [] := by decide

theorem steps_slash (path : Bytes) : steps (slash :: path) = steps path := by
  rw [← List.nil_append (slash :: path), steps_append_slash, steps_nil, List.nil_append]

theorem steps_of_respelled {path path' : Bytes} (h : Respelled path path') :
    steps path' = steps path := by
  cases h with
  | slash before after => rw [steps_append_slash, steps_append_slash, steps_slash]
  | here before after =>
    rw [steps_append_slash, steps_append_slash, steps_append_slash, steps_here, List.nil_append]
  | slashAtEnd => rw [steps_append_slash, steps_nil, List.append_nil]
  | hereAtEnd => rw [steps_append_slash, steps_here, List.append_nil]

theorem isAbsolute_of_respelled {path path' : Bytes} (h : Respelled path path')
    (hne : path ≠ []) : isAbsolute path' = isAbsolute path := by
  cases h with
  | slash before after => cases before <;> rfl
  | here before after => cases before <;> rfl
  | slashAtEnd =>
    cases path with
    | nil => exact absurd rfl hne
    | cons b path => rfl
  | hereAtEnd =>
    cases path with
    | nil => exact absurd rfl hne
    | cons b path => rfl

theorem isAbsolute_iff (path : Bytes) : isAbsolute path ↔ ∃ rest, path = slash :: rest := by
  cases path <;> simp [isAbsolute]

end Path

/-! ## The digits -/

namespace MountPoint

open FuseMount.Path (slash here above Splits Respelled)

theorem isDigit_iff (b : UInt8) : isDigit b ↔ 0x30 ≤ b ∧ b ≤ 0x39 := by
  simp [isDigit]

theorem descriptorDigits?_eq_some_iff_steps (path digits : Bytes) :
    descriptorDigits? path = some digits ↔
      Path.isAbsolute path ∧ Path.steps path = [dev, fd, digits] ∧ digits.all isDigit := by
  unfold descriptorDigits?
  constructor
  · intro h
    split_ifs at h with habsolute
    split at h
    · rename_i hsteps
      split_ifs at h with hparts
      cases h
      simp only [Bool.and_eq_true, decide_eq_true_eq] at hparts
      obtain ⟨⟨rfl, rfl⟩, hdigits⟩ := hparts
      exact ⟨habsolute, hsteps, hdigits⟩
    · cases h
  · rintro ⟨habsolute, hsteps, hdigits⟩
    rw [if_pos habsolute, hsteps]
    simp [hdigits]

/-- The digits that are found are those that the path names. -/
theorem descriptorDigits?_eq_some_iff (path digits : Bytes) :
    descriptorDigits? path = some digits ↔ Names path digits := by
  rw [descriptorDigits?_eq_some_iff_steps, Path.isAbsolute_iff, List.all_eq_true]
  constructor
  · rintro ⟨habsolute, hsteps, hdigits⟩
    have hmem : digits ∈ Path.steps path := by simp [hsteps]
    exact {
      absolute := habsolute
      pieces := ⟨Path.parts path, (Path.splits_iff _ _).2 rfl, by simpa [Path.steps] using hsteps⟩
      digits_ne_nil := (by simpa using (List.mem_filter.1 hmem).2 : _ ∧ _).1
      of_mem_digits := fun b hb => (isDigit_iff b).1 (hdigits b hb) }
  · rintro ⟨habsolute, ⟨pieces, hsplits, hsteps⟩, -, hdigits⟩
    rw [(Path.splits_iff _ _).1 hsplits] at hsteps
    exact ⟨habsolute, by simpa [Path.steps] using hsteps,
      fun b hb => (isDigit_iff b).2 (hdigits b hb)⟩

theorem isExternallyManaged_iff (path : Bytes) :
    isExternallyManaged path ↔ ∃ digits, Names path digits := by
  rw [isExternallyManaged, Option.isSome_iff_exists]
  exact exists_congr fun digits => descriptorDigits?_eq_some_iff path digits

/-! ## The number -/

theorem digit?_ofNat : ∀ d < 10, Numeral.digit? 10 (Char.ofNat (0x30 + d)) = some d := by
  decide

theorem digit?_of_isDigit {b : UInt8} (h : 0x30 ≤ b ∧ b ≤ 0x39) :
    Numeral.digit? 10 (Char.ofNat b.toNat) = some (b.toNat - 0x30) := by
  have hb : 0x30 ≤ b.toNat ∧ b.toNat ≤ 0x39 := h
  obtain ⟨d, hd⟩ := Nat.exists_eq_add_of_le hb.1
  rw [hd, digit?_ofNat d (by omega), Nat.add_sub_cancel_left]

theorem Names.spells {path digits : Bytes} (h : Names path digits) :
    Numeral.Spells 10 (digits.map fun b => Char.ofNat b.toNat)
      (digits.map fun b => b.toNat - 0x30) := by
  rw [Numeral.Spells, List.forall₂_map_left_iff, List.forall₂_map_right_iff, List.forall₂_same]
  exact fun b hb => digit?_of_isDigit (h.of_mem_digits b hb)

/-- The descriptor is the number that all digits spell, or there is none. -/
theorem externalDescriptor?_eq_some_iff (path : Bytes) (v : Nat) :
    externalDescriptor? path = some v ↔
      ∃ digits, Names path digits ∧ v = decimal digits ∧ v ≤ 2 ^ 31 - 1 := by
  rw [externalDescriptor?, Option.bind_eq_some_iff]
  refine exists_congr fun digits => ?_
  rw [descriptorDigits?_eq_some_iff]
  refine and_congr_right fun h => ?_
  have hread : Numeral.read 10 descriptorBound (digits.map fun b => Char.ofNat b.toNat) = .ok v ↔
      v = Numeral.value 10 (digits.map fun b => b.toNat - 0x30) ∧ v < descriptorBound :=
    Numeral.read_eq_ok_iff_of_spells (by decide) (by decide) (by simpa using h.digits_ne_nil)
      h.spells v
  rw [← show v < descriptorBound ↔ v ≤ 2 ^ 31 - 1 from Nat.lt_iff_le_pred (by decide), decimal,
    ← hread]
  cases Numeral.read 10 descriptorBound (digits.map fun b => Char.ofNat b.toNat) <;>
    simp [Except.toOption]

/-! ## Other spellings -/

/-- Where a path is respelled, the same descriptor is named. -/
theorem descriptorDigits?_of_respelled {path path' : Bytes} (h : Respelled path path') :
    descriptorDigits? path' = descriptorDigits? path := by
  ext digits
  rw [descriptorDigits?_eq_some_iff_steps, descriptorDigits?_eq_some_iff_steps,
    Path.steps_of_respelled h]
  by_cases hne : path = []
  · rw [hne, Path.steps_nil]
    simp
  · rw [Path.isAbsolute_of_respelled h hne]

/-! ## What a path must not hold -/

theorem Names.mem_of_mem_pieces {path digits piece : Bytes} {pieces : List Bytes}
    (h : Names path digits) (hsplits : Splits path pieces) (hpiece : piece ∈ pieces) :
    piece = [] ∨ piece = here ∨ piece = dev ∨ piece = fd ∨ piece = digits := by
  obtain ⟨pieces', hsplits', hfilter⟩ := h.pieces
  rw [(Path.splits_iff _ _).1 hsplits', ← (Path.splits_iff _ _).1 hsplits] at hfilter
  by_cases hkept : piece ≠ [] ∧ piece ≠ here
  · have hmem : piece ∈ pieces.filter fun piece => piece ≠ [] ∧ piece ≠ here :=
      List.mem_filter.2 ⟨hpiece, decide_eq_true hkept⟩
    rw [hfilter] at hmem
    simpa [hkept] using hmem
  · tauto

theorem Names.above_notMem {path digits : Bytes} {pieces : List Bytes} (h : Names path digits)
    (hsplits : Splits path pieces) : above ∉ pieces := by
  intro habove
  rcases h.mem_of_mem_pieces hsplits habove with he | he | he | he | rfl
  · cases he
  · cases he
  · cases he
  · cases he
  · exact absurd (h.of_mem_digits 0x2E List.mem_cons_self) (by decide)

theorem Names.allowed_of_mem {path digits : Bytes} (h : Names path digits) {b : UInt8}
    (hb : b ∈ path) : Allowed b := by
  obtain ⟨pieces, hsplits, -⟩ := h.pieces
  rw [← hsplits.intercalate_eq] at hb
  rcases Path.mem_of_mem_intercalate hb with hb | ⟨piece, hpiece, hb⟩
  · exact .inl hb
  · rcases h.mem_of_mem_pieces hsplits hpiece with rfl | rfl | rfl | rfl | rfl
    · cases hb
    · exact .inr (.inl hb)
    · exact .inr (.inr (.inl hb))
    · exact .inr (.inr (.inr (.inl hb)))
    · exact .inr (.inr (.inr (.inr (h.of_mem_digits b hb))))

/-! ## Main theorem -/

/-- **Recognition accepts exactly its language.** Whatever bytes a path consists of, it counts as
managed by another process exactly if it names a descriptor, and the descriptor that is found is the
number that it names. -/
theorem recognition (path : Bytes) : Recognition path where
  isExternallyManaged_iff := isExternallyManaged_iff path
  externalDescriptor?_iff := externalDescriptor?_eq_some_iff path
  of_respelled path' h := by
    simp only [isExternallyManaged, externalDescriptor?, descriptorDigits?_of_respelled h, and_self]
  not_of_above pieces hsplits habove hmanaged := by
    obtain ⟨digits, hnames⟩ := (isExternallyManaged_iff path).1 hmanaged
    exact hnames.above_notMem hsplits habove
  not_of_mem b hb hforeign hmanaged := by
    obtain ⟨digits, hnames⟩ := (isExternallyManaged_iff path).1 hmanaged
    exact hforeign (hnames.allowed_of_mem hb)

/-- A descriptor with zeros in front, and one that is too large. -/
example : externalDescriptor? (Utf8.encode "/.//dev/fd/./0002147483647/") = some 2147483647 ∧
    isExternallyManaged (Utf8.encode "/dev/fd/2147483648") ∧
    externalDescriptor? (Utf8.encode "/dev/fd/2147483648") = none := by
  decide +kernel

end MountPoint

end FuseMount
