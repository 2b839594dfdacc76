import FuseMount.Proofs.InitFlags.Negotiation
import FuseMount.Proofs.InitFlags.Numerals
import FuseMount.Session

/-!
# What the command that prints capability flags shows

The text that the command prints says twice which flags are set: as a word in base 16, and by the
names of the flags. Both tell the same set, and the word is a numeral that the command reads. Given
as the offer, it makes the command do the same again.

Results:

* `paddedHex_eq`: the printed word.
* `sheet_flagsText`: the text for a set of flags of the table.
* `known_agreed`, `output_printInitFlags`: the flags that are left, and the text that is printed.
* `printInitFlags_agreed`: what is left of the flags, given as the offer, changes nothing.
-/

namespace FuseMount.Session

/-! ## Specification -/

/-- The lines of a text, each of which ends with a line break. -/
structure HasLines (text : String) (lines : List String) : Prop where
  break_notMem : ∀ line ∈ lines, '\n' ∉ line.toList
  join_eq : String.join (lines.map (· ++ "\n")) = text

/-- A line gives the name of a flag. The one flag that goes with a value has it after its name. -/
def Gives (line name : String) : Prop :=
  ∃ value, line = if name = "max_pages" then name ++ " = " ++ value else name

/-- A text shows a set of flags by a word on its first line and by names on the others. -/
structure Sheet (text : String) (flags : InitFlags) (first : String) (names : List String) :
    Prop where
  lines : ∃ others, HasLines text (first :: others) ∧ List.Forall₂ Gives others names
  /-- The first line is a prefix and eight lower-case digits. -/
  first_eq : ∃ digits : List Char, first = "0x" ++ String.ofList digits ∧ digits.length = 8 ∧
    ∀ c ∈ digits, c ∈ "0123456789abcdef".toList
  /-- It is a numeral for the set. -/
  parse_first : InitFlags.parse first = .ok flags
  /-- The names are those of flags in the table, in their order. -/
  names_sublist : names.Sublist (InitFlags.named.map Prod.snd)
  /-- They name each flag of the set, and no other. -/
  unionOf_names : InitFlags.unionOf names = flags

/-- The flags that a mount asks for, as far as they are offered. -/
def agreed (session : Session) (flags : MountFlags) (offered : Option InitFlags) : InitFlags :=
  let requested := (session.config flags).initFlags (session.platform flags.platform)
  offered.elim requested (requested &&& ·)

end Session

/-! ## The first line -/

namespace InitFlags

theorem digitChar_mem_of_lt : ∀ d < 16, Nat.digitChar d ∈ "0123456789abcdef".toList := by
  decide

theorem paddedHex_eq (flags : InitFlags) :
    ∃ digits : List Char, flags.paddedHex = "0x" ++ String.ofList digits ∧ digits.length = 8 ∧
      ∀ c ∈ digits, c ∈ "0123456789abcdef".toList := by
  obtain ⟨ds, hds, hlt, -⟩ := Numeral.exists_paddedHex_eq 8 flags.bits.toNat
  refine ⟨(Numeral.paddedHex 8 flags.bits.toNat).toList, ?_, ?_, ?_⟩
  · rw [paddedHex, String.ofList_toList]
  · exact Numeral.length_paddedHex (by decide) flags.bits.toNat_lt
  · rw [hds]
    simp only [List.mem_map]
    rintro _ ⟨d, hd, rfl⟩
    exact digitChar_mem_of_lt d (hlt d hd)

end InitFlags

namespace Session

/-! ## The text for a set of flags -/

/-- The line for the name of a flag, without its line break. -/
def nameLine (name : String) : String :=
  if name = "max_pages" then name ++ " = " ++ InitFlags.maxPagesValue.repr else name

theorem flagLine_eq (name : String) : flagLine name = nameLine name ++ "\n" := by
  unfold flagLine nameLine
  split <;> rfl

theorem break_notMem_nameLine : ∀ f ∈ InitFlags.named, '\n' ∉ (nameLine f.2).toList := by
  decide +kernel

theorem gives_nameLine (name : String) : Gives (nameLine name) name :=
  ⟨InitFlags.maxPagesValue.repr, rfl⟩

theorem break_notMem_paddedHex (flags : InitFlags) : '\n' ∉ flags.paddedHex.toList := by
  obtain ⟨digits, hfirst, -, hdigits⟩ := flags.paddedHex_eq
  have hmark : '\n' ∉ "0x".toList := by decide
  have hdigit : '\n' ∉ "0123456789abcdef".toList := by decide
  simp only [hfirst, String.toList_append, String.toList_ofList, List.mem_append, not_or]
  exact ⟨hmark, fun h => hdigit (hdigits _ h)⟩

theorem hasLines_flagsText (flags : InitFlags) :
    HasLines (flagsText flags) (flags.paddedHex :: flags.names.map nameLine) where
  break_notMem := by
    rw [List.forall_mem_cons, List.forall_mem_map]
    refine ⟨break_notMem_paddedHex flags, fun name hname => ?_⟩
    obtain ⟨f, hf, -, rfl⟩ := InitFlags.exists_mem_named_of_mem_names hname
    exact break_notMem_nameLine f hf
  join_eq := by
    rw [List.map_cons, String.join_cons, flagsText, List.map_map, funext flagLine_eq]
    rfl

theorem sheet_flagsText {flags : InitFlags} (h : flags.Known) :
    Sheet (flagsText flags) flags flags.paddedHex flags.names where
  lines := by
    refine ⟨_, hasLines_flagsText flags, ?_⟩
    rw [List.forall₂_map_left_iff, List.forall₂_same]
    exact fun name _ => gives_nameLine name
  first_eq := flags.paddedHex_eq
  parse_first := flags.parse_paddedHex
  names_sublist := InitFlags.names_sublist
  unionOf_names := h.unionOf_names

/-! ## The command -/

variable (session : Session) (flags : MountFlags) (offered : Option InitFlags)

theorem known_agreed : (session.agreed flags offered).Known := by
  have h := InitFlags.known_initFlags (session.config flags) (session.platform flags.platform)
  cases offered with
  | none => exact h
  | some offered => exact h.and_right offered

theorem output_printInitFlags :
    (session.printInitFlags flags offered).output = flagsText (session.agreed flags offered) := by
  cases offered with
  | none => simp [printInitFlags, agreed, Run.output_print]
  | some offered =>
    simp [printInitFlags, agreed, Run.output_print, InitFlags.value_negotiate,
      (InitFlags.quiet_negotiate _ _).output_eq]

/-- What is left of the flags is left again when it is offered, and the same flags are missing. -/
theorem printInitFlags_agreed :
    session.printInitFlags flags (some (session.agreed flags offered)) =
      session.printInitFlags flags offered := by
  cases offered with
  | none =>
    simp only [printInitFlags, agreed, Option.elim_none, InitFlags.negotiate_self]
  | some offered =>
    simp only [printInitFlags, agreed, Option.elim_some, InitFlags.negotiate_and_right]

end Session

end FuseMount
