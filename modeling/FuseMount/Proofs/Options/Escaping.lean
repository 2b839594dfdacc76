import FuseMount.Proofs.Options.Argument

/-!
# Protected names

A name is written with a backslash before each backslash and each comma. That takes two
replacements, of which the second one must not see the backslashes of its own, and none at all if
there is nothing to protect; both ways come to one pass over the characters.

A reader that scans the written name takes whole units, one for each character. It is never stopped
by a comma, and whatever is written after the units begins a unit of its own. Only an equals sign,
which is not protected, ends the name early.

Results:

* `escapeName_append`, `escapeName_injective`: parts of names, and names told apart.
* `scan_escaped`: what a scan finds in a written name.
* `escapeName_homomorphism`: all of this together.
-/

namespace FuseMount.Options

/-! ## Specification -/

/-- A scan takes units from the beginning of a text, which stand for some characters, and is stopped
before the rest. -/
structure Scan (text : List Char) (units : List NameUnit) (chars rest : List Char) : Prop where
  /-- The units are whole, and the rest begins after the last one. -/
  text_eq : text = nameText units ++ rest
  /-- The characters that the units stand for. -/
  chars_eq : units.map NameUnit.char = chars
  /-- The text has come to its end, or there is an equals sign; it is no comma that stops the scan. -/
  stopped : rest = [] ∨ rest.head? = some '='
  /-- The reader of names gathers these characters and leaves the rest. -/
  readName_eq : readName text = (chars, rest)
  /-- None of the units is open to what comes after it: any other rest is read by itself. -/
  readName_append : ∀ rest', readName (nameText units ++ rest') =
    (chars ++ (readName rest').1, (readName rest').2)

/-- The part of a text from its first equals sign on. -/
def fromEquals (cs : List Char) : List Char :=
  cs.dropWhile (· ≠ '=')

/-! ## One pass -/

section

variable {a b : List Char} {c d : Char}

theorem escapeName_append (a b : String) : escapeName (a ++ b) = escapeName a ++ escapeName b := by
  apply String.toList_inj.1
  rw [String.toList_append, toList_escapeName, toList_escapeName, toList_escapeName,
    String.toList_append, List.flatMap_append]

/-- Of two written characters neither is the beginning of the other one, unless they are the same.
-/
theorem escapeChar_append_inj {rest rest' : List Char}
    (h : escapeChar c ++ rest = escapeChar d ++ rest') : c = d ∧ rest = rest' := by
  unfold escapeChar at h
  split_ifs at h with hc hd hd
  · simpa using h
  · -- the backslash before a character would be an ordinary character
    obtain ⟨rfl, -⟩ := List.cons.inj h
    exact absurd (.inr rfl) hd
  · obtain ⟨rfl, -⟩ := List.cons.inj h
    exact absurd (.inr rfl) hc
  · simpa using h

theorem eq_of_flatMap_escapeChar_eq (h : a.flatMap escapeChar = b.flatMap escapeChar) : a = b := by
  have hne : ∀ c, escapeChar c ≠ [] := by
    intro c
    unfold escapeChar
    split_ifs <;> simp
  induction a generalizing b with
  | nil =>
    cases b with
    | nil => rfl
    | cons d b => exact absurd (List.append_eq_nil_iff.1 h.symm).1 (hne d)
  | cons c a ih =>
    cases b with
    | nil => exact absurd (List.append_eq_nil_iff.1 h).1 (hne c)
    | cons d b =>
      obtain ⟨rfl, hrest⟩ := escapeChar_append_inj h
      rw [ih hrest]

theorem escapeName_injective : Function.Injective escapeName := by
  intro a b h
  apply String.toList_inj.1
  apply eq_of_flatMap_escapeChar_eq
  rw [← toList_escapeName, ← toList_escapeName, h]

end

/-! ## Scanning a written name -/

/-- A rest that stops a scan is left as it is. -/
theorem readName_of_stopped {rest : List Char} (h : rest = [] ∨ rest.head? = some '=') :
    readName rest = ([], rest) := by
  rcases h with rfl | h
  · rfl
  · obtain ⟨rest, rfl⟩ := List.head?_eq_some_iff.1 h
    exact readName_stop (.inr rfl) rest

theorem stopped_fromEquals (cs : List Char) :
    (fromEquals cs).flatMap escapeChar = [] ∨
      ((fromEquals cs).flatMap escapeChar).head? = some '=' := by
  rcases dropWhile_equals_cases cs with h | ⟨rest, h⟩
  · exact .inl (by rw [fromEquals, h, List.flatMap_nil])
  · refine .inr ?_
    rw [fromEquals, h, List.flatMap_cons]
    rfl

/-- One unit is taken for each character before the first equals sign. -/
theorem scan_escaped (cs : List Char) :
    Scan (cs.flatMap escapeChar) ((beforeEquals cs).map NameUnit.ofChar) (beforeEquals cs)
      ((fromEquals cs).flatMap escapeChar) := by
  have hunits := nameText_map_ofChar (equals_notMem_beforeEquals cs)
  have htext : cs.flatMap escapeChar =
      nameText ((beforeEquals cs).map NameUnit.ofChar) ++ (fromEquals cs).flatMap escapeChar := by
    rw [hunits, ← List.flatMap_append, beforeEquals, fromEquals, List.takeWhile_append_dropWhile]
  have hread (rest : List Char) :
      readName (nameText ((beforeEquals cs).map NameUnit.ofChar) ++ rest) =
        (beforeEquals cs ++ (readName rest).1, (readName rest).2) := by
    rw [readName_nameText_append, map_char_map_ofChar]
  exact {
    text_eq := htext
    chars_eq := map_char_map_ofChar _
    stopped := stopped_fromEquals cs
    readName_eq := by
      rw [htext, hread, readName_of_stopped (stopped_fromEquals cs), List.append_nil]
    readName_append := hread }

/-! ## Main theorem -/

/-- **Protection in one pass.** A name is written character by character, by the two replacements as
well as without them where they have nothing to replace. So the parts of a name are written one
after the other, and no two names are written alike. A scan of a written name goes on to the name's
own first equals sign or to its end; it gathers that part of the name, from whole units, and no
comma stops it. -/
theorem escapeName_homomorphism :
    (∀ name, protectAll name.toList = name.toList.flatMap escapeChar ∧
      (escapeName name).toList = name.toList.flatMap escapeChar) ∧
      (∀ a b, escapeName (a ++ b) = escapeName a ++ escapeName b) ∧
      Function.Injective escapeName ∧
      ∀ name, ∃ units, Scan (escapeName name).toList units (beforeEquals name.toList)
        ((fromEquals name.toList).flatMap escapeChar) := by
  refine ⟨fun name => ⟨protectAll_eq_flatMap _, toList_escapeName name⟩, escapeName_append,
    escapeName_injective, fun name => ?_⟩
  rw [toList_escapeName]
  exact ⟨_, scan_escaped name.toList⟩

/-- A comma after a backslash: both are protected, and read back. -/
example : escapeName "a\\,b" = "a\\\\\\,b" ∧
    readName "a\\\\\\,b,c".toList = ("a\\,b".toList, ",c".toList) := by
  decide +kernel

end FuseMount.Options
