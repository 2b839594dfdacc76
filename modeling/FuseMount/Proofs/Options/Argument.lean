import FuseMount.Proofs.Options.Precedence
import FuseMount.Proofs.Options.Stability

/-!
# One option on its own and among others

An option is read in two ways. Given as an argument it stands alone: the first equals sign ends the
name, and every other character stands for itself. In an options text there are more of them, so
commas separate, and backslashes in a name protect. The two readings are the same where neither a
comma nor a protecting backslash is in the way.

The name that an argument gives holds no equals sign. So options that come from arguments have a
text that is read back, as far as it depends on the names.

Results:

* `of_fst_readName_eq`, `readName_of_unprotected`: where the name in an options text is the part
  before the first equals sign.
* `parse_eq_ofList_iff`: which arguments are read alike in both ways.
* `equalsFreeNames_builtOptions`: names from arguments and settings.
* `parse_argument`: both readings compared, for one argument and for a command with several.
-/

namespace FuseMount

open MountFlags (parseOption)

/-! ## Specification -/

/-- The options of a mount, from the settings and from flags on top of them. -/
def Session.builtOptions (session : Session) (flags : MountFlags) : Options :=
  (session.config flags).mountOptions (session.platform flags.platform)

namespace Options

/-- The part of a text before its first equals sign, which is all of it if there is none. -/
def beforeEquals (cs : List Char) : List Char :=
  cs.takeWhile (· ≠ '=')

/-- A name without protecting backslashes: there is none at all, or the only one is the last
character of a text without equals signs. -/
def Unprotected (cs : List Char) : Prop :=
  '\\' ∉ beforeEquals cs ∨ '=' ∉ cs ∧ ∃ name, '\\' ∉ name ∧ cs = name ++ ['\\']

/-- The entry that a text spells if it is read as an argument. -/
def argumentEntry (cs : List Char) : String × String :=
  (String.ofList (beforeEquals cs), String.ofList ((cs.dropWhile (· ≠ '=')).drop 1))

theorem equals_notMem_beforeEquals (cs : List Char) : '=' ∉ beforeEquals cs :=
  fun h => by simpa using List.mem_takeWhile_imp h

theorem parseOption_of_ne_empty {s : String} (hs : s ≠ "") :
    parseOption s = .ok (argumentEntry s.toList) := by
  rw [parseOption, if_neg (by simpa using hs)]
  rfl

/-- The name that an argument gives holds no equals sign. -/
theorem equals_notMem_of_parseOption {s : String} {e : String × String}
    (h : parseOption s = .ok e) : '=' ∉ e.1.toList := by
  have hs : s ≠ "" := by
    rintro rfl
    cases h
  rw [parseOption_of_ne_empty hs] at h
  cases h
  rw [argumentEntry, String.toList_ofList]
  exact equals_notMem_beforeEquals s.toList

/-! ## Names in an options text -/

theorem beforeEquals_cons {c : Char} (hc : c ≠ '=') (cs : List Char) :
    beforeEquals (c :: cs) = c :: beforeEquals cs := by
  rw [beforeEquals, List.takeWhile_cons_of_pos (by simpa using hc)]
  rfl

theorem beforeEquals_equals (cs : List Char) : beforeEquals ('=' :: cs) = [] :=
  List.takeWhile_cons_of_neg (by simp)

/-- As long as no equals sign is protected, a name is not longer than the part before the first
one. -/
theorem length_fst_readName_le {cs : List Char} (h : '=' ∉ (readName cs).1) :
    (readName cs).1.length ≤ (beforeEquals cs).length := by
  -- an escape is one character of the name and two of the text, any other character is one of each
  induction cs using readName.induct with
  | case1 => simp [readName]
  | case2 c hc => simp [readName, hc]
  | case3 c hc =>
    rw [beforeEquals_cons (fun he => hc (.inr he)), readName, if_neg hc]
    simp
  | case4 c d cs hc => simp [readName, hc]
  | case5 d cs _ _ _ _ ih =>
    rw [readName_escaped, List.mem_cons, not_or] at h
    have hle := ih h.2
    rw [readName_escaped, beforeEquals_cons (by decide), beforeEquals_cons (Ne.symm h.1)]
    simp only [List.length_cons]
    omega
  | case6 c d cs hc hslash _ _ _ ih =>
    obtain ⟨hcomma, hequals⟩ := not_or.1 hc
    rw [readName_plain ⟨hcomma, hslash, hequals⟩, List.mem_cons, not_or] at h
    rw [readName_plain ⟨hcomma, hslash, hequals⟩, beforeEquals_cons hequals]
    simpa using ih h.2

/-- A character that is protected is counted once in the name, but twice in the text. -/
theorem fst_readName_escaped_ne (c : Char) (cs : List Char) :
    (readName ('\\' :: c :: cs)).1 ≠ beforeEquals ('\\' :: c :: cs) := by
  intro heq
  have hequals : '=' ∉ (readName ('\\' :: c :: cs)).1 := heq ▸ equals_notMem_beforeEquals _
  rw [readName_escaped, List.mem_cons, not_or] at hequals
  have hle := length_fst_readName_le hequals.2
  have hlength := congrArg List.length heq
  rw [readName_escaped, beforeEquals_cons (by decide), beforeEquals_cons (Ne.symm hequals.1)]
    at hlength
  simp only [List.length_cons] at hlength
  omega

theorem unprotected_cons_iff {c : Char} (hequals : c ≠ '=') (hslash : c ≠ '\\') (cs : List Char) :
    Unprotected (c :: cs) ↔ Unprotected cs := by
  unfold Unprotected
  rw [beforeEquals_cons hequals]
  constructor
  · rintro (h | ⟨hnone, name, hname, heq⟩)
    · exact .inl (mt (List.mem_cons_of_mem c) h)
    · cases name with
      | nil => exact absurd (List.cons.inj heq).1 hslash
      | cons d name =>
        exact .inr ⟨mt (List.mem_cons_of_mem c) hnone, name, mt (List.mem_cons_of_mem d) hname,
          (List.cons.inj heq).2⟩
  · rintro (h | ⟨hnone, name, hname, rfl⟩)
    · exact .inl (by simp [hslash.symm, h])
    · exact .inr ⟨by simp [hequals.symm, hnone], c :: name, by simp [hslash.symm, hname], rfl⟩

theorem not_unprotected_escaped (c : Char) (cs : List Char) : ¬Unprotected ('\\' :: c :: cs) := by
  rintro (h | ⟨-, name, hname, heq⟩)
  · rw [beforeEquals_cons (by decide)] at h
    exact h List.mem_cons_self
  · cases name with
    | nil => cases heq
    | cons d name =>
      obtain ⟨rfl, -⟩ := List.cons.inj heq
      exact hname List.mem_cons_self

theorem of_fst_readName_stop {c : Char} (hc : c = ',' ∨ c = '=') {cs : List Char}
    (h : (readName (c :: cs)).1 = beforeEquals (c :: cs)) :
    ',' ∉ beforeEquals (c :: cs) ∧ Unprotected (c :: cs) := by
  rw [readName_stop hc] at h
  rw [Unprotected, ← h]
  exact ⟨List.not_mem_nil, .inl List.not_mem_nil⟩

/-- A name that is the part before the first equals sign was ended by no comma, and no backslash
in it protects anything. -/
theorem of_fst_readName_eq {cs : List Char} (h : (readName cs).1 = beforeEquals cs) :
    ',' ∉ beforeEquals cs ∧ Unprotected cs := by
  induction cs using readName.induct with
  | case1 => exact ⟨List.not_mem_nil, .inl List.not_mem_nil⟩
  | case2 c hc => exact of_fst_readName_stop hc h
  | case3 c hc =>
    obtain ⟨hcomma, hequals⟩ := not_or.1 hc
    rw [beforeEquals_cons hequals]
    refine ⟨by simpa [beforeEquals] using Ne.symm hcomma, ?_⟩
    by_cases hslash : c = '\\'
    · exact .inr ⟨by simpa using Ne.symm hequals, [], List.not_mem_nil, hslash ▸ rfl⟩
    · exact (unprotected_cons_iff hequals hslash []).2 (.inl List.not_mem_nil)
  | case4 c d cs hc => exact of_fst_readName_stop hc h
  | case5 d cs => exact absurd h (fst_readName_escaped_ne d cs)
  | case6 c d cs hc hslash _ _ _ ih =>
    obtain ⟨hcomma, hequals⟩ := not_or.1 hc
    rw [readName_plain ⟨hcomma, hslash, hequals⟩, beforeEquals_cons hequals] at h
    obtain ⟨hnone, hunprotected⟩ := ih (List.cons.inj h).2
    rw [beforeEquals_cons hequals]
    exact ⟨by simp [Ne.symm hcomma, hnone], (unprotected_cons_iff hequals hslash _).2 hunprotected⟩

theorem readName_of_stop {c : Char} (hc : c = ',' ∨ c = '=') (cs : List Char)
    (hcomma : ',' ∉ beforeEquals (c :: cs)) :
    readName (c :: cs) = (beforeEquals (c :: cs), (c :: cs).dropWhile (· ≠ '=')) := by
  rcases hc with rfl | rfl
  · rw [beforeEquals_cons (by decide)] at hcomma
    exact absurd List.mem_cons_self hcomma
  · rw [readName_stop (.inr rfl), beforeEquals_equals, List.dropWhile_cons_of_neg (by simp)]

/-- Where no comma ends the name and no backslash protects, both readings divide a text alike. -/
theorem readName_of_unprotected {cs : List Char} (hcomma : ',' ∉ beforeEquals cs)
    (h : Unprotected cs) : readName cs = (beforeEquals cs, cs.dropWhile (· ≠ '=')) := by
  induction cs using readName.induct with
  | case1 => rfl
  | case2 c hc => exact readName_of_stop hc [] hcomma
  | case3 c hc =>
    have hequals : c ≠ '=' := fun he => hc (.inr he)
    rw [readName, if_neg hc, beforeEquals_cons hequals,
      List.dropWhile_cons_of_pos (by simpa using hequals)]
    rfl
  | case4 c d cs hc => exact readName_of_stop hc (d :: cs) hcomma
  | case5 d cs => exact absurd h (not_unprotected_escaped d cs)
  | case6 c d cs hc hslash _ _ _ ih =>
    obtain ⟨hne, hequals⟩ := not_or.1 hc
    rw [beforeEquals_cons hequals, List.mem_cons, not_or] at hcomma
    have hrest : (c :: d :: cs).dropWhile (· ≠ '=') = (d :: cs).dropWhile (· ≠ '=') :=
      List.dropWhile_cons_of_pos (by simpa using hequals)
    rw [readName_plain ⟨hne, hslash, hequals⟩, beforeEquals_cons hequals, hrest,
      ih hcomma.2 ((unprotected_cons_iff hequals hslash _).1 h)]

/-! ## Single arguments -/

theorem dropWhile_equals_cases (cs : List Char) :
    cs.dropWhile (· ≠ '=') = [] ∨ ∃ rest, cs.dropWhile (· ≠ '=') = '=' :: rest := by
  cases h : cs.dropWhile (· ≠ '=') with
  | nil => exact .inl rfl
  | cons c rest =>
    have hc := List.head?_dropWhile_not (· ≠ '=') cs
    rw [h] at hc
    exact .inr ⟨rest, by simpa using hc⟩

theorem comma_notMem_iff (cs : List Char) :
    ',' ∉ cs ↔ ',' ∉ beforeEquals cs ∧ ',' ∉ (cs.dropWhile (· ≠ '=')).drop 1 := by
  conv_lhs => rw [← List.takeWhile_append_dropWhile (p := (· ≠ '=')) (l := cs)]
  rw [List.mem_append, not_or]
  rcases dropWhile_equals_cases cs with h | ⟨rest, h⟩ <;> rw [h] <;> simp [beforeEquals]

theorem readSegment_of_unprotected {cs : List Char} (hcomma : ',' ∉ cs) (h : Unprotected cs) :
    readSegment cs = (argumentEntry cs, []) := by
  obtain ⟨hname, hvalue⟩ := (comma_notMem_iff cs).1 hcomma
  rw [readSegment, readName_of_unprotected hname h, argumentEntry]
  rcases dropWhile_equals_cases cs with hrest | ⟨rest, hrest⟩
  · rw [hrest]
    rfl
  · rw [hrest, List.drop_one, List.tail_cons] at hvalue
    have htake := takeWhile_value hvalue .nil
    have hdrop := dropWhile_value hvalue .nil
    rw [List.append_nil] at htake hdrop
    simp only [hrest, htake, hdrop, List.drop_one, List.tail_cons]

theorem fst_readSegment (cs : List Char) :
    (readSegment cs).1.1 = String.ofList (readName cs).1 := by
  unfold readSegment
  split <;> simp_all

theorem exists_segments_eq (cs : List Char) : ∃ es, segments cs = (readSegment cs).1 :: es := by
  rw [segments]
  split <;> rename_i h
  · exact ⟨_, by rw [h]⟩
  · exact ⟨[], by rw [h]⟩

/-- The name that is read first is a name of the options. -/
theorem get?_parse_ne_none {s : String} (hs : s ≠ "") :
    (parse s).get? (readSegment s.toList).1.1 ≠ none := by
  obtain ⟨es, hes⟩ := exists_segments_eq s.toList
  rw [parse_ne_empty hs, TextMap.get?_ofList, hes, TextMap.lastValue?_cons, if_pos rfl]
  cases TextMap.lastValue? _ es <;> exact nofun

/-- The options in an argument's text are what the argument spells exactly if no comma separates and
no backslash protects. Otherwise the first name is another one, or the value is. -/
theorem parse_eq_ofList_iff {s : String} (hs : s ≠ "") :
    parse s = TextMap.ofList [argumentEntry s.toList] ↔
      ',' ∉ s.toList ∧ Unprotected s.toList := by
  constructor
  · intro h
    have hget (k : String) : (parse s).get? k =
        if k = (argumentEntry s.toList).1 then some (argumentEntry s.toList).2 else none := by
      rw [h, TextMap.get?_ofList, ← TextMap.lastValue?_singleton]
    -- the argument's name is the only one, so it is the name of the first segment
    have hname : (readName s.toList).1 = beforeEquals s.toList := by
      have hfirst := get?_parse_ne_none hs
      rw [hget] at hfirst
      have heq := (ite_ne_right_iff.1 hfirst).1
      rw [fst_readSegment] at heq
      exact String.ofList_inj.1 heq
    have hvalue : ',' ∉ (argumentEntry s.toList).2.toList := by
      refine comma_notMem_of_mem_parse (s := s) (e := argumentEntry s.toList) ?_
      rw [← TextMap.get?_eq_some_iff, hget, if_pos rfl]
    rw [argumentEntry, String.toList_ofList] at hvalue
    obtain ⟨hbefore, hunprotected⟩ := of_fst_readName_eq hname
    exact ⟨(comma_notMem_iff _).2 ⟨hbefore, hvalue⟩, hunprotected⟩
  · rintro ⟨hcomma, h⟩
    rw [parse_ne_empty hs, segments_of_end (readSegment_of_unprotected hcomma h)]

/-! ## Names without equals signs -/

theorem equalsFreeNames_iff (o : Options) :
    EqualsFreeNames o ↔ ∀ k v, o.get? k = some v → '=' ∉ k.toList := by
  refine ⟨fun h k v hget => h (k, v) ((TextMap.get?_eq_some_iff o k v).1 hget), fun h e he => ?_⟩
  exact h e.1 e.2 ((TextMap.get?_eq_some_iff o e.1 e.2).2 he)

theorem EqualsFreeNames.insertAll {o : Options} (h : EqualsFreeNames o)
    {pairs : List (String × String)} (hpairs : ∀ p ∈ pairs, '=' ∉ p.1.toList) :
    EqualsFreeNames (o.insertAll pairs) := by
  rw [equalsFreeNames_iff] at h ⊢
  intro k v hget
  rw [TextMap.get?_insertAll, Option.orElse_eq_some] at hget
  rcases hget with hlast | ⟨-, hget⟩
  · exact hpairs _ (TextMap.mem_of_lastValue? hlast)
  · exact h k v hget

/-- Options without equals signs in names are read back from their text, if their values can be and
the text shows them at all. -/
theorem parse_render_iff_of_equalsFreeNames {o : Options} (h : EqualsFreeNames o) :
    parse o.render = o ↔ CommaFreeValues o ∧ o ≠ TextMap.ofList [("", "")] := by
  constructor
  · intro heq
    refine ⟨heq ▸ commaFreeValues_parse o.render, ?_⟩
    rintro rfl
    exact absurd (reparse_singleton_empty.symm.trans heq) (by decide)
  · rintro ⟨hvalues, hne⟩
    exact parse_render h hvalues hne

end Options

open Options (EqualsFreeNames CommaFreeValues)

/-- The names that follow from the fields of a configuration hold no equals sign. -/
theorem Config.equals_notMem_of_impliedValue? {c : Config} {p : Platform} {k v : String}
    (h : c.impliedValue? p k = some v) : '=' ∉ k.toList := by
  unfold impliedValue? at h
  split at h
  case h_8 => cases h
  all_goals decide

theorem Config.equalsFreeNames_mountOptions {c : Config} (h : EqualsFreeNames c.options)
    (p : Platform) : EqualsFreeNames (c.mountOptions p) := by
  rw [Options.equalsFreeNames_iff] at h ⊢
  intro k v hget
  rw [Config.get?_mountOptions, Option.orElse_eq_some] at hget
  rcases hget with hget | ⟨-, hget⟩
  · exact h k v hget
  · exact Config.equals_notMem_of_impliedValue? hget

namespace Session

theorem equalsFreeNames_builtOptions {session : Session} {flags : MountFlags}
    (hown : EqualsFreeNames session.baseConfig.options)
    (hflags : ∀ e ∈ flags.options, ∃ s, parseOption s = .ok e) :
    EqualsFreeNames (session.builtOptions flags) := by
  refine Config.equalsFreeNames_mountOptions (hown.insertAll fun e he => ?_) _
  obtain ⟨s, hs⟩ := hflags e he
  exact Options.equals_notMem_of_parseOption hs

theorem output_run_options (session : Session) (flags : MountFlags) :
    (session.run (.options flags none)).output = (session.builtOptions flags).render ++ "\n" :=
  rfl

end Session

/-! ## Main theorem -/

/-- **Two ways to read an option.** Read as an argument, an option has a name without equals signs.
Read as an options text it has the same name and the same value, and there is no other option,
exactly if it holds no comma and no backslash protects anything in its name. So the options that a
command prints, with any arguments on top of settings whose names hold no equals sign, are read back
from their text exactly if no value holds a comma and they are not a single empty name. -/
theorem parse_argument :
    (∀ s : String, s ≠ "" → ∃ name value, parseOption s = .ok (name, value) ∧
      '=' ∉ name.toList ∧
      (Options.parse s = TextMap.ofList [(name, value)] ↔
        ',' ∉ s.toList ∧ Options.Unprotected s.toList)) ∧
    ∀ (session : Session) (flags : MountFlags), EqualsFreeNames session.baseConfig.options →
      (∀ e ∈ flags.options, ∃ s, parseOption s = .ok e) →
      (session.run (.options flags none)).output = (session.builtOptions flags).render ++ "\n" ∧
      (Options.parse (session.builtOptions flags).render = session.builtOptions flags ↔
        CommaFreeValues (session.builtOptions flags) ∧
          session.builtOptions flags ≠ TextMap.ofList [("", "")]) := by
  constructor
  · intro s hs
    have hread := Options.parseOption_of_ne_empty hs
    exact ⟨(Options.argumentEntry s.toList).1, (Options.argumentEntry s.toList).2, hread,
      Options.equals_notMem_of_parseOption hread, Options.parse_eq_ofList_iff hs⟩
  · intro session flags hown hflags
    have hnames := Session.equalsFreeNames_builtOptions hown hflags
    exact ⟨session.output_run_options flags, Options.parse_render_iff_of_equalsFreeNames hnames⟩

/-- A single backslash at the end of a name, and a comma in a value on top of settings with a comma
in a name. -/
theorem parse_argument_loneBackslash :
    let own : Config := { options := TextMap.ofList [("x,y", "1")] }
    let session : Session := { host := {}, settings := some { mount := some own } }
    let flags : MountFlags := { platform := some .other, options := [("k", "v,w=")] }
    "a\\" ≠ "" ∧ EqualsFreeNames session.baseConfig.options ∧
      (∀ e ∈ flags.options, ∃ s, parseOption s = .ok e) ∧
      (∃ name value, parseOption "a\\" = .ok (name, value) ∧ '=' ∉ name.toList ∧
        (Options.parse "a\\" = TextMap.ofList [(name, value)] ↔
          ',' ∉ "a\\".toList ∧ Options.Unprotected "a\\".toList)) ∧
      (session.run (.options flags none)).output =
        "default_permissions,k=v,w=,x\\,y=1\n" ∧
      (Options.parse (session.builtOptions flags).render = session.builtOptions flags ↔
        CommaFreeValues (session.builtOptions flags) ∧
          session.builtOptions flags ≠ TextMap.ofList [("", "")]) := by
  intro own session flags
  have hs : "a\\" ≠ "" := by decide
  have hown : EqualsFreeNames session.baseConfig.options := by decide +kernel
  have hflags : ∀ e ∈ flags.options, ∃ s, parseOption s = .ok e :=
    List.forall_mem_singleton.2 ⟨"k=v,w=", by decide +kernel⟩
  have houtput : (session.run (.options flags none)).output =
      "default_permissions,k=v,w=,x\\,y=1\n" := by
    decide +kernel
  exact ⟨hs, hown, hflags, parse_argument.1 "a\\" hs, houtput,
    (parse_argument.2 session flags hown hflags).2⟩

/-- A backslash that protects the equals sign in one reading, and belongs to the name in the other.
-/
example : Options.parse "a\\=b" = TextMap.ofList [("a=b", "")] ∧
    parseOption "a\\=b" = .ok ("a\\", "b") := by
  decide +kernel

end FuseMount
