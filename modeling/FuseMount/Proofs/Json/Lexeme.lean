import FuseMount.Proofs.Json.Grammar

/-!
# Lexemes and their readers

The readers of literal names, strings and numbers against the grammar. Each of them accepts what the
grammar has, whatever comes after it, and accepts nothing else.

Results:

* `skipString_bodyText`, `exists_bodyText_of_skipString`: a string is passed over.
* `toOption_readString_bodyText`, `exists_bodyText_of_readString`: the text of a string is read, if
  it has one.
* `skipNumber_append`, `exists_isMagnitude_of_skipNumber`: a number is passed over, of whatever size
  it is.
-/

namespace FuseMount.Json

theorem toOption_eq_some_iff {α : Type} {e : Except Fault α} {a : α} :
    e.toOption = some a ↔ e = .ok a := by
  cases e <;> simp [Except.toOption]

/-! ## Literal names -/

theorem skipLiteral_append (ls rest : List Char) : skipLiteral ls (ls ++ rest) = .ok rest := by
  induction ls with
  | nil => rfl
  | cons l ls ih => rw [List.cons_append, skipLiteral, if_pos rfl, ih]

theorem eq_append_of_skipLiteral {ls cs rest : List Char} (h : skipLiteral ls cs = .ok rest) :
    cs = ls ++ rest := by
  fun_induction skipLiteral ls cs with
  | case1 cs =>
    cases h
    rfl
  | case2 => cases h
  | case3 l ls cs ih => rw [ih h, List.cons_append]
  | case4 => cases h

/-! ## Code units -/

theorem readHex4_append {ds : List Char} {n : Nat} (h : IsHex4 ds n) (rest : List Char) :
    readHex4 (ds ++ rest) = .ok (n, rest) := by
  obtain ⟨ha, hb, hc, hd⟩ := h
  simp only [List.cons_append, List.nil_append, readHex4, ha, hb, hc, hd]

theorem exists_isHex4_of_readHex4 {cs rest : List Char} {n : Nat}
    (h : readHex4 cs = .ok (n, rest)) : ∃ ds, IsHex4 ds n ∧ cs = ds ++ rest := by
  unfold readHex4 at h
  split at h
  · split at h
    · rename_i ha hb hc hd
      cases h
      exact ⟨_, .mk ha hb hc hd, rfl⟩
    · cases h
  · split at h <;> cases h

/-! ## Strings that are passed over -/

theorem bodyText_cons (u : StringUnit) (us : List StringUnit) :
    bodyText (u :: us) = u.text ++ bodyText us :=
  List.flatMap_cons

theorem bodyText_cons_append (u : StringUnit) (us : List StringUnit) (rest : List Char) :
    bodyText (u :: us) ++ rest = u.text ++ (bodyText us ++ rest) := by
  rw [bodyText_cons, List.append_assoc]

theorem ne_u_of_shortEscape? {letter c : Char} (h : shortEscape? letter = some c) :
    letter ≠ 'u' := by
  rintro rfl
  cases h

/-- A backslash before a letter that is not `u` is looked up by both readers of strings. -/
theorem stringChar_short {letter c : Char} (h : shortEscape? letter = some c) (rest : List Char) :
    skipStringChar ((StringUnit.short letter c h).text ++ rest) = .ok (false, rest) ∧
      readStringChar ((StringUnit.short letter c h).text ++ rest) = .ok (some c, rest) := by
  have hu := ne_u_of_shortEscape? h
  rw [StringUnit.text, List.cons_append, List.singleton_append]
  constructor
  · rw [skipStringChar.eq_5 _ _ hu, h]
    rfl
  · rw [readStringChar.eq_5 _ _ hu, h]

/-- A character that stands for itself does so for both readers of strings. -/
theorem stringChar_plain {c : Char} (hc : c ≠ '"' ∧ c ≠ '\\' ∧ 0x20 ≤ c.toNat)
    (rest : List Char) :
    skipStringChar ((StringUnit.plain c hc).text ++ rest) = .ok (false, rest) ∧
      readStringChar ((StringUnit.plain c hc).text ++ rest) = .ok (some c, rest) := by
  obtain ⟨hquote, hslash, hcontrol⟩ := hc
  rw [StringUnit.text, List.singleton_append]
  have hnot : ¬c.toNat < 0x20 := Nat.not_lt.2 hcontrol
  constructor
  · rw [skipStringChar.eq_6 _ _ hquote (fun h => absurd h hslash) (fun _ h => absurd h hslash)
      (fun _ _ h => absurd h hslash), if_neg hnot]
  · rw [readStringChar.eq_6 _ _ hquote (fun h => absurd h hslash) (fun _ h => absurd h hslash)
      (fun _ _ h => absurd h hslash), if_neg hnot]

theorem skipStringChar_unit (u : StringUnit) (rest : List Char) :
    skipStringChar (u.text ++ rest) = .ok (false, rest) := by
  cases u with
  | plain c hc => exact (stringChar_plain hc rest).1
  | short letter c h => exact (stringChar_short h rest).1
  | code ds n h =>
    rw [StringUnit.text, List.cons_append, List.cons_append, skipStringChar, readHex4_append h]

/-- What is not the closing quote is a unit. -/
theorem exists_unit_of_skipStringChar {cs rest : List Char}
    (h : skipStringChar cs = .ok (false, rest)) : ∃ u : StringUnit, cs = u.text ++ rest := by
  unfold skipStringChar at h
  split at h
  · cases h
  · cases h
  · cases h
  · split at h
    · cases h
    · rename_i hread
      cases h
      obtain ⟨ds, hds, rfl⟩ := exists_isHex4_of_readHex4 hread
      exact ⟨.code ds _ hds, rfl⟩
  · rename_i letter _ _
    split at h
    · rename_i hsome
      cases h
      obtain ⟨c, hc⟩ := Option.isSome_iff_exists.1 hsome
      exact ⟨.short letter c hc, rfl⟩
    · cases h
  · rename_i c r hquote hend hu hother
    split at h
    · cases h
    · rename_i hcontrol
      cases h
      refine ⟨.plain c ⟨hquote, fun hslash => ?_, Nat.not_lt.1 hcontrol⟩, rfl⟩
      cases rest with
      | nil => exact hend hslash rfl
      | cons d rest => exact hother d rest hslash rfl

theorem eq_quote_of_skipStringChar {cs rest : List Char}
    (h : skipStringChar cs = .ok (true, rest)) : cs = '"' :: rest := by
  unfold skipStringChar at h
  split at h
  · cases h
  · cases h
    rfl
  · cases h
  · split at h <;> cases h
  · split at h <;> cases h
  · split at h <;> cases h

theorem skipString_quote (rest : List Char) : skipString ('"' :: rest) = .ok rest := by
  rw [skipString]
  rfl

theorem skipString_bodyText (us : List StringUnit) (rest : List Char) :
    skipString (bodyText us ++ '"' :: rest) = .ok rest := by
  induction us with
  | nil => exact skipString_quote rest
  | cons u us ih =>
    rw [bodyText_cons_append, skipString]
    split <;> rename_i h <;> rw [skipStringChar_unit] at h <;> cases h
    exact ih

theorem exists_bodyText_of_skipString {cs rest : List Char} (h : skipString cs = .ok rest) :
    ∃ us, cs = bodyText us ++ '"' :: rest := by
  fun_induction skipString cs with
  | case1 => cases h
  | case2 cs r hc =>
    cases h
    exact ⟨[], eq_quote_of_skipStringChar hc⟩
  | case3 cs r hc ih =>
    obtain ⟨u, rfl⟩ := exists_unit_of_skipStringChar hc
    obtain ⟨us, rfl⟩ := ih h
    exact ⟨u :: us, (bodyText_cons_append u us _).symm⟩

/-! ## Strings that are read -/

section

variable {ds : List Char} {n : Nat} (h : IsHex4 ds n)

include h

theorem readUnicodeEscape_trailing (hn : isTrailing n = true) (rest : List Char) :
    readUnicodeEscape (ds ++ rest) = .error (.malformed .loneSurrogate) := by
  rw [readUnicodeEscape, readHex4_append h]
  exact if_pos hn

theorem readUnicodeEscape_single (hn : ¬isTrailing n = true) (hn' : ¬isLeading n = true)
    (rest : List Char) : readUnicodeEscape (ds ++ rest) = .ok (Char.ofNat n, rest) := by
  rw [readUnicodeEscape, readHex4_append h]
  exact (if_neg hn).trans (if_neg hn')

theorem readUnicodeEscape_pair (hn : ¬isTrailing n = true) (hn' : isLeading n = true)
    {ds' : List Char} {m : Nat} (h' : IsHex4 ds' m) (rest : List Char) :
    readUnicodeEscape (ds ++ ((StringUnit.code ds' m h').text ++ rest)) =
      if isTrailing m then
        .ok (Char.ofNat (0x10000 + (n - 0xD800) * 0x400 + (m - 0xDC00)), rest)
      else .error (.malformed .loneSurrogate) := by
  rw [readUnicodeEscape, readHex4_append h]
  simp only [if_neg hn, if_pos hn', StringUnit.text, List.cons_append, readHex4_append h']

/-- The first half of a pair before anything that is not a code unit. -/
theorem readUnicodeEscape_leading (hn : ¬isTrailing n = true) (hn' : isLeading n = true)
    {us : List StringUnit} (hus : ∀ ds m hds us', us ≠ .code ds m hds :: us') (rest : List Char) :
    ∃ e, readUnicodeEscape (ds ++ (bodyText us ++ '"' :: rest)) = .error e := by
  rw [readUnicodeEscape, readHex4_append h]
  dsimp only
  rw [if_neg hn, if_pos hn']
  cases us with
  | nil => exact ⟨_, rfl⟩
  | cons u us =>
    rw [bodyText_cons_append]
    cases u with
    | plain c hc =>
      rw [StringUnit.text, List.singleton_append]
      split
      · exact ⟨_, rfl⟩
      · exact ⟨_, rfl⟩
      · exact absurd ‹_› fun he => hc.2.1 (List.cons.inj he).1
      · exact ⟨_, rfl⟩
    | short letter c hletter =>
      rw [StringUnit.text, List.cons_append, List.singleton_append]
      split
      · exact ⟨_, rfl⟩
      · exact ⟨_, rfl⟩
      · exact absurd ‹_› fun he =>
          ne_u_of_shortEscape? hletter (List.cons.inj (List.cons.inj he).2).1
      · exact ⟨_, rfl⟩
    | code ds m hds => exact absurd rfl (hus ds m hds us)

end

theorem readString_quote (rest : List Char) : readString ('"' :: rest) = .ok ([], rest) := by
  rw [readString]
  rfl

theorem readString_of_char {cs rest : List Char} {c : Char}
    (h : readStringChar cs = .ok (some c, rest)) :
    (readString cs).toOption = (readString rest).toOption.map fun p => (c :: p.1, p.2) := by
  rw [readString]
  split <;> rename_i h' <;> rw [h] at h' <;> cases h'
  cases readString rest <;> rfl

theorem readString_of_escape {cs rest : List Char} {c : Char}
    (h : readUnicodeEscape cs = .ok (c, rest)) :
    (readString ('\\' :: 'u' :: cs)).toOption =
      (readString rest).toOption.map fun p => (c :: p.1, p.2) :=
  readString_of_char (by rw [readStringChar, h])

theorem toOption_readString_of_escape_error {cs : List Char} {e : Fault}
    (h : readUnicodeEscape cs = .error e) : (readString ('\\' :: 'u' :: cs)).toOption = none := by
  have hchar : readStringChar ('\\' :: 'u' :: cs) = .error e := by rw [readStringChar, h]
  rw [readString]
  split <;> rename_i h' <;> rw [hchar] at h' <;> cases h'
  rfl

/-- The text of a string is read if it has one. -/
theorem toOption_readString_bodyText (us : List StringUnit) (rest : List Char) :
    (readString (bodyText us ++ '"' :: rest)).toOption = (chars? us).map (·, rest) := by
  fun_induction chars? us with
  | case1 =>
    rw [bodyText, List.flatMap_nil, List.nil_append, readString_quote]
    rfl
  | case2 c hc us ih =>
    rw [bodyText_cons_append, readString_of_char (stringChar_plain hc _).2, ih]
    cases chars? us <;> rfl
  | case3 letter c h us ih =>
    rw [bodyText_cons_append, readString_of_char (stringChar_short h _).2, ih]
    cases chars? us <;> rfl
  | case4 ds n h us hn =>
    rw [bodyText_cons_append]
    exact toOption_readString_of_escape_error (readUnicodeEscape_trailing h hn _)
  | case5 ds n h hn hn' ds' m h' us hm ih =>
    -- Two units that are one character.
    rw [bodyText_cons_append, bodyText_cons_append]
    refine (readString_of_escape
      ((readUnicodeEscape_pair h hn hn' h' _).trans (if_pos hm))).trans ?_
    rw [ih]
    cases chars? us <;> rfl
  | case6 ds n h hn hn' ds' m h' us hm =>
    rw [bodyText_cons_append, bodyText_cons_append]
    exact toOption_readString_of_escape_error
      ((readUnicodeEscape_pair h hn hn' h' _).trans (if_neg hm))
  | case7 ds n h us hn hn' hus =>
    rw [bodyText_cons_append]
    obtain ⟨e, he⟩ := readUnicodeEscape_leading h hn hn' (fun ds m hds us' => hus ds m hds us') rest
    exact toOption_readString_of_escape_error he
  | case8 ds n h us hn hn' ih =>
    rw [bodyText_cons_append]
    refine (readString_of_escape (readUnicodeEscape_single h hn hn' _)).trans ?_
    rw [ih]
    cases chars? us <;> rfl

theorem bodyText_append (us us' : List StringUnit) :
    bodyText (us ++ us') = bodyText us ++ bodyText us' :=
  List.flatMap_append

/-- An escape is one code unit or two. -/
theorem exists_bodyText_of_readUnicodeEscape {cs rest : List Char} {c : Char}
    (h : readUnicodeEscape cs = .ok (c, rest)) :
    ∃ us, '\\' :: 'u' :: cs = bodyText us ++ rest := by
  unfold readUnicodeEscape at h
  split at h
  · cases h
  · rename_i n r hread
    obtain ⟨ds, hds, rfl⟩ := exists_isHex4_of_readHex4 hread
    split at h
    · cases h
    split at h
    · split at h
      · cases h
      · cases h
      · split at h
        · cases h
        · rename_i m r' hread'
          obtain ⟨ds', hds', rfl⟩ := exists_isHex4_of_readHex4 hread'
          split at h
          · obtain ⟨-, rfl⟩ := Prod.mk.inj (Except.ok.inj h)
            exact ⟨[.code ds n hds, .code ds' m hds'], by simp [bodyText, StringUnit.text]⟩
          · cases h
      · cases h
    · cases h
      exact ⟨[.code ds n hds], by simp [bodyText, StringUnit.text]⟩

theorem exists_bodyText_of_readStringChar {cs rest : List Char} {c : Char}
    (h : readStringChar cs = .ok (some c, rest)) : ∃ us, cs = bodyText us ++ rest := by
  unfold readStringChar at h
  split at h
  · cases h
  · cases h
  · cases h
  · split at h
    · cases h
    · rename_i hread
      cases h
      exact exists_bodyText_of_readUnicodeEscape hread
  · rename_i letter _ _
    split at h
    · rename_i hc
      cases h
      exact ⟨[.short letter c hc], rfl⟩
    · cases h
  · rename_i d r hquote hend hu hother
    split at h
    · cases h
    · rename_i hcontrol
      cases h
      refine ⟨[.plain c ⟨hquote, fun hslash => ?_, Nat.not_lt.1 hcontrol⟩], rfl⟩
      cases rest with
      | nil => exact hend hslash rfl
      | cons d rest => exact hother d rest hslash rfl

theorem eq_quote_of_readStringChar {cs rest : List Char}
    (h : readStringChar cs = .ok (none, rest)) : cs = '"' :: rest := by
  unfold readStringChar at h
  split at h
  · cases h
  · cases h
    rfl
  · cases h
  · split at h <;> cases h
  · split at h <;> cases h
  · split at h <;> cases h

theorem exists_bodyText_of_readString {cs rest text : List Char}
    (h : readString cs = .ok (text, rest)) : ∃ us, cs = bodyText us ++ '"' :: rest := by
  fun_induction readString cs generalizing text rest with
  | case1 => cases h
  | case2 cs r hc =>
    cases h
    exact ⟨[], eq_quote_of_readStringChar hc⟩
  | case3 => cases h
  | case4 cs c r hc t r' hr ih =>
    cases h
    obtain ⟨us, rfl⟩ := exists_bodyText_of_readStringChar hc
    obtain ⟨us', rfl⟩ := ih hr
    exact ⟨us ++ us', by rw [bodyText_append, List.append_assoc]⟩

/-! ## Numbers -/

/-- What may come after digits: no further digit. -/
def NoDigit (cs : List Char) : Prop :=
  ∀ c ∈ cs.head?, isDigit c = false

theorem spanDigits_append {ds rest : List Char} (hds : ∀ c ∈ ds, isDigit c = true)
    (hrest : NoDigit rest) : spanDigits (ds ++ rest) = (ds, rest) := by
  have htake : rest.takeWhile isDigit = [] := by
    cases rest with
    | nil => rfl
    | cons c rest => exact List.takeWhile_cons_of_neg (by simp [hrest c rfl])
  have hdrop : rest.dropWhile isDigit = rest := by
    cases rest with
    | nil => rfl
    | cons c rest => exact List.dropWhile_cons_of_neg (by simp [hrest c rfl])
  rw [spanDigits, List.takeWhile_append_of_pos hds, List.dropWhile_append_of_pos hds, htake, hdrop,
    List.append_nil]

theorem append_spanDigits (cs : List Char) :
    cs = (spanDigits cs).1 ++ (spanDigits cs).2 ∧ ∀ c ∈ (spanDigits cs).1, isDigit c = true :=
  ⟨List.takeWhile_append_dropWhile.symm, fun _ h => List.mem_takeWhile_imp h⟩

theorem spanDigits_eq {cs ds rest : List Char} (h : spanDigits cs = (ds, rest)) :
    cs = ds ++ rest ∧ ∀ c ∈ ds, isDigit c = true := by
  have happend := append_spanDigits cs
  rwa [h] at happend

theorem readInteger_append {i rest : List Char} (h : IsInteger i) (hrest : NoDigit rest) :
    readInteger (i ++ rest) = .ok (i, rest) := by
  cases h with
  | zero =>
    rw [List.singleton_append, readInteger, if_neg]
    cases rest with
    | nil => simp
    | cons c rest => simp [hrest c rfl]
  | @digits d ds hd hzero hds =>
    rw [List.cons_append, readInteger.eq_3 _ _ hzero, if_pos hd, spanDigits_append hds hrest]

theorem isInteger_of_readInteger {cs i rest : List Char} (h : readInteger cs = .ok (i, rest)) :
    IsInteger i ∧ cs = i ++ rest := by
  unfold readInteger at h
  split at h
  · cases h
  · split at h <;> cases h
    exact ⟨.zero, rfl⟩
  · rename_i d r hzero
    split at h
    · rename_i hd
      cases h
      obtain ⟨happend, hds⟩ := append_spanDigits r
      exact ⟨.digits hd hzero hds, congrArg (d :: ·) happend⟩
    · cases h

theorem readFraction_append {f rest : List Char} (h : IsFraction f) (hrest : NoDigit rest)
    (hpoint : ∀ c ∈ rest.head?, c ≠ '.') : ∃ ds, readFraction (f ++ rest) = .ok (ds, rest) := by
  cases h with
  | none =>
    refine ⟨none, readFraction.eq_2 _ fun r hr => ?_⟩
    exact hpoint '.' (by rw [List.nil_append] at hr; rw [hr]; rfl) rfl
  | @digits ds h =>
    obtain ⟨hne, hds⟩ := h
    rw [List.cons_append, readFraction, spanDigits_append hds hrest]
    cases ds with
    | nil => exact absurd rfl hne
    | cons d ds => exact ⟨_, rfl⟩

theorem isFraction_of_readFraction {cs rest : List Char} {ds : Option (List Char)}
    (h : readFraction cs = .ok (ds, rest)) : ∃ f, IsFraction f ∧ cs = f ++ rest := by
  unfold readFraction at h
  split at h
  · split at h
    · cases h
    · cases h
    · rename_i r ds' r' hne hne' hspan
      cases h
      obtain ⟨rfl, hds⟩ := spanDigits_eq hspan
      refine ⟨'.' :: ds', .digits ⟨?_, hds⟩, rfl⟩
      rintro rfl
      cases rest with
      | nil => exact hne rfl rfl
      | cons c rest => exact hne' c rest rfl rfl
  · cases h
    exact ⟨[], .none, rfl⟩

theorem splitSign_append {sign ds : List Char} (hsign : sign = [] ∨ sign = ['+'] ∨ sign = ['-'])
    (hds : ∀ c ∈ ds.head?, isDigit c = true) : (splitSign (sign ++ ds)).2 = ds := by
  rcases hsign with rfl | rfl | rfl
  · cases ds with
    | nil => rfl
    | cons d ds =>
      have hd : isDigit d = true := hds d rfl
      rw [List.nil_append, splitSign.eq_3 _ (fun r hr => isDigit_ne hd rfl (List.cons.inj hr).1)
        (fun r hr => isDigit_ne hd rfl (List.cons.inj hr).1)]
  · rfl
  · rfl

theorem exists_sign_append_splitSign (cs : List Char) :
    ∃ sign, (sign = [] ∨ sign = ['+'] ∨ sign = ['-']) ∧ cs = sign ++ (splitSign cs).2 := by
  unfold splitSign
  split
  · exact ⟨['+'], .inr (.inl rfl), rfl⟩
  · exact ⟨['-'], .inr (.inr rfl), rfl⟩
  · exact ⟨[], .inl rfl, rfl⟩

theorem readExponent_append {e rest : List Char} (h : IsExponent e) (hrest : NoDigit rest)
    (hmark : ∀ c ∈ rest.head?, ¬(c = 'e' ∨ c = 'E')) :
    ∃ x, readExponent (e ++ rest) = .ok (x, rest) := by
  cases h with
  | none =>
    refine ⟨none, ?_⟩
    cases rest with
    | nil => rfl
    | cons c rest => rw [List.nil_append, readExponent, if_neg (hmark c rfl)]
  | @digits mark sign ds hmark' hsign h =>
    obtain ⟨hne, hds⟩ := h
    obtain ⟨d, ds, rfl⟩ := List.exists_cons_of_ne_nil hne
    rw [List.cons_append, readExponent, if_pos hmark', List.append_assoc,
      splitSign_append hsign (fun c hc => hds c (by cases hc; exact List.mem_cons_self)),
      spanDigits_append hds hrest]
    exact ⟨_, rfl⟩

theorem isExponent_of_readExponent {cs rest : List Char} {x : Option (Bool × List Char)}
    (h : readExponent cs = .ok (x, rest)) : ∃ e, IsExponent e ∧ cs = e ++ rest := by
  unfold readExponent at h
  split at h
  · rename_i c r
    split at h
    · rename_i hmark
      split at h
      · cases h
      · cases h
      · rename_i p ds r' hne hne' hspan
        cases h
        obtain ⟨sign, hsign, hr⟩ := exists_sign_append_splitSign r
        obtain ⟨happend, hds⟩ := spanDigits_eq hspan
        refine ⟨c :: (sign ++ ds), .digits hmark hsign ⟨?_, hds⟩, ?_⟩
        · rintro rfl
          cases rest with
          | nil => exact hne rfl rfl
          | cons c rest => exact hne' c rest rfl rfl
        · rw [List.cons_append, List.append_assoc, ← happend, ← hr]
    · cases h
      exact ⟨[], .none, rfl⟩
  · cases h
    exact ⟨[], .none, rfl⟩

/-- What may come after a value continues no number. -/
theorem ValueEnd.head {cs : List Char} (h : ValueEnd cs) :
    ∀ c ∈ cs.head?, isDigit c = false ∧ c ≠ '.' ∧ ¬(c = 'e' ∨ c = 'E') := by
  intro c hc
  cases h with
  | nil => cases hc
  | @space d hd cs =>
    cases hc
    simp only [isSpace, Bool.or_eq_true, beq_iff_eq, or_assoc] at hd
    rcases hd with rfl | rfl | rfl | rfl <;> decide
  | _ => cases hc; decide

theorem IsExponent.head {e rest : List Char} (h : IsExponent e) (hrest : ValueEnd rest) :
    ∀ c ∈ (e ++ rest).head?, isDigit c = false ∧ c ≠ '.' := by
  intro c hc
  cases h with
  | none => exact ⟨(hrest.head c hc).1, (hrest.head c hc).2.1⟩
  | digits he =>
    cases hc
    rcases he with rfl | rfl <;> decide

theorem IsFraction.noDigit {f rest : List Char} (h : IsFraction f) (hrest : NoDigit rest) :
    NoDigit (f ++ rest) := by
  intro c hc
  cases h with
  | none => exact hrest c hc
  | digits =>
    cases hc
    rfl

theorem skipNumber_append {cs rest : List Char} (h : IsMagnitude cs) (hrest : ValueEnd rest) :
    skipNumber (cs ++ rest) = .ok rest := by
  obtain @⟨i, f, e, hi, hf, he⟩ := h
  have hexponent : NoDigit (e ++ rest) := fun c hc => (he.head hrest c hc).1
  obtain ⟨ds, hreadf⟩ := readFraction_append hf hexponent fun c hc => (he.head hrest c hc).2
  obtain ⟨x, hreade⟩ := readExponent_append he (fun c hc => (hrest.head c hc).1)
    fun c hc => (hrest.head c hc).2.2
  have hreadi := readInteger_append hi (hf.noDigit hexponent)
  rw [List.append_assoc, List.append_assoc, skipNumber, hreadi]
  simp only [endIsBadNumber, bind, Except.bind, hreadf, hreade, pure, Except.pure]

theorem exists_isMagnitude_of_skipNumber {cs rest : List Char} (h : skipNumber cs = .ok rest) :
    ∃ n, IsMagnitude n ∧ cs = n ++ rest := by
  unfold skipNumber at h
  simp only [bind, Except.bind] at h
  split at h
  · cases h
  rename_i p₁ h₁
  split at h
  · cases h
  rename_i p₂ h₂
  split at h
  · cases h
  rename_i p₃ h₃
  cases h
  obtain ⟨hi, happend⟩ := isInteger_of_readInteger (endIsBadNumber_eq_ok h₁)
  obtain ⟨f, hf, hfraction⟩ := isFraction_of_readFraction (endIsBadNumber_eq_ok h₂)
  obtain ⟨e, he, hexponent⟩ := isExponent_of_readExponent (endIsBadNumber_eq_ok h₃)
  refine ⟨_, .mk hi hf he, ?_⟩
  rw [List.append_assoc, List.append_assoc, ← hexponent, ← hfraction, ← happend]

end FuseMount.Json
