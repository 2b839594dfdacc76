import FuseMount.Proofs.Options.RoundTrip

/-!
# Writing and reading again and again

What becomes of options that are written as text and read back, over and over. Each round settles
one thing: after the first one no value holds a comma, after the second one no name holds an equals
sign, and after the third one there is no single empty name without a value. Nothing is left to
settle then. Seen from the texts the last of these makes no difference, since a single empty name is
written as the empty text, just as no options at all.

Results:

* `commaFreeValues_reparse`, `equalsFreeNames_reparse_reparse`: what the first two rounds settle.
* `reparse_reparse_of_free`: the third round is the last one that changes anything.
* `render_reparse_of_free`: the third round does not change the text.
* `reparse_stabilises`: after how many rounds texts and options stay as they are.
-/

namespace FuseMount.Options

/-- One round on a text: read and write it. -/
def reformat (s : String) : String :=
  (parse s).render

/-- One round on options: write and read them. -/
def reparse (o : Options) : Options :=
  parse o.render

/-! ## What a round settles -/

theorem commaFreeValues_reparse (o : Options) : CommaFreeValues (reparse o) :=
  commaFreeValues_parse o.render

theorem equalsFreeNames_reparse_reparse (o : Options) : EqualsFreeNames (reparse (reparse o)) :=
  equalsFreeNames_parse_render (commaFreeValues_reparse o)

/-! ## What is settled stays -/

theorem reparse_empty : reparse ∅ = ∅ := rfl

theorem reparse_singleton_empty : reparse (TextMap.ofList [("", "")]) = ∅ := by
  rw [reparse, (render_eq_empty_iff _).2 (.inr rfl)]
  rfl

section

variable {o : Options} (hnames : EqualsFreeNames o) (hvalues : CommaFreeValues o)

include hnames hvalues

/-- Options without commas in values and equals signs in names come back unchanged, or as no options
at all. -/
theorem reparse_of_free :
    reparse o = o ∨ o = TextMap.ofList [("", "")] ∧ reparse o = ∅ := by
  by_cases ho : o = TextMap.ofList [("", "")]
  · exact .inr ⟨ho, ho ▸ reparse_singleton_empty⟩
  · exact .inl (parse_render hnames hvalues ho)

/-- Such options change at most once more. -/
theorem reparse_reparse_of_free : reparse (reparse o) = reparse o := by
  rcases reparse_of_free hnames hvalues with h | ⟨-, h⟩
  · rw [h, h]
  · rw [h, reparse_empty]

/-- The text of such options does not change any more. -/
theorem render_reparse_of_free : (reparse o).render = o.render := by
  rcases reparse_of_free hnames hvalues with h | ⟨ho, h⟩
  · rw [h]
  · rw [h, ho, (render_eq_empty_iff _).2 (.inl rfl), (render_eq_empty_iff _).2 (.inr rfl)]

end

/-! ## Main theorem -/

theorem reformat_reformat_of_equalsFreeNames {s : String} (h : EqualsFreeNames (parse s)) :
    reformat (reformat s) = reformat s :=
  render_reparse_of_free h (commaFreeValues_parse s)

/-- A second round on a text is a round on what was read, whose names may still hold equals signs;
before the third one they do not. -/
theorem reformat_reformat_reformat (s : String) :
    reformat (reformat (reformat s)) = reformat (reformat s) := by
  have hvalues : CommaFreeValues (parse s) := commaFreeValues_parse s
  have hnames : EqualsFreeNames (reparse (parse s)) := equalsFreeNames_parse_render hvalues
  calc reformat (reformat (reformat s))
      = (reparse (reparse (parse s))).render := rfl
    _ = (reparse (parse s)).render := render_reparse_of_free hnames (commaFreeValues_reparse _)
    _ = reformat (reformat s) := rfl

theorem reparse_reparse_reparse_reparse (o : Options) :
    reparse (reparse (reparse (reparse o))) = reparse (reparse (reparse o)) :=
  reparse_reparse_of_free (equalsFreeNames_reparse_reparse o) (commaFreeValues_reparse _)

/-- **Reading and writing settle.** A text stays as it is from the second round on, and from the
first one on if no name that is read from it holds an equals sign. Options stay as they are from the
third round on; no value holds a comma after the first one, and no name an equals sign after the
second. -/
theorem reparse_stabilises :
    (∀ s, reformat (reformat (reformat s)) = reformat (reformat s) ∧
      (EqualsFreeNames (parse s) → reformat (reformat s) = reformat s)) ∧
    ∀ o, reparse (reparse (reparse (reparse o))) = reparse (reparse (reparse o)) ∧
      CommaFreeValues (reparse o) ∧ EqualsFreeNames (reparse (reparse o)) :=
  ⟨fun s => ⟨reformat_reformat_reformat s, reformat_reformat_of_equalsFreeNames⟩,
    fun o => ⟨reparse_reparse_reparse_reparse o, commaFreeValues_reparse o,
      equalsFreeNames_reparse_reparse o⟩⟩

/-- A text with a protected comma, an empty segment and a backslash at the end of a value. -/
theorem reformat_reformat_protected_comma :
    EqualsFreeNames (parse "b\\,=x=\\,,a") ∧
      reformat (reformat "b\\,=x=\\,,a") = reformat "b\\,=x=\\,,a" := by
  have hparse : parse "b\\,=x=\\,,a" =
      TextMap.ofList [("b,", "x=\\"), ("", ""), ("a", "")] := by
    decide +kernel
  have hnames : EqualsFreeNames (parse "b\\,=x=\\,,a") := by
    rw [hparse]
    decide +kernel
  exact ⟨hnames, (reparse_stabilises.1 _).2 hnames⟩

/-- One round is not enough for a text with an equals sign in a name. -/
example : reformat "a\\=b,a=c" = "a=c,a=b" ∧ reformat "a=c,a=b" = "a=b" := by
  decide +kernel

/-- Two rounds are not enough for options of which a single empty name is left. -/
example : reparse (reparse (TextMap.ofList [("", "x,\\=")])) = TextMap.ofList [("", "")] := by
  decide +kernel

end FuseMount.Options
