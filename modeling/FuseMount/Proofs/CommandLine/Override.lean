import FuseMount.Proofs.CommandLine.Reading
import Mathlib.Data.List.TakeWhile

/-!
# Giving an option another value

An option may be given once, and sets a part of the value that no other argument touches. Then its
value can be exchanged in a command line, or the option be added to one that lacks it, and what is
made of the other arguments stays the same.

The proof compares two readings of the words that follow, one of which is ahead of the other by the
value of the option (`Ahead`). Every step that one of them can make, the other one can make too.

Results:

* `of_run_givesValue`, `run_of_givesValue`: what words that give the option a value come to.
* `Ahead.accept`, `Ahead.run`: one word, and all words, taken in by both readings.
* `Grammar.Overrides.read`: the value that is made with the new value of the option.
* `Grammar.Overrides.exists_regiven`: the new value can be given in every command line.
-/

namespace FuseMount.CommandLine

/-! ## Specification -/

/-- The word that names an option. -/
def longWord (name : String) : Bytes := dash :: dash :: Utf8.encode name

/-- A word names an option, perhaps together with a value. -/
def Mentions (name : String) (word : Bytes) : Prop :=
  word = longWord name ∨ ∃ value, word = longWord name ++ equalsSign :: value

/-- Words give an option a value. -/
inductive GivesValue (name : String) (value : Bytes) : List Bytes → Prop
  /-- The value is the next word. -/
  | apart : GivesValue name value [longWord name, value]
  /-- The value stands behind an equals sign. -/
  | together : GivesValue name value [longWord name ++ equalsSign :: value]

/-- Words, and the same words with another value for an option. If there was none, it goes to the
front. -/
inductive Regiven (name : String) (value : Bytes) : List Bytes → List Bytes → Prop
  | replaced {old : Bytes} {words words' : List Bytes} (before after : List Bytes) :
      GivesValue name old words → GivesValue name value words' →
        Regiven name value (before ++ (words ++ after)) (before ++ (words' ++ after))
  | added {words' : List Bytes} (after : List Bytes) :
      GivesValue name value words' → (∀ word ∈ after, ¬Mentions name word) →
        Regiven name value after (words' ++ after)

/-- An option of a grammar may be given once, and one of its values does `set`. It has the last word
on what it sets: what else the option may do is undone by it, and the other options leave it alone.
-/
structure Grammar.Overrides {σ : Type} (g : Grammar σ) (name : String) (p : Parameter σ)
    (set : σ → σ) : Prop where
  operands_eq : g.operands = []
  commands_eq : g.commands = []
  encode_ne_nil : Utf8.encode name ≠ []
  equalsSign_notMem : equalsSign ∉ Utf8.encode name
  /-- The option is found by its name. -/
  find_eq : ∃ flag, g.flags.find? (fun flag => Utf8.encode flag.long = Utf8.encode name) = some flag ∧
    flag.action = .value p
  repeats_eq : p.repeats = false
  set_take : ∀ bytes own, p.take bytes = .ok own → ∀ a, set (own a) = set a
  of_switch : ∀ flag ∈ g.flags, ∀ f, flag.action = .switch f →
    flag.shown ≠ p.shown ∧ ∀ a, f (set a) = set (f a)
  of_value : ∀ flag ∈ g.flags, ∀ q, flag.action = .value q →
    flag.long = name ∧ flag.short = none ∧ q.shown = p.shown ∧ q.repeats = false ∨
      q.shown ≠ p.shown ∧ ∀ bytes f, q.take bytes = .ok f → ∀ a, f (set a) = set (f a)

/-! ## Words that name an option -/

theorem splitValue_eq_iff {bytes name : Bytes} {value : Option Bytes} :
    splitValue bytes = (name, value) ↔
      equalsSign ∉ name ∧ bytes = name ++ value.elim [] (equalsSign :: ·) := by
  have hne : ∀ {n : Bytes}, equalsSign ∉ n → ∀ b ∈ n, decide (b ≠ equalsSign) := by
    rintro n hn b hb
    exact decide_eq_true fun h => hn (h ▸ hb)
  constructor
  · intro h
    have hname : equalsSign ∉ bytes.takeWhile (· ≠ equalsSign) := fun hmem => by
      simpa using List.mem_takeWhile_imp hmem
    have hbytes := List.takeWhile_append_dropWhile (p := (· ≠ equalsSign)) (l := bytes)
    unfold splitValue at h
    split at h
    · rename_i b rest hdrop
      cases h
      have hb := bytes.head?_dropWhile_not (· ≠ equalsSign)
      rw [hdrop] at hb
      have hb : b = equalsSign := by simpa using hb
      rw [hdrop, hb] at hbytes
      exact ⟨hname, hbytes.symm⟩
    · rename_i hdrop
      cases h
      rw [hdrop, List.append_nil] at hbytes
      rw [hbytes] at hname
      exact ⟨hname, (List.append_nil _).symm⟩
  · rintro ⟨hname, rfl⟩
    cases value with
    | none =>
      have hdrop : name.dropWhile (· ≠ equalsSign) = [] := List.dropWhile_eq_nil_iff.2 (hne hname)
      simp only [splitValue, Option.elim_none, List.append_nil, hdrop]
    | some value =>
      rw [Option.elim_some, splitValue, List.dropWhile_append_of_pos (hne hname),
        List.takeWhile_append_of_pos (hne hname)]
      simp

theorem ofBytes_eq_long_iff {word name : Bytes} {value : Option Bytes} (hname : name ≠ []) :
    Word.ofBytes word = .long name value ↔
      equalsSign ∉ name ∧ word = dash :: dash :: (name ++ value.elim [] (equalsSign :: ·)) := by
  constructor
  · intro h
    unfold Word.ofBytes at h
    split at h
    · cases h
    · split_ifs at h with hfirst
      split at h
      · cases h
      · split_ifs at h with hsecond
        have hsplit : splitValue _ = (name, value) :=
          Prod.ext (Word.long.inj h).1 (Word.long.inj h).2
        obtain ⟨hsign, hrest⟩ := splitValue_eq_iff.1 hsplit
        rw [not_not.1 hfirst, not_not.1 hsecond, hrest]
        exact ⟨hsign, rfl⟩
  · rintro ⟨hsign, rfl⟩
    have hsplit : splitValue (name ++ value.elim [] (equalsSign :: ·)) = (name, value) :=
      splitValue_eq_iff.2 ⟨hsign, rfl⟩
    simp [Word.ofBytes, hname, hsplit]

theorem mentions_of_ofBytes {name : String} {word : Bytes} {value : Option Bytes}
    (hne : Utf8.encode name ≠ []) (h : Word.ofBytes word = .long (Utf8.encode name) value) :
    Mentions name word := by
  obtain ⟨-, rfl⟩ := (ofBytes_eq_long_iff hne).1 h
  cases value with
  | none => exact .inl (by simp [longWord])
  | some value => exact .inr ⟨value, by simp [longWord]⟩

/-! ## Words that give the option a value -/

section

variable {σ : Type} {g : Grammar σ} {name : String} {p : Parameter σ} {set : σ → σ}
  {s s' : Progress σ} {bytes : Bytes} {words : List Bytes} {a : σ}

/-- What is known once a parameter has been taken in. -/
def Progress.gave (s : Progress σ) (p : Parameter σ) (own : σ → σ) : Progress σ :=
  { s with given := p.shown :: s.given, value := own s.value, pending := none }

/-- After the two dashes there is no place for a word. -/
theorem afterDashes_of_accept (hoperands : s.operands = []) (h : g.accept s bytes = .ok s') :
    s.afterDashes = false := by
  by_contra hafter
  rw [Bool.not_eq_false] at hafter
  rw [Grammar.accept_of_afterDashes hafter, Grammar.acceptPlain_eq_ok_iff hoperands] at h
  obtain ⟨q, hq, -⟩ := h
  rw [Progress.awaited_eq_some_iff, hafter] at hq
  cases hq.2

/-- A word that comes where a value is awaited is that value, or ends the words for options. -/
theorem accept_of_awaited (hpending : s.pending = some ⟨p, none⟩) (hafter : s.afterDashes = false)
    (h : g.accept s bytes = .ok s') :
    s' = { s with pending := some ⟨p, some bytes⟩ } ∨ s' = { s with afterDashes := true } := by
  -- The value is missing for every step that begins with settling.
  have hsettles : ∀ {f : Progress σ → Except Fault (Progress σ)}, Progress.Settles f →
      f s ≠ .ok s' := by
    intro f hf h
    obtain ⟨t, ht, -⟩ := (hf s s').1 h
    rw [Progress.resolve, hpending] at ht
    cases ht
  cases hkind : Word.ofBytes bytes with
  | dashes =>
    rw [Grammar.accept_of_dashes hafter hkind] at h
    exact .inr (Except.ok.inj h).symm
  | long name value =>
    rw [Grammar.accept_of_long hafter hkind] at h
    exact absurd h (hsettles (Grammar.settles_acceptLong g name value))
  | short group =>
    obtain ⟨piece, rest, rfl⟩ := List.exists_cons_of_ne_nil (Word.group_ne_nil hkind)
    rw [Grammar.accept_of_short hafter hkind] at h
    exact absurd h (hsettles (Grammar.settles_acceptShort g piece rest))
  | plain =>
    rw [Grammar.accept_of_plain hafter hkind, Grammar.acceptPlain,
      Progress.awaited_eq_some_iff.2 ⟨hpending, hafter⟩] at h
    exact .inl (Except.ok.inj h).symm

theorem give_eq_ok_iff_gave (hpending : s.pending = none) :
    s.give p bytes = .ok s' ↔ (p.repeats ∨ p.shown ∉ s.given) ∧ ∃ own, p.take bytes = .ok own ∧
      s' = s.gave p own := by
  rw [Progress.give_eq_ok_iff]
  simp only [Progress.gave, hpending]

theorem run_pending_iff (hpending : s.pending = none) :
    g.run { s with pending := some ⟨p, some bytes⟩ } words = .ok a ↔
      (p.repeats ∨ p.shown ∉ s.given) ∧ ∃ own, p.take bytes = .ok own ∧
        g.run (s.gave p own) words = .ok a := by
  have hawaited : ({ s with pending := some ⟨p, some bytes⟩ } : Progress σ).awaited = none := rfl
  have hsettled : { s with pending := none } = s := by rw [← hpending]
  rw [Grammar.run_eq_ok_iff hawaited]
  simp only [Progress.resolve, hsettled, give_eq_ok_iff_gave hpending]
  constructor
  · rintro ⟨_, ⟨hfree, own, htake, rfl⟩, hrun⟩
    exact ⟨hfree, own, htake, hrun⟩
  · rintro ⟨hfree, own, htake, hrun⟩
    exact ⟨_, ⟨hfree, own, htake, rfl⟩, hrun⟩

section

variable (h : g.Overrides name p set) (hafter : s.afterDashes = false)

include h hafter

theorem accept_longWord_iff :
    g.accept s (longWord name) = .ok s' ↔
      ∃ t, s.resolve = .ok t ∧ s' = { t with pending := some ⟨p, none⟩ } := by
  have hkind : Word.ofBytes (longWord name) = .long (Utf8.encode name) none :=
    (ofBytes_eq_long_iff h.encode_ne_nil).2 ⟨h.equalsSign_notMem, by simp [longWord]⟩
  obtain ⟨flag, hfind, haction⟩ := h.find_eq
  simp [Grammar.accept_of_long hafter hkind, Grammar.acceptLong_eq_ok_iff, hfind,
    Grammar.acceptAlone_eq_ok_iff, haction]

theorem accept_longWord_append_iff :
    g.accept s (longWord name ++ equalsSign :: bytes) = .ok s' ↔
      ∃ t, s.resolve = .ok t ∧ t.give p bytes = .ok s' := by
  have hkind : Word.ofBytes (longWord name ++ equalsSign :: bytes) =
      .long (Utf8.encode name) (some bytes) :=
    (ofBytes_eq_long_iff h.encode_ne_nil).2 ⟨h.equalsSign_notMem, by simp [longWord]⟩
  obtain ⟨flag, hfind, haction⟩ := h.find_eq
  simp [Grammar.accept_of_long hafter hkind, Grammar.acceptLong_eq_ok_iff, hfind,
    Grammar.acceptValue_eq_ok_iff, haction]

end

variable {t : Progress σ} {after : List Bytes} {own : σ → σ} (h : g.Overrides name p set)
  (hwords : GivesValue name bytes words)

include h hwords

/-- If a command line with a value of the option is read, the option was free and the value is one.
-/
theorem of_run_givesValue (hoperands : s.operands = []) (hrun : g.run s (words ++ after) = .ok a) :
    s.afterDashes = false ∧ ∃ t, s.resolve = .ok t ∧ p.shown ∉ t.given ∧
      ∃ own, p.take bytes = .ok own ∧ g.run (t.gave p own) after = .ok a := by
  have hfree : ∀ {shown : List String}, p.repeats ∨ p.shown ∉ shown → p.shown ∉ shown :=
    fun hor => hor.resolve_left (by simp [h.repeats_eq])
  have hafter : s.afterDashes = false := by
    cases hwords <;>
    · rw [List.cons_append, Grammar.run_cons, bind_eq_ok_iff] at hrun
      obtain ⟨s', haccept, -⟩ := hrun
      exact afterDashes_of_accept hoperands haccept
  refine ⟨hafter, ?_⟩
  cases hwords with
  | apart =>
    simp only [List.cons_append, List.nil_append, Grammar.run_cons, bind_eq_ok_iff,
      accept_longWord_iff h hafter] at hrun
    obtain ⟨_, ⟨t, hresolve, rfl⟩, s', haccept, hrun⟩ := hrun
    obtain ⟨hpending, -, htafter⟩ := Progress.frame_of_resolve hresolve
    have hwaiting : ({ t with pending := some ⟨p, none⟩ } : Progress σ).afterDashes = false :=
      htafter.trans hafter
    rcases accept_of_awaited rfl hwaiting haccept with rfl | rfl
    · obtain ⟨hor, own, htake, hrun⟩ := (run_pending_iff hpending).1 hrun
      exact ⟨t, hresolve, hfree hor, own, htake, hrun⟩
    · -- After the two dashes the value stays missing.
      obtain ⟨t', hresolve', -⟩ := (Grammar.run_eq_ok_iff rfl).1 hrun
      cases hresolve'
  | together =>
    simp only [List.cons_append, List.nil_append, Grammar.run_cons, bind_eq_ok_iff,
      accept_longWord_append_iff h hafter] at hrun
    obtain ⟨s', ⟨t, hresolve, hgive⟩, hrun⟩ := hrun
    obtain ⟨hor, own, htake, rfl⟩ :=
      (give_eq_ok_iff_gave (Progress.frame_of_resolve hresolve).1).1 hgive
    exact ⟨t, hresolve, hfree hor, own, htake, hrun⟩

theorem run_of_givesValue (hplain : Word.ofBytes bytes = .plain) (hafter : s.afterDashes = false)
    (hresolve : s.resolve = .ok t) (hfree : p.shown ∉ t.given) (htake : p.take bytes = .ok own)
    (hrun : g.run (t.gave p own) after = .ok a) : g.run s (words ++ after) = .ok a := by
  obtain ⟨hpending, -, htafter⟩ := Progress.frame_of_resolve hresolve
  have hgive : t.give p bytes = .ok (t.gave p own) :=
    (give_eq_ok_iff_gave hpending).2 ⟨.inr hfree, own, htake, rfl⟩
  cases hwords with
  | apart =>
    simp only [List.cons_append, List.nil_append, Grammar.run_cons, bind_eq_ok_iff,
      accept_longWord_iff h hafter]
    refine ⟨_, ⟨t, hresolve, rfl⟩, { t with pending := some ⟨p, some bytes⟩ }, ?_,
      (run_pending_iff hpending).2 ⟨.inr hfree, own, htake, hrun⟩⟩
    have hwaiting : ({ t with pending := some ⟨p, none⟩ } : Progress σ).afterDashes = false :=
      htafter.trans hafter
    rw [Grammar.accept_of_plain hwaiting hplain, Grammar.acceptPlain,
      Progress.awaited_eq_some_iff.2 ⟨rfl, hwaiting⟩]
  | together =>
    simp only [List.cons_append, List.nil_append, Grammar.run_cons, bind_eq_ok_iff,
      accept_longWord_append_iff h hafter]
    exact ⟨_, ⟨t, hresolve, hgive⟩, hrun⟩

end

/-! ## Two readings -/

/-- How a parameter can come up when one reading has a value of the option and the other one has
`set` as well. -/
inductive Admits {σ : Type} (p : Parameter σ) (set : σ → σ) (given : List String)
    (q : Parameter σ) : Prop
  /-- It is another one, which leaves alone what the option sets. -/
  | other : q.shown ≠ p.shown → (∀ bytes f, q.take bytes = .ok f → ∀ a, f (set a) = set (f a)) →
      Admits p set given q
  /-- It is the option itself, given once more. -/
  | again : q.shown = p.shown → q.repeats = false → p.shown ∈ given → Admits p set given q

/-- A reading is ahead of another one by what the option does. The other one has been given the
option too, or it is known that it is absent from the words to come. -/
structure Ahead {σ : Type} (p : Parameter σ) (set : σ → σ) (absent : Prop) (s t : Progress σ) :
    Prop where
  value_eq : t.value = set s.value
  mem_given_iff : ∀ shown, shown ∈ t.given ↔ shown = p.shown ∨ shown ∈ s.given
  given_or : p.shown ∈ s.given ∨ absent
  operands_eq : s.operands = []
  operands_eq' : t.operands = []
  pending_eq : t.pending = s.pending
  admits : ∀ q, s.pending = some q → Admits p set s.given q.parameter
  afterDashes_eq : t.afterDashes = s.afterDashes

section

variable {σ : Type} {g : Grammar σ} {name : String} {p q : Parameter σ} {set f : σ → σ}
  {absent : Prop} {s s' t : Progress σ} {flag : Flag σ} {shown : String} {bytes : Bytes}

theorem Admits.cons {given : List String} (h : Admits p set given q) (shown : String) :
    Admits p set (shown :: given) q := by
  cases h with
  | other hne hcomm => exact .other hne hcomm
  | again heq hrepeats hmem => exact .again heq hrepeats (List.mem_cons_of_mem _ hmem)

namespace Ahead

theorem given (h : Ahead p set absent s t) (shown : String) (hf : ∀ a, f (set a) = set (f a)) :
    Ahead p set absent { s with given := shown :: s.given, value := f s.value }
      { t with given := shown :: t.given, value := f t.value } :=
  { h with
    value_eq := by rw [h.value_eq, hf]
    mem_given_iff := fun shown' => by
      simp only [List.mem_cons, h.mem_given_iff]
      exact or_left_comm
    given_or := h.given_or.imp_left (List.mem_cons_of_mem _)
    admits := fun q hq => (h.admits q hq).cons shown }

theorem awaiting (h : Ahead p set absent s t) (hq : Admits p set s.given q)
    (value : Option Bytes) :
    Ahead p set absent { s with pending := some ⟨q, value⟩ }
      { t with pending := some ⟨q, value⟩ } :=
  { h with
    pending_eq := rfl
    admits := by rintro _ ⟨⟩; exact hq }

theorem notMem_given (h : Ahead p set absent s t) (hne : shown ≠ p.shown)
    (hfree : shown ∉ s.given) : shown ∉ t.given := fun hmem =>
  ((h.mem_given_iff shown).1 hmem).elim hne hfree

theorem give (h : Ahead p set absent s t) (hq : Admits p set s.given q)
    (hs : s.give q bytes = .ok s') : ∃ t', t.give q bytes = .ok t' ∧ Ahead p set absent s' t' := by
  obtain ⟨hfree, f, htake, rfl⟩ := Progress.give_eq_ok_iff.1 hs
  cases hq with
  | other hne hcomm =>
    exact ⟨_, Progress.give_eq_ok_iff.2 ⟨hfree.imp_right (h.notMem_given hne), f, htake, rfl⟩,
      h.given q.shown (hcomm bytes f htake)⟩
  | again heq hrepeats hmem =>
    rw [hrepeats, heq] at hfree
    exact absurd hmem (hfree.resolve_left (by simp))

theorem resolve (h : Ahead p set absent s t) (hs : s.resolve = .ok s') :
    ∃ t', t.resolve = .ok t' ∧ Ahead p set absent s' t' := by
  simp only [Progress.resolve_eq_ok_iff, h.pending_eq]
  obtain ⟨hpending, rfl⟩ | ⟨q, bytes, hpending, hgive⟩ := Progress.resolve_eq_ok_iff.1 hs
  · exact ⟨t, .inl ⟨hpending, rfl⟩, h⟩
  · have hsettled : Ahead p set absent { s with pending := none } { t with pending := none } :=
      { h with
        pending_eq := rfl
        admits := by rintro _ ⟨⟩ }
    obtain ⟨t', hgive', h'⟩ := hsettled.give (h.admits _ hpending) hgive
    exact ⟨t', .inr ⟨q, bytes, hpending, hgive'⟩, h'⟩

theorem finish {a : σ} (h : Ahead p set absent s t) (hs : s.finish = .ok a) :
    t.finish = .ok (set a) := by
  obtain ⟨u, hresolve, hu⟩ := bind_eq_ok_iff.1 hs
  obtain ⟨v, hresolve', h'⟩ := h.resolve hresolve
  refine bind_eq_ok_iff.2 ⟨v, hresolve', ?_⟩
  rw [h'.operands_eq] at hu
  rw [h'.operands_eq', h'.value_eq]
  cases hu
  rfl

/-! ### Options -/

variable (hg : g.Overrides name p set)

include hg

theorem admits_of_mem (h : Ahead p set absent s t) (hflag : flag ∈ g.flags)
    (hq : flag.action = .value q) (habsent : absent → flag.long ≠ name ∨ flag.short ≠ none) :
    Admits p set s.given q := by
  obtain ⟨hlong, hshort, hshown, hrepeats⟩ | ⟨hne, hcomm⟩ := hg.of_value flag hflag q hq
  · refine .again hshown hrepeats (h.given_or.resolve_right fun h => ?_)
    exact (habsent h).elim (· hlong) (· hshort)
  · exact .other hne hcomm

theorem acceptAlone (h : Ahead p set absent s t) (hflag : flag ∈ g.flags)
    (habsent : absent → flag.long ≠ name ∨ flag.short ≠ none)
    (hs : Grammar.acceptAlone s flag = .ok s') :
    ∃ t', Grammar.acceptAlone t flag = .ok t' ∧ Ahead p set absent s' t' := by
  simp only [Grammar.acceptAlone_eq_ok_iff]
  obtain ⟨u, hresolve, hu⟩ := Grammar.acceptAlone_eq_ok_iff.1 hs
  obtain ⟨v, hresolve', h'⟩ := h.resolve hresolve
  obtain ⟨f, haction, hfree, rfl⟩ | ⟨q, haction, rfl⟩ := hu
  · obtain ⟨hne, hcomm⟩ := hg.of_switch flag hflag f haction
    exact ⟨_, ⟨v, hresolve', .inl ⟨f, haction, h'.notMem_given hne hfree, rfl⟩⟩, h'.given _ hcomm⟩
  · exact ⟨_, ⟨v, hresolve', .inr ⟨q, haction, rfl⟩⟩,
      h'.awaiting (h'.admits_of_mem hg hflag haction habsent) none⟩

theorem acceptValue (h : Ahead p set absent s t) (hflag : flag ∈ g.flags)
    (habsent : absent → flag.long ≠ name ∨ flag.short ≠ none)
    (hs : Grammar.acceptValue s flag bytes = .ok s') :
    ∃ t', Grammar.acceptValue t flag bytes = .ok t' ∧ Ahead p set absent s' t' := by
  simp only [Grammar.acceptValue_eq_ok_iff]
  obtain ⟨q, haction, u, hresolve, hu⟩ := Grammar.acceptValue_eq_ok_iff.1 hs
  obtain ⟨v, hresolve', h'⟩ := h.resolve hresolve
  obtain ⟨t', hgive, ht'⟩ := h'.give (h'.admits_of_mem hg hflag haction habsent) hu
  exact ⟨t', ⟨q, haction, v, hresolve', hgive⟩, ht'⟩

theorem acceptLong {long : Bytes} {value : Option Bytes} (h : Ahead p set absent s t)
    (habsent : absent → long ≠ Utf8.encode name) (hs : g.acceptLong s long value = .ok s') :
    ∃ t', g.acceptLong t long value = .ok t' ∧ Ahead p set absent s' t' := by
  simp only [Grammar.acceptLong_eq_ok_iff]
  obtain ⟨flag, hfind, hu⟩ := Grammar.acceptLong_eq_ok_iff.1 hs
  have hflag : flag ∈ g.flags := List.mem_of_find?_eq_some hfind
  have hlong : Utf8.encode flag.long = long := by simpa using List.find?_some hfind
  have habsent' : absent → flag.long ≠ name ∨ flag.short ≠ none := fun ha =>
    .inl fun hname => habsent ha (by rw [← hlong, hname])
  cases value with
  | none =>
    obtain ⟨t', ht, h'⟩ := h.acceptAlone hg hflag habsent' hu
    exact ⟨t', ⟨flag, hfind, ht⟩, h'⟩
  | some bytes =>
    obtain ⟨t', ht, h'⟩ := h.acceptValue hg hflag habsent' hu
    exact ⟨t', ⟨flag, hfind, ht⟩, h'⟩

theorem acceptShort {group : List Utf8.Piece} (h : Ahead p set absent s t)
    (hs : g.acceptShort s group = .ok s') :
    ∃ t', g.acceptShort t group = .ok t' ∧ Ahead p set absent s' t' := by
  -- Each switch of the group moves both readings, so the induction is over any two of them.
  induction group generalizing s t with
  | nil =>
    cases hs
    exact ⟨t, rfl, h⟩
  | cons piece rest ih =>
    cases piece with
    | broken bytes => cases hs
    | char c =>
      obtain ⟨e, he⟩ | ⟨flag, hflag, hshort, hcase⟩ := Grammar.acceptShort_char g c rest
      · rw [he] at hs
        cases hs
      · have habsent : absent → flag.long ≠ name ∨ flag.short ≠ none :=
          fun _ => .inr (by simp [hshort])
        rcases hcase with hvalue | halone
        · rw [hvalue] at hs ⊢
          exact h.acceptValue hg hflag habsent hs
        · rw [halone, bind_eq_ok_iff] at hs
          obtain ⟨u, hu, hrest⟩ := hs
          obtain ⟨v, hv, huv⟩ := h.acceptAlone hg hflag habsent hu
          obtain ⟨t', ht, h'⟩ := ih huv hrest
          exact ⟨t', by rw [halone, bind_eq_ok_iff]; exact ⟨v, hv, ht⟩, h'⟩

omit hg in
theorem acceptPlain (h : Ahead p set absent s t) (hs : g.acceptPlain s bytes = .ok s') :
    ∃ t', g.acceptPlain t bytes = .ok t' ∧ Ahead p set absent s' t' := by
  obtain ⟨q, hawaited, rfl⟩ := (Grammar.acceptPlain_eq_ok_iff h.operands_eq).1 hs
  obtain ⟨hpending, hafter⟩ := Progress.awaited_eq_some_iff.1 hawaited
  have hawaited' : t.awaited = some q := Progress.awaited_eq_some_iff.2
    ⟨h.pending_eq.trans hpending, h.afterDashes_eq.trans hafter⟩
  exact ⟨_, (Grammar.acceptPlain_eq_ok_iff h.operands_eq').2 ⟨q, hawaited', rfl⟩,
    h.awaiting (h.admits _ hpending) (some bytes)⟩

/-! ### Words -/

theorem accept {word : Bytes} (h : Ahead p set absent s t) (habsent : absent → ¬Mentions name word)
    (hs : g.accept s word = .ok s') :
    ∃ t', g.accept t word = .ok t' ∧ Ahead p set absent s' t' := by
  cases hafter : s.afterDashes with
  | true =>
    rw [Grammar.accept_of_afterDashes hafter] at hs
    rw [Grammar.accept_of_afterDashes (h.afterDashes_eq.trans hafter)]
    exact h.acceptPlain hs
  | false =>
    have hafter' : t.afterDashes = false := h.afterDashes_eq.trans hafter
    cases hkind : Word.ofBytes word with
    | dashes =>
      rw [Grammar.accept_of_dashes hafter hkind] at hs
      cases hs
      exact ⟨_, Grammar.accept_of_dashes hafter' hkind, { h with afterDashes_eq := rfl }⟩
    | long long value =>
      rw [Grammar.accept_of_long hafter hkind] at hs
      rw [Grammar.accept_of_long hafter' hkind]
      refine h.acceptLong hg (fun ha hlong => habsent ha ?_) hs
      rw [hlong] at hkind
      exact mentions_of_ofBytes hg.encode_ne_nil hkind
    | short group =>
      rw [Grammar.accept_of_short hafter hkind] at hs
      rw [Grammar.accept_of_short hafter' hkind]
      exact h.acceptShort hg hs
    | plain =>
      rw [Grammar.accept_of_plain hafter hkind] at hs
      rw [Grammar.accept_of_plain hafter' hkind]
      exact h.acceptPlain hs

theorem run {words : List Bytes} {a : σ} (h : Ahead p set absent s t)
    (habsent : absent → ∀ word ∈ words, ¬Mentions name word) (hs : g.run s words = .ok a) :
    g.run t words = .ok (set a) := by
  -- One stays ahead of the other word by word, until `finish` leaves only what the option sets.
  induction words generalizing s t with
  | nil => exact h.finish hs
  | cons word words ih =>
    rw [Grammar.run_cons, bind_eq_ok_iff] at hs ⊢
    obtain ⟨s', haccept, hs⟩ := hs
    obtain ⟨t', haccept', h'⟩ := h.accept hg (fun ha => habsent ha _ List.mem_cons_self) haccept
    exact ⟨t', haccept', ih h' (fun ha w hw => habsent ha w (List.mem_cons_of_mem _ hw)) hs⟩

end Ahead

end

/-! ## The whole command line -/

namespace Grammar.Overrides

variable {σ : Type} {g : Grammar σ} {name : String} {p : Parameter σ} {set : σ → σ}
  (h : g.Overrides name p set)

include h

/-- With another value of the option, what is read differs only in what the option sets. -/
theorem read {value : Bytes} {words words' : List Bytes} {a b : σ}
    (hplain : Word.ofBytes value = .plain) (htake : p.take value = .ok set)
    (hwords : Regiven name value words words') (hread : g.read a words = .ok b) :
    g.read a words' = .ok (set b) := by
  rw [read_eq_run h.commands_eq] at hread ⊢
  have hstart : (g.start a).operands = [] := h.operands_eq
  cases hwords with
  | replaced before after hold hnew =>
    rw [run_append, bind_eq_ok_iff] at hread ⊢
    obtain ⟨s, hbefore, hread⟩ := hread
    have hoperands : s.operands = [] := operands_of_foldlM hbefore hstart
    obtain ⟨hafter, t, hresolve, hfree, own, hown, hread⟩ :=
      of_run_givesValue h hold hoperands hread
    have htoperands : t.operands = [] :=
      (Progress.frame_of_resolve hresolve).2.1.trans hoperands
    have hahead : Ahead p set False (t.gave p own) (t.gave p set) := {
      value_eq := (h.set_take _ own hown t.value).symm
      mem_given_iff := fun shown => by simp [Progress.gave]
      given_or := .inl List.mem_cons_self
      operands_eq := htoperands
      operands_eq' := htoperands
      pending_eq := rfl
      admits := by rintro _ ⟨⟩
      afterDashes_eq := rfl }
    exact ⟨s, hbefore, run_of_givesValue h hnew hplain hafter hresolve hfree htake
      (hahead.run h False.elim hread)⟩
  | added _ hnew habsent =>
    have hahead : Ahead p set True (g.start a) ((g.start a).gave p set) := {
      value_eq := rfl
      mem_given_iff := fun shown => by simp [Progress.gave]
      given_or := .inr trivial
      operands_eq := hstart
      operands_eq' := hstart
      pending_eq := rfl
      admits := by rintro _ ⟨⟩
      afterDashes_eq := rfl }
    exact run_of_givesValue h hnew hplain rfl rfl List.not_mem_nil htake
      (hahead.run h (fun _ => habsent) hread)

/-- The option can be given a new value in every command line that is read. -/
theorem exists_regiven (value : Bytes) {words : List Bytes} {a b : σ}
    (hread : g.read a words = .ok b) : ∃ words', Regiven name value words words' := by
  by_cases hmentions : ∃ word ∈ words, Mentions name word
  · obtain ⟨word, hword, hmentions⟩ := hmentions
    obtain ⟨before, after, rfl⟩ := List.append_of_mem hword
    rcases hmentions with rfl | ⟨old, rfl⟩
    · cases after with
      | cons old after => exact ⟨_, .replaced before after .apart .apart⟩
      | nil =>
        -- The last word cannot be one that needs a value after it.
        rw [read_eq_run h.commands_eq, run_append, bind_eq_ok_iff] at hread
        obtain ⟨s, hbefore, hread⟩ := hread
        rw [run_cons, bind_eq_ok_iff] at hread
        obtain ⟨s', haccept, hread⟩ := hread
        have hoperands : s.operands = [] := operands_of_foldlM hbefore h.operands_eq
        have hafter : s.afterDashes = false := afterDashes_of_accept hoperands haccept
        obtain ⟨t, -, rfl⟩ := (accept_longWord_iff h hafter).1 haccept
        cases hread
    · exact ⟨_, .replaced before after .together .together⟩
  · exact ⟨_, .added words .apart fun word hword h => hmentions ⟨word, hword, h⟩⟩

end Grammar.Overrides

end FuseMount.CommandLine
