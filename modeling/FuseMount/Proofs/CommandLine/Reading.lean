import FuseMount.CommandLine.Grammar
import FuseMount.Proofs.Run.Except
import Mathlib.Data.List.Basic

/-!
# How arguments are taken in

What each step of reading arguments comes to when it succeeds. A parameter that came last is settled
before anything else is taken in, so it does not matter whether its value is looked at at once or
with the next argument.

Results:

* `Progress.note_eq_ok_iff`, `Progress.give_eq_ok_iff`, `Progress.resolve_eq_ok_iff`: when an
  argument is noted, a value taken in, and a pending value settled.
* `Grammar.read_eq_run`: without commands, reading is taking in one word after another.
* `Grammar.run_eq_ok_iff`: settling a pending value first changes nothing.
-/

namespace FuseMount.CommandLine

/-! ## Pending values -/

namespace Progress

variable {σ : Type} {s s' : Progress σ} {p : Parameter σ} {bytes : Bytes}

theorem note_eq_ok_iff {shown : String} :
    s.note shown = .ok s' ↔ shown ∉ s.given ∧ s' = { s with given := shown :: s.given } := by
  unfold note
  split
  · rename_i h
    exact iff_of_false (by rintro ⟨⟩) fun h' => h'.1 (List.contains_iff_mem.1 h)
  · rename_i h
    rw [Except.ok.injEq, eq_comm]
    exact (and_iff_right fun h' => h (List.contains_iff_mem.2 h')).symm

theorem give_eq_ok_iff :
    s.give p bytes = .ok s' ↔ (p.repeats ∨ p.shown ∉ s.given) ∧ ∃ set, p.take bytes = .ok set ∧
      s' = { s with given := p.shown :: s.given, value := set s.value } := by
  by_cases hrepeats : p.repeats <;> by_cases hgiven : p.shown ∈ s.given <;>
    cases htake : p.take bytes <;>
    simp [give, note, hrepeats, hgiven, htake, bind, Except.bind, pure, Except.pure, throw,
      throwThe, MonadExceptOf.throw, eq_comm]

theorem resolve_eq_ok_iff :
    s.resolve = .ok s' ↔ s.pending = none ∧ s' = s ∨ ∃ p bytes, s.pending = some ⟨p, some bytes⟩ ∧
      ({ s with pending := none } : Progress σ).give p bytes = .ok s' := by
  unfold resolve
  split <;> simp_all [eq_comm]

/-- Settling touches only what is given and the value. -/
theorem frame_of_resolve (h : s.resolve = .ok s') :
    s'.pending = none ∧ s'.operands = s.operands ∧ s'.afterDashes = s.afterDashes := by
  obtain ⟨hpending, rfl⟩ | ⟨p, bytes, -, hgive⟩ := resolve_eq_ok_iff.1 h
  · exact ⟨hpending, rfl, rfl⟩
  · obtain ⟨-, set, -, rfl⟩ := give_eq_ok_iff.1 hgive
    exact ⟨rfl, rfl, rfl⟩

theorem resolve_of_pending (h : s.pending = none) : s.resolve = .ok s :=
  resolve_eq_ok_iff.2 (.inl ⟨h, rfl⟩)

/-- What is settled stays so. -/
theorem resolve_of_resolve (h : s.resolve = .ok s') : s'.resolve = .ok s' :=
  resolve_of_pending (frame_of_resolve h).1

theorem awaited_eq_some_iff :
    s.awaited = some p ↔ s.pending = some ⟨p, none⟩ ∧ s.afterDashes = false := by
  unfold awaited
  split <;> simp_all [and_comm]

theorem awaited_of_pending (h : s.pending = none) : s.awaited = none := by
  rw [awaited, h]

/-- Passing the two dashes and settling go together in either order. -/
theorem resolve_afterDashes :
    ({ s with afterDashes := true } : Progress σ).resolve = .ok s' ↔
      ∃ t, s.resolve = .ok t ∧ s' = { t with afterDashes := true } := by
  simp only [resolve_eq_ok_iff, give_eq_ok_iff]
  constructor
  · rintro (⟨hpending, rfl⟩ | ⟨p, bytes, hpending, hfree, set, htake, rfl⟩)
    · exact ⟨s, .inl ⟨hpending, rfl⟩, rfl⟩
    · exact ⟨_, .inr ⟨p, bytes, hpending, hfree, set, htake, rfl⟩, rfl⟩
  · rintro ⟨t, ⟨hpending, rfl⟩ | ⟨p, bytes, hpending, hfree, set, htake, rfl⟩, rfl⟩
    · exact .inl ⟨hpending, rfl⟩
    · exact .inr ⟨p, bytes, hpending, hfree, set, htake, rfl⟩

/-- A step begins with settling the pending value. -/
def Settles {α : Type} (f : Progress σ → Except Fault α) : Prop :=
  ∀ s a, f s = .ok a ↔ ∃ t, s.resolve = .ok t ∧ f t = .ok a

theorem settles_bind {α : Type} {f : Progress σ → Except Fault α} :
    Settles fun s => s.resolve >>= f := by
  intro s a
  simp only [bind_eq_ok_iff]
  constructor
  · rintro ⟨t, hs, ht⟩
    exact ⟨t, hs, t, resolve_of_resolve hs, ht⟩
  · rintro ⟨t, hs, t', ht, ht'⟩
    rw [resolve_of_resolve hs] at ht
    cases ht
    exact ⟨t, hs, ht'⟩

theorem Settles.bind {α β : Type} {f : Progress σ → Except Fault α} {k : α → Except Fault β}
    (h : Settles f) : Settles fun s => f s >>= k := by
  intro s b
  simp only [bind_eq_ok_iff]
  constructor
  · rintro ⟨a, hs, hk⟩
    obtain ⟨t, hs, ht⟩ := (h s a).1 hs
    exact ⟨t, hs, a, ht, hk⟩
  · rintro ⟨t, hs, a, ht, hk⟩
    exact ⟨a, (h s a).2 ⟨t, hs, ht⟩, hk⟩

theorem settles_error {α : Type} (e : Fault) :
    Settles fun _ : Progress σ => (.error e : Except Fault α) :=
  fun _ _ => iff_of_false (by rintro ⟨⟩) (by rintro ⟨_, -, ⟨⟩⟩)

theorem settles_finish : Settles (finish : Progress σ → Except Fault σ) :=
  settles_bind

end Progress

/-! ## One word -/

theorem Word.group_ne_nil {word : Bytes} {group : List Utf8.Piece}
    (h : Word.ofBytes word = .short group) : group ≠ [] := by
  have hpieces : ∀ b bs, Utf8.pieces (b :: bs) ≠ [] := by
    intro b bs
    rw [Utf8.pieces]
    split <;> simp
  unfold Word.ofBytes at h
  split at h
  · cases h
  · split_ifs at h
    split at h
    · cases h
    · split_ifs at h
      cases h
      exact hpieces _ _

namespace Grammar

open Progress

variable {σ : Type} {g : Grammar σ} {s s' : Progress σ} {flag : Flag σ} {bytes : Bytes}

theorem settles_acceptAlone (flag : Flag σ) : Settles fun s => acceptAlone s flag :=
  settles_bind

theorem settles_acceptValue (flag : Flag σ) (bytes : Bytes) :
    Settles fun s => acceptValue s flag bytes := by
  unfold acceptValue
  split
  · exact settles_bind
  · exact settles_error _

theorem settles_acceptLong (g : Grammar σ) (name : Bytes) (value : Option Bytes) :
    Settles fun s => g.acceptLong s name value := by
  unfold acceptLong
  split
  · exact settles_error _
  · split
    · exact settles_acceptValue _ _
    · exact settles_acceptAlone _

/-- An option in a group is unknown, or has the rest of the group for its value, or leaves it to be
taken in. -/
theorem acceptShort_char (g : Grammar σ) (c : Char) (rest : List Utf8.Piece) :
    (∃ e, ∀ s, g.acceptShort s (.char c :: rest) = .error e) ∨
      ∃ flag ∈ g.flags, flag.short = some c ∧
        ((∀ s, g.acceptShort s (.char c :: rest) = acceptValue s flag (shortValue rest)) ∨
          ∀ s, g.acceptShort s (.char c :: rest) =
            acceptAlone s flag >>= fun s => g.acceptShort s rest) := by
  cases hfind : g.flags.find? (·.short = some c) with
  | none => exact .inl ⟨_, fun s => by rw [acceptShort, hfind]⟩
  | some flag =>
    refine .inr ⟨flag, List.mem_of_find?_eq_some hfind, by simpa using List.find?_some hfind, ?_⟩
    simp only [acceptShort, hfind]
    split
    · exact .inl fun _ => rfl
    · exact .inr fun _ => rfl

theorem settles_acceptShort (g : Grammar σ) (piece : Utf8.Piece) (rest : List Utf8.Piece) :
    Settles fun s => g.acceptShort s (piece :: rest) := by
  cases piece with
  | broken bytes => exact settles_error _
  | char c =>
    obtain ⟨e, he⟩ | ⟨flag, -, -, hvalue | halone⟩ := acceptShort_char g c rest
    · simp only [he]
      exact settles_error e
    · simp only [hvalue]
      exact settles_acceptValue flag _
    · simp only [halone]
      exact (settles_acceptAlone flag).bind

theorem acceptAlone_eq_ok_iff :
    acceptAlone s flag = .ok s' ↔ ∃ t, s.resolve = .ok t ∧
      ((∃ set, flag.action = .switch set ∧ flag.shown ∉ t.given ∧
          s' = { t with given := flag.shown :: t.given, value := set t.value }) ∨
        ∃ p, flag.action = .value p ∧ s' = { t with pending := some ⟨p, none⟩ }) := by
  rw [acceptAlone, bind_eq_ok_iff]
  refine exists_congr fun t => and_congr_right fun _ => ?_
  cases haction : flag.action with
  | switch set =>
    simp only [bind_eq_ok_iff, note_eq_ok_iff]
    constructor
    · rintro ⟨_, ⟨hfree, rfl⟩, h⟩
      cases h
      exact .inl ⟨set, rfl, hfree, rfl⟩
    · rintro (⟨_, ⟨⟩, hfree, rfl⟩ | ⟨_, ⟨⟩, -⟩)
      exact ⟨_, ⟨hfree, rfl⟩, rfl⟩
  | value p =>
    constructor
    · rintro ⟨⟩
      exact .inr ⟨p, rfl, rfl⟩
    · rintro (⟨_, ⟨⟩, -⟩ | ⟨_, ⟨⟩, rfl⟩)
      rfl
  | request fault =>
    exact iff_of_false (by rintro ⟨⟩) (by rintro (⟨_, ⟨⟩, -⟩ | ⟨_, ⟨⟩, -⟩))

theorem acceptValue_eq_ok_iff :
    acceptValue s flag bytes = .ok s' ↔
      ∃ p, flag.action = .value p ∧ ∃ t, s.resolve = .ok t ∧ t.give p bytes = .ok s' := by
  unfold acceptValue
  split
  · rename_i p haction
    rw [bind_eq_ok_iff]
    simp only [haction, Action.value.injEq, exists_eq_left']
  · rename_i haction
    exact iff_of_false (by rintro ⟨⟩) fun ⟨p, h, _⟩ => haction p h

theorem acceptLong_eq_ok_iff {name : Bytes} {value : Option Bytes} :
    g.acceptLong s name value = .ok s' ↔
      ∃ flag, g.flags.find? (fun flag => Utf8.encode flag.long = name) = some flag ∧
        value.elim (acceptAlone s flag) (acceptValue s flag) = .ok s' := by
  unfold acceptLong
  split
  · rename_i hfind
    exact iff_of_false (by rintro ⟨⟩) fun ⟨_, h, _⟩ => by rw [hfind] at h; cases h
  · rename_i flag hfind
    simp only [hfind, Option.some.injEq, exists_eq_left']
    cases value <;> rfl

theorem acceptPlain_eq_ok_iff (hoperands : s.operands = []) :
    g.acceptPlain s bytes = .ok s' ↔
      ∃ p, s.awaited = some p ∧ s' = { s with pending := some ⟨p, some bytes⟩ } := by
  unfold acceptPlain
  cases s.awaited <;> simp [hoperands, eq_comm]

/-! ### By the kind of the word -/

section

variable {word : Bytes}

theorem accept_of_afterDashes (hafter : s.afterDashes = true) :
    g.accept s word = g.acceptPlain s word := by
  simp only [accept, hafter, ↓reduceIte]

theorem accept_of_dashes (hafter : s.afterDashes = false) (hkind : Word.ofBytes word = .dashes) :
    g.accept s word = .ok { s with afterDashes := true } := by
  simp [accept, hafter, hkind]

theorem accept_of_long {name : Bytes} {value : Option Bytes} (hafter : s.afterDashes = false)
    (hkind : Word.ofBytes word = .long name value) :
    g.accept s word = g.acceptLong s name value := by
  simp [accept, hafter, hkind]

theorem accept_of_short {group : List Utf8.Piece} (hafter : s.afterDashes = false)
    (hkind : Word.ofBytes word = .short group) : g.accept s word = g.acceptShort s group := by
  simp [accept, hafter, hkind]

theorem accept_of_plain (hafter : s.afterDashes = false) (hkind : Word.ofBytes word = .plain) :
    g.accept s word = g.acceptPlain s word := by
  simp [accept, hafter, hkind]

end

/-! ### Settling first -/

theorem exists_settles_acceptPlain (g : Grammar σ) (s : Progress σ) (bytes : Bytes) :
    ∃ f : Progress σ → Except Fault (Progress σ), Settles f ∧ ∀ t, t.awaited = none →
      t.operands = s.operands → t.afterDashes = s.afterDashes → g.acceptPlain t bytes = f t := by
  cases hoperands : s.operands with
  | nil =>
    refine ⟨fun _ => .error (g.unexpected s bytes), settles_error _, fun t hawaited ht hafter => ?_⟩
    rw [acceptPlain, hawaited, ht]
    simp only [unexpected, hafter]
  | cons p operands =>
    refine ⟨fun t => t.resolve >>= fun t =>
      pure { t with operands, pending := some ⟨p, some bytes⟩ }, settles_bind,
      fun t hawaited ht _ => ?_⟩
    rw [acceptPlain, hawaited, ht]

/-- Apart from the two dashes, a word that is not awaited is taken in by a step that begins with
settling. -/
theorem exists_settles_accept (g : Grammar σ) {word : Bytes}
    (hword : s.afterDashes = false → Word.ofBytes word ≠ .dashes) :
    ∃ f : Progress σ → Except Fault (Progress σ), Settles f ∧ ∀ t, t.awaited = none →
      t.operands = s.operands → t.afterDashes = s.afterDashes → g.accept t word = f t := by
  obtain ⟨plain, hsettles, hplain⟩ := exists_settles_acceptPlain g s word
  cases hafter : s.afterDashes with
  | true =>
    refine ⟨plain, hsettles, fun t hawaited hoperands ht => ?_⟩
    rw [accept_of_afterDashes ht, hplain t hawaited hoperands (ht.trans hafter.symm)]
  | false =>
    cases hkind : Word.ofBytes word with
    | dashes => exact absurd hkind (hword hafter)
    | long name value =>
      exact ⟨_, settles_acceptLong g name value, fun t _ _ ht => accept_of_long ht hkind⟩
    | short group =>
      obtain ⟨piece, rest, rfl⟩ := List.exists_cons_of_ne_nil (Word.group_ne_nil hkind)
      exact ⟨_, settles_acceptShort g piece rest, fun t _ _ ht => accept_of_short ht hkind⟩
    | plain =>
      refine ⟨plain, hsettles, fun t hawaited hoperands ht => ?_⟩
      rw [accept_of_plain ht hkind, hplain t hawaited hoperands (ht.trans hafter.symm)]

theorem accept_eq_ok_iff {word : Bytes} (hawaited : s.awaited = none)
    (hword : s.afterDashes = false → Word.ofBytes word ≠ .dashes) :
    g.accept s word = .ok s' ↔ ∃ t, s.resolve = .ok t ∧ g.accept t word = .ok s' := by
  obtain ⟨f, hsettles, haccept⟩ := exists_settles_accept g hword
  rw [haccept s hawaited rfl rfl, hsettles s s']
  refine exists_congr fun t => and_congr_right fun h => ?_
  obtain ⟨hpending, hoperands, hafter⟩ := frame_of_resolve h
  rw [haccept t (awaited_of_pending hpending) hoperands hafter]

/-! ### Operands -/

theorem operands_of_acceptAlone (h : acceptAlone s flag = .ok s') : s'.operands = s.operands := by
  obtain ⟨t, ht, ⟨set, -, -, rfl⟩ | ⟨p, -, rfl⟩⟩ := acceptAlone_eq_ok_iff.1 h <;>
    exact (frame_of_resolve ht).2.1

theorem operands_of_acceptValue (h : acceptValue s flag bytes = .ok s') :
    s'.operands = s.operands := by
  obtain ⟨p, -, t, ht, hgive⟩ := acceptValue_eq_ok_iff.1 h
  obtain ⟨-, set, -, rfl⟩ := give_eq_ok_iff.1 hgive
  exact (frame_of_resolve ht).2.1

theorem operands_of_acceptShort {group : List Utf8.Piece} (h : g.acceptShort s group = .ok s') :
    s'.operands = s.operands := by
  induction group generalizing s with
  | nil =>
    cases h
    rfl
  | cons piece rest ih =>
    cases piece with
    | broken bytes => cases h
    | char c =>
      obtain ⟨e, he⟩ | ⟨flag, -, -, hvalue | halone⟩ := acceptShort_char g c rest
      · rw [he] at h
        cases h
      · rw [hvalue] at h
        exact operands_of_acceptValue h
      · rw [halone, bind_eq_ok_iff] at h
        obtain ⟨t, ht, h⟩ := h
        exact (ih h).trans (operands_of_acceptAlone ht)

/-- Without operands to come, none come up. -/
theorem operands_of_accept {word : Bytes} (h : g.accept s word = .ok s') (hs : s.operands = []) :
    s'.operands = [] := by
  have hplain : g.acceptPlain s word = .ok s' → s'.operands = [] := by
    intro h
    obtain ⟨p, -, rfl⟩ := (acceptPlain_eq_ok_iff hs).1 h
    exact hs
  cases hafter : s.afterDashes with
  | true => exact hplain (accept_of_afterDashes hafter ▸ h)
  | false =>
    cases hkind : Word.ofBytes word with
    | dashes =>
      rw [accept_of_dashes hafter hkind] at h
      cases h
      exact hs
    | long name value =>
      rw [accept_of_long hafter hkind] at h
      obtain ⟨flag, -, h⟩ := acceptLong_eq_ok_iff.1 h
      cases value with
      | none => exact (operands_of_acceptAlone h).trans hs
      | some bytes => exact (operands_of_acceptValue h).trans hs
    | short group =>
      rw [accept_of_short hafter hkind] at h
      exact (operands_of_acceptShort h).trans hs
    | plain => exact hplain (accept_of_plain hafter hkind ▸ h)

theorem operands_of_foldlM {words : List Bytes} (h : words.foldlM g.accept s = .ok s')
    (hs : s.operands = []) : s'.operands = [] := by
  induction words generalizing s with
  | nil =>
    cases h
    exact hs
  | cons word words ih =>
    rw [List.foldlM_cons, bind_eq_ok_iff] at h
    obtain ⟨t, ht, h⟩ := h
    exact ih h (operands_of_accept ht hs)

/-! ## Words one after another -/

/-- Takes in words, and gives the value after the last one. -/
def run (g : Grammar σ) (s : Progress σ) (words : List Bytes) : Except Fault σ :=
  words.foldlM g.accept s >>= finish

theorem run_append (before after : List Bytes) :
    g.run s (before ++ after) = before.foldlM g.accept s >>= fun t => g.run t after := by
  simp only [run, List.foldlM_append, bind_assoc]

theorem run_cons (word : Bytes) (words : List Bytes) :
    g.run s (word :: words) = g.accept s word >>= fun t => g.run t words := by
  simp only [run, List.foldlM_cons, bind_assoc]

theorem scan_eq (h : g.commands = []) (s : Progress σ) (words : List Bytes) :
    g.scan s words = (·, none) <$> words.foldlM g.accept s := by
  have hcommand : ∀ bytes, g.command? bytes = none := fun bytes => by rw [command?, h]; rfl
  induction words generalizing s with
  | nil => rfl
  | cons word words ih =>
    simp only [scan, hcommand, ite_self, ih, List.foldlM_cons, map_bind]

theorem read_eq_run (h : g.commands = []) (value : σ) (words : List Bytes) :
    g.read value words = g.run (g.start value) words := by
  rw [read, scan_eq h, run, bind_map_left]

/-- Settling the pending value at once changes nothing. -/
theorem run_eq_ok_iff {a : σ} {words : List Bytes} (hawaited : s.awaited = none) :
    g.run s words = .ok a ↔ ∃ t, s.resolve = .ok t ∧ g.run t words = .ok a := by
  induction words generalizing s with
  | nil => exact settles_finish s a
  | cons word words ih =>
    simp only [run_cons, bind_eq_ok_iff]
    by_cases hword : s.afterDashes = false ∧ Word.ofBytes word = .dashes
    · have haccept : ∀ t : Progress σ, t.afterDashes = s.afterDashes →
          g.accept t word = .ok { t with afterDashes := true } :=
        fun t ht => accept_of_dashes (ht.trans hword.1) hword.2
      have hawaited' : ({ s with afterDashes := true } : Progress σ).awaited = none := by
        unfold awaited
        split <;> rfl
      simp only [haccept s rfl, Except.ok.injEq, exists_eq_left', ih hawaited',
        resolve_afterDashes]
      constructor
      · rintro ⟨_, ⟨t, ht, rfl⟩, hrun⟩
        exact ⟨t, ht, _, haccept t (frame_of_resolve ht).2.2, hrun⟩
      · rintro ⟨t, ht, t', ht', hrun⟩
        rw [haccept t (frame_of_resolve ht).2.2] at ht'
        cases ht'
        exact ⟨_, ⟨t, ht, rfl⟩, hrun⟩
    · have hword' : s.afterDashes = false → Word.ofBytes word ≠ .dashes :=
        fun hafter hkind => hword ⟨hafter, hkind⟩
      simp only [accept_eq_ok_iff hawaited hword']
      constructor
      · rintro ⟨t', ⟨t, ht, ht'⟩, hrun⟩
        exact ⟨t, ht, t', ht', hrun⟩
      · rintro ⟨t, ht, t', ht', hrun⟩
        exact ⟨t', ⟨t, ht, ht'⟩, hrun⟩

/-- Words after a command do not matter to what is read before it. -/
theorem exists_append_of_scan {words rest : List Bytes} {name : String}
    (h : g.scan s words = .ok (s', some (name, rest))) :
    ∃ front, words = front ++ rest ∧
      ∀ rest', g.scan s (front ++ rest') = .ok (s', some (name, rest')) := by
  induction words generalizing s with
  | nil => cases h
  | cons word words ih =>
    rw [scan] at h
    split at h
    · rename_i command hcommand
      cases h
      refine ⟨[word], rfl, fun rest' => ?_⟩
      rw [List.singleton_append, scan, hcommand]
    · rename_i hcommand
      obtain ⟨t, haccept, h⟩ := bind_eq_ok_iff.1 h
      obtain ⟨front, rfl, hfront⟩ := ih h
      refine ⟨word :: front, rfl, fun rest' => ?_⟩
      rw [List.cons_append, scan, hcommand]
      exact bind_eq_ok_iff.2 ⟨t, haccept, hfront rest'⟩

end Grammar

end FuseMount.CommandLine
