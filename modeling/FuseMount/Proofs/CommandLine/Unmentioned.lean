import FuseMount.Proofs.CommandLine.Override

/-!
# Options that no word names

What one option alone can change stays as it was if no word names that option. Which of the other
options there are, and in which order, does not matter.

The proof keeps an eye on the parameter that came last as well (`Kept`), since its value is taken in
only with the next word.

Results:

* `Kept.accept`: one word that does not name the option.
* `Kept.scan`: all words up to a command.
-/

namespace FuseMount.CommandLine

/-! ## Specification -/

theorem mentions_iff {name : String} {word : Bytes} :
    Mentions name word ↔ word = longWord name ∨ longWord name ++ [equalsSign] <+: word := by
  refine or_congr_right ⟨?_, ?_⟩
  · rintro ⟨value, rfl⟩
    exact ⟨value, by simp⟩
  · rintro ⟨value, rfl⟩
    exact ⟨value, by simp⟩

instance (name : String) (word : Bytes) : Decidable (Mentions name word) :=
  decidable_of_iff _ mentions_iff.symm

section

variable {σ : Type}

/-- No value of a parameter ends what holds. -/
def Parameter.Keeps (holds : σ → Prop) (p : Parameter σ) : Prop :=
  ∀ bytes set, p.take bytes = .ok set → ∀ a, holds a → holds (set a)

/-- What an option stands for does not end what holds. -/
def Action.Keeps (holds : σ → Prop) : Action σ → Prop
  | .switch set => ∀ a, holds a → holds (set a)
  | .value p => p.Keeps holds
  | .request _ => True

/-- No option of a grammar but one ends what holds; that one is named by a long word only. -/
structure Grammar.KeepsBut (g : Grammar σ) (name : String) (holds : σ → Prop) : Prop where
  operands_eq : g.operands = []
  encode_ne_nil : Utf8.encode name ≠ []
  of_flag : ∀ flag ∈ g.flags,
    flag.long = name ∧ flag.short = none ∨ flag.action.Keeps holds

/-- Something holds of the value so far, and the parameter that came last does not end it. -/
structure Progress.Kept (holds : σ → Prop) (s : Progress σ) : Prop where
  value : holds s.value
  pending : ∀ q, s.pending = some q → q.parameter.Keeps holds
  operands_eq : s.operands = []

end

namespace Progress.Kept

variable {σ : Type} {g : Grammar σ} {name : String} {holds : σ → Prop} {s s' : Progress σ}
  {p : Parameter σ} {flag : Flag σ} {bytes : Bytes}

/-! ## One word -/

theorem give (hs : s.Kept holds) (hp : p.Keeps holds) (h : s.give p bytes = .ok s') :
    s'.Kept holds := by
  obtain ⟨-, set, htake, rfl⟩ := give_eq_ok_iff.1 h
  exact ⟨hp bytes set htake s.value hs.value, hs.pending, hs.operands_eq⟩

theorem resolve (hs : s.Kept holds) (h : s.resolve = .ok s') : s'.Kept holds := by
  obtain ⟨-, rfl⟩ | ⟨p, bytes, hpending, hgive⟩ := resolve_eq_ok_iff.1 h
  · exact hs
  · have hsettled : ({ s with pending := none } : Progress σ).Kept holds :=
      ⟨hs.value, nofun, hs.operands_eq⟩
    exact hsettled.give (hs.pending _ hpending) hgive

theorem acceptAlone (hs : s.Kept holds) (hflag : flag.action.Keeps holds)
    (h : Grammar.acceptAlone s flag = .ok s') : s'.Kept holds := by
  obtain ⟨t, hresolve, ⟨set, haction, -, rfl⟩ | ⟨p, haction, rfl⟩⟩ :=
    Grammar.acceptAlone_eq_ok_iff.1 h
  · have ht := hs.resolve hresolve
    rw [haction] at hflag
    exact ⟨hflag t.value ht.value, ht.pending, ht.operands_eq⟩
  · have ht := hs.resolve hresolve
    rw [haction] at hflag
    refine ⟨ht.value, fun q hq => ?_, ht.operands_eq⟩
    cases hq
    exact hflag

theorem acceptValue (hs : s.Kept holds) (hflag : flag.action.Keeps holds)
    (h : Grammar.acceptValue s flag bytes = .ok s') : s'.Kept holds := by
  obtain ⟨p, haction, t, hresolve, hgive⟩ := Grammar.acceptValue_eq_ok_iff.1 h
  rw [haction] at hflag
  exact (hs.resolve hresolve).give hflag hgive

theorem acceptPlain (hs : s.Kept holds) (h : g.acceptPlain s bytes = .ok s') : s'.Kept holds := by
  obtain ⟨p, hawaited, rfl⟩ := (Grammar.acceptPlain_eq_ok_iff hs.operands_eq).1 h
  refine ⟨hs.value, fun q hq => ?_, hs.operands_eq⟩
  cases hq
  exact hs.pending ⟨p, none⟩ (awaited_eq_some_iff.1 hawaited).1

section

variable (hg : g.KeepsBut name holds)

include hg

/-- The option has no short name, so no group of short options holds it. -/
theorem acceptShort (hs : s.Kept holds) {group : List Utf8.Piece}
    (h : g.acceptShort s group = .ok s') : s'.Kept holds := by
  induction group generalizing s with
  | nil =>
    cases h
    exact hs
  | cons piece rest ih =>
    cases piece with
    | broken bytes => cases h
    | char c =>
      obtain ⟨e, he⟩ | ⟨flag, hmem, hshort, hstep⟩ := Grammar.acceptShort_char g c rest
      · rw [he] at h
        cases h
      · have hflag : flag.action.Keeps holds := by
          refine (hg.of_flag flag hmem).resolve_left fun hname => ?_
          rw [hshort] at hname
          cases hname.2
        rcases hstep with hvalue | halone
        · rw [hvalue] at h
          exact hs.acceptValue hflag h
        · rw [halone, bind_eq_ok_iff] at h
          obtain ⟨t, ht, h⟩ := h
          exact ih (hs.acceptAlone hflag ht) h

theorem acceptLong (hs : s.Kept holds) {long : Bytes} {value : Option Bytes}
    (hlong : long ≠ Utf8.encode name) (h : g.acceptLong s long value = .ok s') :
    s'.Kept holds := by
  obtain ⟨flag, hfind, h⟩ := Grammar.acceptLong_eq_ok_iff.1 h
  have hfound : Utf8.encode flag.long = long := by simpa using List.find?_some hfind
  have hflag : flag.action.Keeps holds := by
    refine (hg.of_flag flag (List.mem_of_find?_eq_some hfind)).resolve_left fun hname => ?_
    exact hlong (by rw [← hfound, hname.1])
  cases value with
  | none => exact hs.acceptAlone hflag h
  | some bytes => exact hs.acceptValue hflag h

theorem accept (hs : s.Kept holds) (hword : ¬Mentions name bytes) (h : g.accept s bytes = .ok s') :
    s'.Kept holds := by
  cases hafter : s.afterDashes with
  | true => exact hs.acceptPlain (Grammar.accept_of_afterDashes hafter ▸ h)
  | false =>
    cases hkind : Word.ofBytes bytes with
    | dashes =>
      rw [Grammar.accept_of_dashes hafter hkind] at h
      cases h
      exact ⟨hs.value, hs.pending, hs.operands_eq⟩
    | long long value =>
      rw [Grammar.accept_of_long hafter hkind] at h
      refine hs.acceptLong hg (fun hlong => hword ?_) h
      exact mentions_of_ofBytes hg.encode_ne_nil (hlong ▸ hkind)
    | short group => exact hs.acceptShort hg (Grammar.accept_of_short hafter hkind ▸ h)
    | plain => exact hs.acceptPlain (Grammar.accept_of_plain hafter hkind ▸ h)

/-! ## All words -/

/-- Words that do not name the option leave alone what only the option can end. -/
theorem scan {words : List Bytes} {command : Option (String × List Bytes)} (hs : s.Kept holds)
    (hwords : ∀ word ∈ words, ¬Mentions name word) (h : g.scan s words = .ok (s', command)) :
    s'.Kept holds := by
  induction words generalizing s with
  | nil =>
    cases h
    exact hs
  | cons word words ih =>
    obtain ⟨hword, hwords⟩ := List.forall_mem_cons.1 hwords
    rw [Grammar.scan] at h
    split at h
    · cases h
      exact hs
    · obtain ⟨t, haccept, h⟩ := bind_eq_ok_iff.1 h
      exact ih (hs.accept hg hword haccept) hwords h

end

end Progress.Kept

end FuseMount.CommandLine
