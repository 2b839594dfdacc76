import FuseMount.Json.Decoder
import FuseMount.Proofs.Json.Skip

/-!
# What decoders read

A decoder runs over characters, but what it gives depends on the value that they spell alone, not on
white space and not on what comes after the value. `Decoder.Means` says so: there is a function on
trees that the decoder computes wherever a value of the grammar stands, and the decoder accepts
nothing that is not one. Which fault a rejected document has is left open.

Results:

* `Decoder.means_string`, `means_bool`, `means_null`, `means_variant`, `Means.optional`,
  `Means.bind_pure`: what the decoders of single values mean.
* `Decoder.Means.ofTree_eq`: the meaning is what the decoder gives for a value without white space.
* `Decoder.Means.decode_eq_ok_iff`: what is read from a whole document.
-/

namespace FuseMount.Json.Decoder

variable {α β : Type}

/-! ## Specification -/

/-- What a decoder gives, if it accepts. -/
def run? (d : Decoder α) (cs : List Char) : Option (α × List Char) :=
  (d.run cs).toOption

/-- The decoder reads the values of the grammar, and nothing else, by a function on trees. -/
structure Means (d : Decoder α) (m : Tree → Option α) : Prop where
  /-- A value is read in any white space, whatever comes after it. -/
  reads : ∀ {t : Tree} {w value rest : List Char}, Blank w → t.Spells value → ValueEnd rest →
    d.run? (w ++ (value ++ rest)) = (m t).map (·, rest)
  /-- What is read is a value. -/
  sound : ∀ {cs rest : List Char} {a : α}, d.run? cs = some (a, rest) → BeginsWithValue cs rest

/-- What a decoder makes of a value, whatever white space is in it. -/
def ofTree (d : Decoder α) (t : Tree) : Option α :=
  (d.run? t.text).map Prod.fst

theorem Means.ofTree_eq {d : Decoder α} {m : Tree → Option α} (h : d.Means m) (t : Tree) :
    d.ofTree t = m t := by
  have hrun := h.reads blank_nil t.spells_text .nil
  rw [List.nil_append, List.append_nil] at hrun
  rw [ofTree, hrun]
  cases m t <;> rfl

/-! ## Running decoders -/

@[simp] theorem run?_pure (a : α) (cs : List Char) : (pure a : Decoder α).run? cs = some (a, cs) :=
  rfl

@[simp] theorem run?_fail (e : Fault) (cs : List Char) : (fail e : Decoder α).run? cs = none := rfl

@[simp] theorem run?_bind (d : Decoder α) (f : α → Decoder β) (cs : List Char) :
    (d >>= f).run? cs = (d.run? cs).bind fun p => (f p.1).run? p.2 := by
  rw [run?, run?, run_bind]
  cases d.run cs <;> rfl

/-- A value that is read and then put into another form. -/
theorem run?_bind_pure (d : Decoder α) (f : α → β) (cs : List Char) :
    (d >>= fun a => pure (f a)).run? cs = (d.run? cs).map fun p => (f p.1, p.2) := by
  rw [run?_bind]
  cases d.run? cs <;> rfl

@[simp] theorem run?_peek (cs : List Char) :
    peek.run? cs = some ((skipSpace cs).head?, skipSpace cs) := rfl

@[simp] theorem run?_next (cs : List Char) : next.run? cs = some ((), cs.tail) := rfl

@[simp] theorem run?_ofReading (f : List Char → Except Fault (α × List Char))
    (h : ∀ {cs a rest}, f cs = .ok (a, rest) → rest.length < cs.length) (cs : List Char) :
    (ofReading f h).run? cs = (f cs).toOption := rfl

@[simp] theorem run?_ofSkipping (f : List Char → Except Fault (List Char))
    (h : ∀ {cs rest}, f cs = .ok rest → rest.length ≤ cs.length) (cs : List Char) :
    (ofSkipping f h).run? cs = (f cs).toOption.map (((), ·)) := by
  change ((f cs).map fun rest => ((), rest)).toOption = _
  cases f cs <;> rfl

@[simp] theorem run?_literal_append (ls rest : List Char) :
    (literal ls).run? (ls ++ rest) = some ((), rest) := by
  rw [literal, run?_ofSkipping, skipLiteral_append]
  rfl

theorem eq_append_of_run?_literal {ls cs rest : List Char} {u : Unit}
    (h : (literal ls).run? cs = some (u, rest)) : cs = ls ++ rest := by
  rw [literal, run?_ofSkipping, Option.map_eq_some_iff] at h
  obtain ⟨r, hr, he⟩ := h
  cases he
  exact eq_append_of_skipLiteral (toOption_eq_some_iff.1 hr)

@[simp] theorem run?_stringBody_append (us : List StringUnit) (rest : List Char) :
    stringBody.run? (bodyText us ++ '"' :: rest) = (text? us).map (·, rest) := by
  simp only [stringBody, run?_bind, run?_ofReading, run?_pure, toOption_readString_bodyText, text?]
  cases chars? us <;> rfl

theorem exists_bodyText_of_run?_stringBody {cs rest : List Char} {s : String}
    (h : stringBody.run? cs = some (s, rest)) : ∃ us, cs = bodyText us ++ '"' :: rest := by
  simp only [stringBody, run?_bind, run?_ofReading, run?_pure, Option.bind_eq_some_iff] at h
  obtain ⟨p, hp, he⟩ := h
  cases he
  exact exists_bodyText_of_readString (toOption_eq_some_iff.1 hp)

/-! ## Values of another type -/

/-- A decoder that accepts nothing. -/
def Fails (d : Decoder α) : Prop :=
  ∀ cs, d.run? cs = none

theorem fails_fail (e : Fault) : (fail e : Decoder α).Fails := fun _ => rfl

theorem fails_bind {d : Decoder α} {f : α → Decoder β} (h : ∀ a, (f a).Fails) :
    (d >>= f).Fails := by
  intro cs
  rw [run?_bind]
  cases d.run? cs with
  | none => rfl
  | some p => exact h p.1 p.2

theorem fails_wrongType (expected : String) : (wrongType expected : Decoder α).Fails := by
  unfold wrongType
  refine fails_bind fun c => ?_
  split
  case h_8 =>
    split
    · exact fails_bind fun _ => fails_fail _
    · exact fails_fail _
  all_goals
    first
    | exact fails_fail _
    | exact fails_bind fun _ => fails_bind fun _ => fails_fail _

@[simp] theorem run?_wrongType (expected : String) (cs : List Char) :
    (wrongType expected : Decoder α).run? cs = none :=
  fails_wrongType expected cs

/-! ## Single values -/

/-- A decoder that chooses by the first character of a value means what its choices mean. -/
theorem Means.of_first {d : Decoder α} {m : Tree → Option α}
    {f : Char → List Char → Option (α × List Char)}
    (hrun : ∀ cs, d.run? cs =
      match skipSpace cs with
      | [] => none
      | c :: r => f c r)
    (hreads : ∀ {t : Tree} {c : Char} {value rest : List Char}, t.Spells (c :: value) →
      t.Opens c → ValueEnd rest → f c (value ++ rest) = (m t).map (·, rest))
    (hsound : ∀ {c : Char} {r rest : List Char} {a : α}, f c r = some (a, rest) →
      ∃ t value, Tree.Spells t (c :: value) ∧ r = value ++ rest) : d.Means m where
  reads {t w value rest} hw h hrest := by
    have hspace := h.skipSpace_append hw rest
    obtain ⟨c, r, rfl, hopens⟩ := h.exists_cons
    rw [hrun, hspace]
    exact hreads h hopens hrest
  sound {cs rest a} h := by
    rw [hrun] at h
    split at h
    · cases h
    · rename_i c r hr
      obtain ⟨t, value, ht, hvalue⟩ := hsound h
      exact .of_spells ht (by rw [hr, hvalue, List.cons_append])

/-- What a string is read as. -/
def stringOf : Tree → Option String
  | .string us => text? us
  | _ => none

theorem run?_string (cs : List Char) :
    string.run? cs =
      match skipSpace cs with
      | [] => none
      | c :: r => if c = '"' then stringBody.run? r else none := by
  rw [string, run?_bind, run?_peek, Option.bind_some]
  cases skipSpace cs with
  | nil => exact run?_wrongType _ _
  | cons c r => split <;> simp_all

theorem means_string : string.Means stringOf := by
  refine .of_first run?_string (fun {t c value rest} h hopens _ => ?_) fun {c r rest s} hrun => ?_
  · split
    · rename_i hc
      subst hc
      obtain ⟨us, rfl⟩ := hopens.exists_eq_string
      cases h
      rw [List.append_assoc]
      exact run?_stringBody_append us rest
    · cases t with
      | string us => exact absurd hopens ‹_›
      | _ => rfl
  · split at hrun
    · rename_i hc
      subst hc
      obtain ⟨us, rfl⟩ := exists_bodyText_of_run?_stringBody hrun
      exact ⟨.string us, _, .string us, List.append_cons ..⟩
    · cases hrun

/-- What a boolean is read as. -/
def boolOf : Tree → Option Bool
  | .bool b => some b
  | _ => none

theorem run?_bool (cs : List Char) :
    bool.run? cs =
      match skipSpace cs with
      | [] => none
      | c :: r =>
        if c = 't' then ((literal ['r', 'u', 'e']).run? r).map fun p => (true, p.2)
        else if c = 'f' then ((literal ['a', 'l', 's', 'e']).run? r).map fun p => (false, p.2)
        else none := by
  rw [bool, run?_bind, run?_peek, Option.bind_some]
  cases skipSpace cs with
  | nil => exact run?_wrongType _ _
  | cons c r =>
    by_cases ht : c = 't'
    · subst ht
      exact run?_bind_pure (literal ['r', 'u', 'e']) (fun _ => true) r
    by_cases hf : c = 'f'
    · subst hf
      exact run?_bind_pure (literal ['a', 'l', 's', 'e']) (fun _ => false) r
    · simp [ht, hf]

theorem means_bool : bool.Means boolOf := by
  refine .of_first run?_bool (fun {t c value rest} h hopens _ => ?_) fun {c r rest b} hrun => ?_
  · by_cases ht : c = 't'
    · subst ht
      obtain rfl := hopens.eq_true
      cases h
      rw [if_pos rfl, run?_literal_append]
      rfl
    rw [if_neg ht]
    by_cases hf : c = 'f'
    · subst hf
      obtain rfl := hopens.eq_false
      cases h
      rw [if_pos rfl, run?_literal_append]
      rfl
    rw [if_neg hf]
    cases t with
    | bool b => cases b <;> contradiction
    | _ => rfl
  · split at hrun
    · rename_i hc
      subst hc
      obtain ⟨p, hp, he⟩ := Option.map_eq_some_iff.1 hrun
      cases he
      exact ⟨_, _, .true, eq_append_of_run?_literal hp⟩
    split at hrun
    · rename_i hc
      subst hc
      obtain ⟨p, hp, he⟩ := Option.map_eq_some_iff.1 hrun
      cases he
      exact ⟨_, _, .false, eq_append_of_run?_literal hp⟩
    · cases hrun

/-- What `null` is read as. -/
def nullOf : Tree → Option Unit
  | .null => some ()
  | _ => none

theorem run?_null (cs : List Char) :
    null.run? cs =
      match skipSpace cs with
      | [] => none
      | c :: r => if c = 'n' then (literal ['u', 'l', 'l']).run? r else none := by
  rw [null, run?_bind, run?_peek, Option.bind_some]
  cases skipSpace cs with
  | nil => exact run?_wrongType _ _
  | cons c r => split <;> simp_all

theorem means_null : null.Means nullOf := by
  refine .of_first run?_null (fun {t c value rest} h hopens _ => ?_) fun {c r rest u} hrun => ?_
  · split
    · rename_i hc
      subst hc
      obtain rfl := hopens.eq_null
      cases h
      exact run?_literal_append _ rest
    · cases t with
      | null => exact absurd hopens ‹_›
      | _ => rfl
  · split at hrun
    · rename_i hc
      subst hc
      exact ⟨_, _, .null, eq_append_of_run?_literal hrun⟩
    · cases hrun

theorem run?_skip (cs : List Char) : skip.run? cs = (skipValue cs).toOption.map (((), ·)) :=
  run?_ofSkipping _ (fun h => Nat.le_of_lt (skipValue_length_lt h)) cs

/-- A value that nobody asks for may be any value. -/
theorem means_skip : skip.Means fun _ => some () where
  reads hw h hrest := by
    rw [run?_skip, skipValue_append hw h hrest]
    rfl
  sound hrun := by
    rw [run?_skip] at hrun
    obtain ⟨r, hr, he⟩ := Option.map_eq_some_iff.1 hrun
    cases he
    exact beginsWithValue_of_skipValue (toOption_eq_some_iff.1 hr)

/-! ### Values that may be missing -/

/-- What a value that may be missing is read as. -/
def optionalOf (m : Tree → Option α) : Tree → Option (Option α)
  | .null => some none
  | t => some <$> m t

theorem run?_optional (d : Decoder α) (cs : List Char) :
    (optional d).run? cs =
      match skipSpace cs with
      | 'n' :: r => ((literal ['u', 'l', 'l']).run? r).map fun p => (none, p.2)
      | r => (d.run? r).map fun p => (some p.1, p.2) := by
  rw [optional, run?_bind, run?_peek, Option.bind_some]
  cases skipSpace cs with
  | nil => exact run?_bind_pure d some []
  | cons c r =>
    by_cases hc : c = 'n'
    · subst hc
      exact run?_bind_pure _ (fun _ => none) r
    · simp [hc, run?_bind_pure, -run?_bind]

theorem Means.optional {d : Decoder α} {m : Tree → Option α} (hd : d.Means m) :
    (Decoder.optional d).Means (optionalOf m) where
  reads {t w value rest} hw h hrest := by
    have hreads := hd.reads blank_nil h hrest
    obtain ⟨c, r, hvalue, hopens⟩ := h.exists_cons
    rw [List.nil_append, hvalue, List.cons_append] at hreads
    rw [run?_optional, h.skipSpace_append hw, hvalue, List.cons_append]
    split
    · rename_i he
      cases he
      obtain rfl := hopens.eq_null
      cases h
      cases hvalue
      rw [run?_literal_append]
      rfl
    · rename_i hne
      have hnull : t = .null → False := by
        rintro rfl
        cases hopens
        exact hne _ rfl
      rw [hreads, optionalOf.eq_2 m t hnull]
      cases m t <;> rfl
  sound {cs rest b} hrun := by
    rw [run?_optional] at hrun
    split at hrun
    · rename_i r hr
      obtain ⟨p, hp, he⟩ := Option.map_eq_some_iff.1 hrun
      cases he
      exact .of_spells .null (by rw [hr, eq_append_of_run?_literal hp]; rfl)
    · obtain ⟨p, hp, he⟩ := Option.map_eq_some_iff.1 hrun
      cases he
      exact (hd.sound hp).of_skipSpace

theorem Means.bind_pure {d : Decoder α} {m : Tree → Option α} (hd : d.Means m) (g : α → β) :
    (d >>= fun a => pure (g a)).Means fun t => g <$> m t where
  reads hw h hrest := by
    rw [run?_bind, hd.reads hw h hrest]
    cases m _ <;> rfl
  sound hrun := by
    rw [run?_bind] at hrun
    obtain ⟨p, hp, he⟩ := Option.bind_eq_some_iff.1 hrun
    cases he
    exact hd.sound hp

/-! ### Names out of a list -/

@[simp] theorem run?_named (known : List String) (find : String → Option α) (name : String)
    (cs : List Char) : (named known find name).run? cs = (find name).map (·, cs) := by
  rw [named]
  cases find name <;> rfl

theorem run?_colon (cs : List Char) :
    colon.run? cs =
      match skipSpace cs with
      | ':' :: r => some ((), r)
      | _ => none := by
  rw [colon, run?_bind, run?_peek, Option.bind_some]
  cases skipSpace cs with
  | nil => rfl
  | cons c r =>
    by_cases hc : c = ':'
    · subst hc
      rfl
    · simp [hc]

theorem run?_onlyKey (cs : List Char) :
    onlyKey.run? cs =
      match skipSpace cs with
      | '"' :: r => stringBody.run? r
      | _ => none := by
  rw [onlyKey, run?_bind, run?_peek, Option.bind_some]
  cases skipSpace cs with
  | nil => rfl
  | cons c r =>
    by_cases hc : c = '"'
    · subst hc
      rfl
    · split <;> simp_all

theorem run?_onlyKey_append {w : List Char} (hw : Blank w) (us : List StringUnit)
    (rest : List Char) :
    onlyKey.run? (w ++ (stringText us ++ rest)) = (text? us).map (·, rest) := by
  rw [run?_onlyKey, (Tree.Spells.string us).skipSpace_append hw, stringText, List.cons_append,
    List.append_assoc]
  exact run?_stringBody_append us rest

theorem exists_stringText_of_run?_onlyKey {cs rest : List Char} {name : String}
    (h : onlyKey.run? cs = some (name, rest)) :
    ∃ w us, Blank w ∧ cs = w ++ (stringText us ++ rest) := by
  obtain ⟨w, hw, hcs⟩ := exists_blank_append_skipSpace cs
  rw [run?_onlyKey] at h
  split at h
  · rename_i r hr
    obtain ⟨us, rfl⟩ := exists_bodyText_of_run?_stringBody h
    exact ⟨w, us, hw, by rw [hcs, hr]; simp [stringText]⟩
  · cases h

theorem run?_colon_append {w : List Char} (hw : Blank w) (rest : List Char) :
    colon.run? (w ++ ':' :: rest) = some ((), rest) := by
  rw [run?_colon, skipSpace_blank_append_cons hw rfl]
  rfl

theorem exists_colon_of_run?_colon {cs rest : List Char} {u : Unit}
    (h : colon.run? cs = some (u, rest)) : ∃ w, Blank w ∧ cs = w ++ ':' :: rest := by
  obtain ⟨w, hw, hcs⟩ := exists_blank_append_skipSpace cs
  rw [run?_colon] at h
  split at h
  · rename_i r hr
    cases h
    exact ⟨w, hw, hr ▸ hcs⟩
  · cases h

/-- The closing brace after the only member of an object. -/
def closeBrace (a : α) (cs : List Char) : Option (α × List Char) :=
  match skipSpace cs with
  | '\x7d' :: r => some (a, r)
  | _ => none

theorem closeBrace_append {ms : List (List StringUnit × Tree)} {cs : List Char}
    (h : Tree.SpellsMembers false ms cs) (a : α) (rest : List Char) :
    closeBrace a (cs ++ rest) = if ms = [] then some (a, rest) else none := by
  cases h with
  | done hw =>
    rw [closeBrace, if_pos rfl, List.append_assoc, List.singleton_append,
      skipSpace_blank_append_cons hw rfl]
    rfl
  | member hw =>
    cases hw with
    | comma hw =>
      rw [closeBrace, if_neg (List.cons_ne_nil _ _), List.append_assoc, List.append_assoc,
        List.cons_append, skipSpace_blank_append_cons hw rfl]
      rfl

theorem exists_brace_of_closeBrace {a b : α} {cs rest : List Char}
    (h : closeBrace a cs = some (b, rest)) : ∃ w, Blank w ∧ cs = w ++ '\x7d' :: rest := by
  obtain ⟨w, hw, hcs⟩ := exists_blank_append_skipSpace cs
  rw [closeBrace] at h
  split at h
  · rename_i r hr
    cases h
    exact ⟨w, hw, hr ▸ hcs⟩
  · cases h

/-- The rest of an object that stands for a name, after the name. -/
def variantEnd (a : α) (cs : List Char) : Option (α × List Char) :=
  (colon.run? cs).bind fun p => (null.run? p.2).bind fun q => closeBrace a q.2

theorem variantEnd_append {w₁ w₂ value cs : List Char} {t : Tree}
    {ms : List (List StringUnit × Tree)} (a : α) (hw₁ : Blank w₁) (hw₂ : Blank w₂)
    (h : t.Spells value) (hms : Tree.SpellsMembers false ms cs) (rest : List Char) :
    variantEnd a (w₁ ++ ':' :: (w₂ ++ (value ++ (cs ++ rest)))) =
      if ms = [] then (nullOf t).map fun _ => (a, rest) else none := by
  rw [variantEnd, run?_colon_append hw₁, Option.bind_some,
    means_null.reads hw₂ h (hms.valueEnd rest), Option.bind_map]
  simp only [Function.comp_def, closeBrace_append hms]
  split <;> cases nullOf t <;> rfl

/-- What a name out of a list is read as. -/
def variantOf (find : String → Option α) : Tree → Option α
  | .string us => (text? us).bind find
  | .object [(us, t)] =>
    (text? us).bind fun name => (find name).bind fun a => (nullOf t).map fun _ => a
  | _ => none

section

variable (known : List String) (find : String → Option α)

theorem run?_variant (cs : List Char) :
    (variant known find).run? cs =
      match skipSpace cs with
      | [] => none
      | c :: r =>
        if c = '"' then (stringBody.run? r).bind fun p => (find p.1).map (·, p.2)
        else if c = '\x7b' then
          (onlyKey.run? r).bind fun p => (find p.1).bind fun a => variantEnd a p.2
        else none := by
  rw [variant, run?_bind, run?_peek, Option.bind_some]
  cases skipSpace cs with
  | nil => rfl
  | cons c r =>
    by_cases hc : c = '"'
    · subst hc
      simp
    by_cases hc' : c = '\x7b'
    · subst hc'
      simp only [List.head?_cons, run?_bind, run?_next, run?_named, Option.bind_some, run?_peek,
        List.tail_cons, Option.bind_map, Function.comp_def, variantEnd, closeBrace]
      refine congrArg _ (funext fun p => congrArg _ (funext fun a =>
        congrArg _ (funext fun q => congrArg _ (funext fun q' => ?_))))
      cases skipSpace q'.2 with
      | nil => rfl
      | cons c r => by_cases hc : c = '\x7d' <;> simp [hc]
    · simp [hc, hc']

/-- An object stands for a name if it has one member, with the name and `null`. -/
theorem variantMember_append {ms : List (List StringUnit × Tree)} {cs : List Char}
    (hms : Tree.SpellsMembers true ms cs) (rest : List Char) :
    ((onlyKey.run? (cs ++ rest)).bind fun p => (find p.1).bind fun a => variantEnd a p.2) =
      (variantOf find (.object ms)).map (·, rest) := by
  cases hms with
  | done hw =>
    rw [run?_onlyKey, List.append_assoc, List.singleton_append, skipSpace_blank_append_cons hw rfl]
    rfl
  | @member _ w w₁ w₂ value cs us t ms hw hw₁ hw₂ ht hms =>
    cases hw with
    | first hw =>
      simp only [List.append_assoc, List.cons_append]
      rw [run?_onlyKey_append hw]
      simp only [variantEnd_append _ hw₁ hw₂ ht hms, Option.bind_map, Function.comp_def]
      cases ms with
      | nil => simp only [variantOf, if_true, Option.map_bind, Function.comp_def, Option.map_map]
      | cons m ms => simp [variantOf]

theorem exists_spellsMembers_of_variantMember {r rest : List Char} {a : α}
    (h : ((onlyKey.run? r).bind fun p => (find p.1).bind fun a => variantEnd a p.2) =
      some (a, rest)) :
    ∃ ms members, Tree.SpellsMembers true ms members ∧ r = members ++ rest := by
  obtain ⟨p, hname, h⟩ := Option.bind_eq_some_iff.1 h
  obtain ⟨b, -, h⟩ := Option.bind_eq_some_iff.1 h
  obtain ⟨q, hcolon, h⟩ := Option.bind_eq_some_iff.1 h
  obtain ⟨q', hnull, hclose⟩ := Option.bind_eq_some_iff.1 h
  obtain ⟨w, us, hw, rfl⟩ := exists_stringText_of_run?_onlyKey hname
  obtain ⟨w₁, hw₁, hp⟩ := exists_colon_of_run?_colon hcolon
  obtain ⟨w₂, t, value, hw₂, ht, hq⟩ := means_null.sound hnull
  obtain ⟨w', hw', hq'⟩ := exists_brace_of_closeBrace hclose
  refine ⟨[(us, t)], _, .member (.first hw) hw₁ hw₂ ht (.done hw'), ?_⟩
  rw [hp, hq, hq']
  simp only [List.append_assoc, List.cons_append, List.nil_append]

theorem means_variant : (variant known find).Means (variantOf find) := by
  refine .of_first (run?_variant known find) (fun {t c value rest} h hopens _ => ?_)
    fun {c r rest a} hrun => ?_
  · by_cases hc : c = '"'
    · subst hc
      obtain ⟨us, rfl⟩ := hopens.exists_eq_string
      cases h
      rw [if_pos rfl, List.append_assoc, List.singleton_append, run?_stringBody_append, variantOf]
      cases text? us <;> rfl
    rw [if_neg hc]
    by_cases hc' : c = '\x7b'
    · subst hc'
      obtain ⟨ms, rfl⟩ := hopens.exists_eq_object
      cases h with
      | object hms => exact variantMember_append find hms rest
    rw [if_neg hc']
    cases t with
    | string us => contradiction
    | object ms => contradiction
    | _ => simp [variantOf]
  · split at hrun
    · rename_i hc
      subst hc
      obtain ⟨p, hp, he⟩ := Option.bind_eq_some_iff.1 hrun
      obtain ⟨b, hb, he⟩ := Option.map_eq_some_iff.1 he
      cases he
      obtain ⟨us, rfl⟩ := exists_bodyText_of_run?_stringBody hp
      exact ⟨_, _, .string us, List.append_cons ..⟩
    split at hrun
    · rename_i hc
      subst hc
      obtain ⟨ms, members, hms, hr⟩ := exists_spellsMembers_of_variantMember find hrun
      exact ⟨_, _, .object hms, hr⟩
    · cases hrun

end

/-! ## Documents -/

theorem blank_of_skipSpace {cs : List Char} (h : skipSpace cs = []) : Blank cs := by
  obtain ⟨w, hw, hcs⟩ := exists_blank_append_skipSpace cs
  rwa [hcs, h, List.append_nil]

theorem toOption_decode (d : Decoder α) (document : String) :
    (d.decode document).toOption =
      (d.run? document.toList).bind fun p => if skipSpace p.2 = [] then some p.1 else none := by
  rw [decode, run?]
  cases d.run document.toList with
  | error e => rfl
  | ok p =>
    obtain ⟨a, rest⟩ := p
    change Except.toOption (if skipSpace rest = [] then _ else _) =
      if skipSpace rest = [] then some a else none
    split <;> rfl

section

variable {d : Decoder α} {m : Tree → Option α} (hd : d.Means m)

include hd

/-- What is read from a document depends on the value in it alone. -/
theorem Means.toOption_decode_of_isDocument {t : Tree} {document : String}
    (h : IsDocument t document) : (d.decode document).toOption = m t := by
  obtain ⟨w, value, w', hw, ht, hw', hdocument⟩ := h
  rw [toOption_decode, hdocument, hd.reads hw ht (.of_blank hw'), Option.bind_map]
  simp only [Function.comp_def, skipSpace_of_blank hw', if_true]
  cases m t <;> rfl

/-- Whatever is read is a document of the grammar. -/
theorem Means.exists_isDocument {document : String} {a : α} (h : d.decode document = .ok a) :
    ∃ t, IsDocument t document := by
  rw [← toOption_eq_some_iff, toOption_decode] at h
  obtain ⟨p, hrun, hend⟩ := Option.bind_eq_some_iff.1 h
  split at hend
  · rename_i hspace
    obtain ⟨w, t, value, hw, ht, hdocument⟩ := hd.sound hrun
    exact ⟨t, w, value, p.2, hw, ht, blank_of_skipSpace hspace, hdocument⟩
  · cases hend

/-- **Reading a document.** A document is read as a value if and only if it belongs to the grammar
and the tree means this value. -/
theorem Means.decode_eq_ok_iff {document : String} {a : α} :
    d.decode document = .ok a ↔ ∃ t, IsDocument t document ∧ m t = some a := by
  constructor
  · intro h
    obtain ⟨t, ht⟩ := hd.exists_isDocument h
    exact ⟨t, ht, by rw [← hd.toOption_decode_of_isDocument ht, h]; rfl⟩
  · rintro ⟨t, ht, hm⟩
    rw [← toOption_eq_some_iff, hd.toOption_decode_of_isDocument ht, hm]

end

end FuseMount.Json.Decoder
