import FuseMount.Proofs.Json.Reading

/-!
# What decoders of collections read

Maps and records are read member by member, each member taken up into a state. What comes out is a
fold over the members of the tree.

Results:

* `Decoder.means_textMap`: a map has the values that its members give, the last one of each name.
* `Decoder.means_record`: a record is read from the members of an object, or from the items of an
  array.
-/

namespace FuseMount.Json.Decoder

variable {α σ : Type}

open FuseMount.Json.Tree (SpellsItems SpellsMembers)

/-! ## Specification -/

/-- The members of an object, each one taken up into a state under its name. -/
def foldMembers (step : σ → String → Tree → Option σ) (s : σ)
    (ms : List (List StringUnit × Tree)) : Option σ :=
  ms.foldlM (fun s m => (text? m.1).bind fun key => step s key m.2) s

/-- The tree is an object that gives texts to keys, which may be there more than once. -/
inductive IsTexts : List (String × String) → Tree → Prop
  | object {ms : List (List StringUnit × Tree)} {members : List (String × Tree)}
      {pairs : List (String × String)} (hms : Named ms members)
      (h : List.Forall₂ (fun m p => m.1 = p.1 ∧ stringOf m.2 = some p.2) members pairs) :
      IsTexts pairs (.object ms)

/-- What a map is read as. -/
def textMapOf : Tree → Option TextMap
  | .object ms => foldMembers (fun m key t => (m.insert key ·) <$> stringOf t) ∅ ms
  | _ => none

/-- What a member of a record does to the record and to the names of the fields that were there. -/
def recordMemberOf (fields : List (Field σ)) (s : σ × List String) (key : String) (t : Tree) :
    Option (σ × List String) :=
  match fields.find? (·.name = key) with
  | some field =>
    if key ∈ s.2 then none
    else (fun set => (set s.1, key :: s.2)) <$> field.read.ofTree t
  | none => some s

/-- What items do to a record, of which they are the first fields in order. -/
def itemsOf : List (Field σ) → List Tree → σ → Option σ
  | _, [], s => some s
  | [], _ :: _, _ => none
  | field :: fields, t :: ts, s => (field.read.ofTree t).bind fun set => itemsOf fields ts (set s)

/-- What a record is read as. -/
def recordOf (fields : List (Field σ)) (blank : σ) : Tree → Option σ
  | .array ts => itemsOf fields ts blank
  | .object ms => Prod.fst <$> foldMembers (recordMemberOf fields) (blank, []) ms
  | _ => none

/-! ## Names -/

theorem foldMembers_of_named {step : σ → String → Tree → Option σ}
    {ms : List (List StringUnit × Tree)} {members : List (String × Tree)} (h : Named ms members)
    (s : σ) : foldMembers step s ms = members.foldlM (fun s m => step s m.1 m.2) s := by
  induction h generalizing s with
  | nil => rfl
  | @cons m named ms members hm _ ih =>
    rw [foldMembers, List.foldlM_cons, List.foldlM_cons, hm.1, hm.2]
    refine congrArg (step s named.1 named.2 >>= ·) (funext fun s' => ih s')

theorem exists_named_of_foldMembers {step : σ → String → Tree → Option σ}
    {ms : List (List StringUnit × Tree)} {s s' : σ} (h : foldMembers step s ms = some s') :
    ∃ members, Named ms members := by
  induction ms generalizing s with
  | nil => exact ⟨[], .nil⟩
  | cons m ms ih =>
    rw [foldMembers, List.foldlM_cons] at h
    obtain ⟨s₁, hstep, h⟩ := Option.bind_eq_some_iff.1 h
    obtain ⟨key, hkey, -⟩ := Option.bind_eq_some_iff.1 hstep
    obtain ⟨members, hmembers⟩ := ih h
    exact ⟨(key, m.2) :: members, .cons ⟨hkey, rfl⟩ hmembers⟩

/-! ## Members -/

/-- A decoder that reads a value after a colon. -/
structure AfterColon (d : Decoder α) (m : Tree → Option α) : Prop where
  reads : ∀ {t : Tree} {w₁ w₂ value rest : List Char}, Blank w₁ → Blank w₂ → t.Spells value →
    ValueEnd rest → d.run? (w₁ ++ ':' :: (w₂ ++ (value ++ rest))) = (m t).map (·, rest)
  sound : ∀ {cs rest : List Char} {a : α}, d.run? cs = some (a, rest) →
    ∃ w₁ after, Blank w₁ ∧ cs = w₁ ++ ':' :: after ∧ BeginsWithValue after rest

theorem Means.afterColon {d : Decoder α} {m : Tree → Option α} (hd : d.Means m) :
    (colon >>= fun _ => d).AfterColon m where
  reads hw₁ hw₂ h hrest := by
    rw [run?_bind, run?_colon_append hw₁, Option.bind_some, hd.reads hw₂ h hrest]
  sound hrun := by
    rw [run?_bind] at hrun
    obtain ⟨p, hcolon, hvalue⟩ := Option.bind_eq_some_iff.1 hrun
    obtain ⟨w₁, hw₁, hcs⟩ := exists_colon_of_run?_colon hcolon
    exact ⟨w₁, p.2, hw₁, hcs, hd.sound hvalue⟩

theorem afterColon_fail (e : Fault) : (fail e : Decoder α).AfterColon fun _ => none where
  reads _ _ _ _ := rfl
  sound hrun := by cases hrun

theorem nextMember_done {first : Bool} {w : List Char} (hw : Blank w) (rest : List Char) :
    nextMember first (w ++ '\x7d' :: rest) = .ok (false, rest) := by
  rw [nextMember, skipSpace_blank_append_cons hw rfl]
  rfl

theorem nextMember_comma {cs r : List Char} (h : skipSpace cs = ',' :: r) :
    nextMember false cs =
      match skipSpace r with
      | [] => .error (.unfinished .value)
      | '\x7d' :: _ => .error (.malformed .trailingComma)
      | r => .ok (true, r) := by
  rw [nextMember, h]
  rfl

theorem nextMember_member {first : Bool} {w : List Char} (hw : Separator first w)
    (us : List StringUnit) (rest : List Char) :
    nextMember first (w ++ (stringText us ++ rest)) = .ok (true, stringText us ++ rest) := by
  have hspace {w : List Char} (hw : Blank w) := (Tree.Spells.string us).skipSpace_append hw rest
  cases hw with
  | first hw =>
    rw [nextMember, hspace hw, stringText, List.cons_append]
    rfl
  | comma hw hw' =>
    rw [List.append_assoc, List.cons_append,
      nextMember_comma (skipSpace_blank_append_cons hw rfl _), hspace hw']
    rfl

theorem nextMember_cases {first more : Bool} {cs r : List Char}
    (h : nextMember first cs = .ok (more, r)) :
    (more = false ∧ ∃ w, Blank w ∧ cs = w ++ '\x7d' :: r) ∨
      (more = true ∧ ∃ w, Separator first w ∧ cs = w ++ r) := by
  unfold nextMember at h
  split at h
  · cases h
  · rename_i hr
    cases h
    obtain ⟨w, hw, hcs⟩ := exists_blank_append_skipSpace cs
    exact .inl ⟨rfl, w, hw, hr ▸ hcs⟩
  · rename_i c r' _ hr
    cases first with
    | true =>
      cases h
      exact .inr ⟨rfl, exists_separator_first hr⟩
    | false =>
      rw [if_neg Bool.false_ne_true] at h
      split at h
      · rename_i hc
        subst hc
        split at h <;> cases h
        exact .inr ⟨rfl, exists_separator_comma hr⟩
      · cases h

theorem toOption_readKeyName_append (us : List StringUnit) (rest : List Char) :
    (readKeyName (stringText us ++ rest)).toOption = (text? us).map (·, rest) := by
  have h := toOption_readString_bodyText us rest
  rw [stringText, List.cons_append, List.append_assoc, List.singleton_append, readKeyName, text?]
  cases hread : readString (bodyText us ++ '"' :: rest) with
  | error e =>
    rw [hread] at h
    rw [Option.map_eq_none_iff.1 h.symm]
    rfl
  | ok p =>
    rw [hread] at h
    obtain ⟨cs, hcs, he⟩ := Option.map_eq_some_iff.1 h.symm
    rw [hcs, ← he]
    rfl

theorem exists_stringText_of_readKeyName {cs rest : List Char} {key : String}
    (h : readKeyName cs = .ok (key, rest)) : ∃ us, cs = stringText us ++ rest := by
  unfold readKeyName at h
  split at h
  · split at h
    · cases h
    · rename_i hread
      cases h
      obtain ⟨us, rfl⟩ := exists_bodyText_of_readString hread
      exact ⟨us, by simp [stringText]⟩
  · cases h

section

variable {member : σ → String → Decoder σ}

theorem readMembers_done {first : Bool} {s : σ} {cs rest : List Char}
    (h : nextMember first cs = .ok (false, rest)) :
    readMembers member first s cs = .ok (s, rest) := by
  rw [readMembers]
  split <;> rename_i hnext <;> cases h.symm.trans hnext
  rfl

theorem toOption_readMembers_member {first : Bool} {s : σ} {cs r : List Char}
    (h : nextMember first cs = .ok (true, r)) :
    (readMembers member first s cs).toOption =
      (readKeyName r).toOption.bind fun k => ((member s k.1).run? k.2).bind fun p =>
        (readMembers member false p.1 p.2).toOption := by
  rw [readMembers]
  split <;> rename_i hnext <;> cases h.symm.trans hnext
  split <;> rename_i hkey <;> rw [hkey]
  · rfl
  · split <;> rename_i hmember <;> simp [run?, hmember, Except.toOption]

variable {step : σ → String → Tree → Option σ}

/-- Reading members is a fold over them. -/
theorem toOption_readMembers (hmember : ∀ s key, (member s key).AfterColon (step s key))
    {first : Bool} {ms : List (List StringUnit × Tree)} {cs : List Char}
    (hms : SpellsMembers first ms cs) (s : σ) (rest : List Char) :
    (readMembers member first s (cs ++ rest)).toOption =
      (foldMembers step s ms).map (·, rest) := by
  induction ms generalizing first cs s with
  | nil =>
    cases hms with
    | done hw =>
      rw [List.append_assoc, List.singleton_append, readMembers_done (nextMember_done hw rest)]
      rfl
  | cons m ms ih =>
    cases hms with
    | @member _ w w₁ w₂ value cs us t _ hw hw₁ hw₂ h hms =>
      simp only [List.append_assoc, List.cons_append]
      rw [toOption_readMembers_member (nextMember_member hw us _), toOption_readKeyName_append,
        foldMembers, List.foldlM_cons]
      cases text? us with
      | none => rfl
      | some key =>
        rw [Option.map_some, Option.bind_some, (hmember s key).reads hw₁ hw₂ h (hms.valueEnd rest)]
        cases hstep : step s key t with
        | none => simp [hstep]
        | some s' => simp [hstep, ih hms s', foldMembers]

/-- Members that are read are members of the grammar. -/
theorem exists_spellsMembers_of_readMembers
    (hmember : ∀ s key, (member s key).AfterColon (step s key)) {first : Bool} {s s' : σ}
    {cs rest : List Char} (h : readMembers member first s cs = .ok (s', rest)) :
    ∃ ms members, SpellsMembers first ms members ∧ cs = members ++ rest := by
  fun_induction readMembers member first s cs with
  | case1 => cases h
  | case2 first s cs r hnext =>
    cases h
    rcases nextMember_cases hnext with ⟨-, w, hw, rfl⟩ | ⟨hfalse, -⟩
    · exact ⟨[], _, .done hw, List.append_cons ..⟩
    · cases hfalse
  | case3 => cases h
  | case4 => cases h
  | case5 first s cs r hnext key r₁ hkey s₁ r₂ hm ih =>
    rcases nextMember_cases hnext with ⟨hfalse, -⟩ | ⟨-, w, hw, rfl⟩
    · cases hfalse
    obtain ⟨us, rfl⟩ := exists_stringText_of_readKeyName hkey
    obtain ⟨w₁, after, hw₁, rfl, w₂, t, value, hw₂, ht, rfl⟩ :=
      (hmember s key).sound (toOption_eq_some_iff.2 hm)
    obtain ⟨ms, members, hms, rfl⟩ := ih h
    refine ⟨(us, t) :: ms, _, .member hw hw₁ hw₂ ht hms, ?_⟩
    simp only [List.append_assoc, List.cons_append]

end

theorem run?_members (member : σ → String → Decoder σ) (s : σ) (cs : List Char) :
    (members member s).run? cs = (readMembers member true s cs).toOption := rfl

/-! ## Maps -/

theorem run?_textMap (cs : List Char) :
    textMap.run? cs =
      match skipSpace cs with
      | [] => none
      | c :: r =>
        if c = '\x7b' then
          (members (fun m key => do colon; return m.insert key (← string)) ∅).run? r
        else none := by
  rw [textMap, run?_bind, run?_peek, Option.bind_some]
  cases skipSpace cs with
  | nil => exact run?_wrongType _ _
  | cons c r => split <;> simp_all

theorem means_textMap : textMap.Means textMapOf := by
  have hmember (m : TextMap) (key : String) := (means_string.bind_pure (m.insert key)).afterColon
  refine .of_first run?_textMap (fun {t c value rest} h hopens _ => ?_)
    fun {c r rest m} hrun => ?_
  · split
    · rename_i hc
      subst hc
      obtain ⟨ms, rfl⟩ := hopens.exists_eq_object
      cases h with
      | object hms => exact toOption_readMembers hmember hms ∅ rest
    · cases t with
      | object ms => exact absurd hopens ‹_›
      | _ => rfl
  · split at hrun
    · rename_i hc
      subst hc
      rw [run?_members, toOption_eq_some_iff] at hrun
      obtain ⟨ms, members, hms, hr⟩ := exists_spellsMembers_of_readMembers hmember hrun
      exact ⟨_, _, .object hms, hr⟩
    · cases hrun

theorem foldlM_texts {members : List (String × Tree)} {pairs : List (String × String)}
    (h : List.Forall₂ (fun m p => m.1 = p.1 ∧ stringOf m.2 = some p.2) members pairs)
    (m : TextMap) :
    members.foldlM (fun m n => (m.insert n.1 ·) <$> stringOf n.2) m = some (m.insertAll pairs) := by
  induction h generalizing m with
  | nil => rfl
  | @cons n p members pairs hn _ ih =>
    rw [List.foldlM_cons, hn.1, hn.2]
    exact ih (m.insert p.1 p.2)

theorem exists_pairs_of_foldlM {members : List (String × Tree)} {m m' : TextMap}
    (h : members.foldlM (fun m n => (m.insert n.1 ·) <$> stringOf n.2) m = some m') :
    ∃ pairs, List.Forall₂ (fun (n : String × Tree) (p : String × String) =>
      n.1 = p.1 ∧ stringOf n.2 = some p.2) members pairs := by
  induction members generalizing m with
  | nil => exact ⟨[], .nil⟩
  | cons n members ih =>
    obtain ⟨m₁, hstep, h⟩ := Option.bind_eq_some_iff.1 h
    obtain ⟨value, hvalue, -⟩ := Option.map_eq_some_iff.1 hstep
    obtain ⟨pairs, hpairs⟩ := ih h
    exact ⟨(n.1, value) :: pairs, .cons ⟨rfl, hvalue⟩ hpairs⟩

/-- A map is read from an object of texts, of which the later ones replace the earlier ones. -/
theorem textMapOf_eq_some_iff {t : Tree} {m : TextMap} :
    textMapOf t = some m ↔ ∃ pairs, IsTexts pairs t ∧ m = .ofList pairs := by
  constructor
  · intro h
    cases t with
    | object ms =>
      rw [textMapOf] at h
      obtain ⟨members, hms⟩ := exists_named_of_foldMembers h
      rw [foldMembers_of_named hms] at h
      obtain ⟨pairs, hpairs⟩ := exists_pairs_of_foldlM h
      rw [foldlM_texts hpairs] at h
      exact ⟨pairs, .object hms hpairs, (Option.some.inj h).symm⟩
    | _ => cases h
  · rintro ⟨pairs, ⟨hms, hpairs⟩, rfl⟩
    rw [textMapOf, foldMembers_of_named hms, foldlM_texts hpairs]
    rfl

/-! ## Items -/

theorem run?_hasItem (first : Bool) (cs : List Char) :
    (hasItem first).run? cs =
      match skipSpace cs with
      | [] => none
      | ']' :: r => some (false, ']' :: r)
      | c :: r =>
        if first then some (true, c :: r)
        else if c = ',' then
          match skipSpace r with
          | [] => none
          | ']' :: _ => none
          | r => some (true, r)
        else none := by
  rw [hasItem, run?_bind, run?_peek, Option.bind_some]
  cases skipSpace cs with
  | nil => rfl
  | cons c r =>
    by_cases hc : c = ']'
    · subst hc
      rfl
    cases first with
    | true => simp
    | false =>
      by_cases hcomma : c = ','
      · subst hcomma
        simp only [List.head?_cons, Bool.false_eq_true, if_false, if_true, run?_bind, run?_next,
          Option.bind_some, run?_peek, List.tail_cons]
        cases skipSpace r with
        | nil => rfl
        | cons d r => by_cases hd : d = ']' <;> simp [hd]
      · simp [hcomma]

theorem run?_hasItem_comma {cs r : List Char} (h : skipSpace cs = ',' :: r) :
    (hasItem false).run? cs =
      match skipSpace r with
      | [] => none
      | ']' :: _ => none
      | r => some (true, r) := by
  rw [run?_hasItem, h]
  rfl

theorem run?_hasItem_done {first : Bool} {w : List Char} (hw : Blank w) (rest : List Char) :
    (hasItem first).run? (w ++ ']' :: rest) = some (false, ']' :: rest) := by
  rw [run?_hasItem, skipSpace_blank_append_cons hw rfl]
  rfl

theorem run?_hasItem_item {first : Bool} {w value : List Char} {t : Tree} (hw : Separator first w)
    (h : t.Spells value) (rest : List Char) :
    (hasItem first).run? (w ++ (value ++ rest)) = some (true, value ++ rest) := by
  have hspace {w : List Char} (hw : Blank w) := h.skipSpace_append hw rest
  obtain ⟨c, r, hvalue, hopens⟩ := h.exists_cons
  cases hw with
  | first hw =>
    rw [run?_hasItem, hspace hw, hvalue, List.cons_append]
    simp [hopens.ne.2.2.1]
  | comma hw hw' =>
    rw [List.append_assoc, List.cons_append,
      run?_hasItem_comma (skipSpace_blank_append_cons hw rfl _), hspace hw', hvalue,
      List.cons_append]
    simp [hopens.ne.2.2.1]

theorem run?_hasItem_cases {first more : Bool} {cs r : List Char}
    (h : (hasItem first).run? cs = some (more, r)) :
    (more = false ∧ ∃ w r', Blank w ∧ r = ']' :: r' ∧ cs = w ++ r) ∨
      (more = true ∧ ∃ w, Separator first w ∧ cs = w ++ r) := by
  rw [run?_hasItem] at h
  split at h
  · cases h
  · rename_i r' hr
    cases h
    obtain ⟨w, hw, hcs⟩ := exists_blank_append_skipSpace cs
    exact .inl ⟨rfl, w, r', hw, rfl, hr ▸ hcs⟩
  · rename_i c r' _ hr
    cases first with
    | true =>
      cases h
      exact .inr ⟨rfl, exists_separator_first hr⟩
    | false =>
      rw [if_neg Bool.false_ne_true] at h
      split at h
      · rename_i hc
        subst hc
        split at h <;> cases h
        exact .inr ⟨rfl, exists_separator_comma hr⟩
      · cases h

theorem run?_arrayEnd (cs : List Char) :
    arrayEnd.run? cs =
      match skipSpace cs with
      | ']' :: r => some ((), r)
      | _ => none := by
  rw [arrayEnd, run?_bind, run?_peek, Option.bind_some]
  cases skipSpace cs with
  | nil => rfl
  | cons c r =>
    by_cases hc : c = ']'
    · subst hc
      rfl
    by_cases hc' : c = ','
    · subst hc'
      simp only [List.head?_cons, run?_bind, run?_next, Option.bind_some, run?_peek, List.tail_cons]
      split <;> rfl
    · simp [hc]

theorem run?_arrayEnd_done {w : List Char} (hw : Blank w) (rest : List Char) :
    arrayEnd.run? (w ++ ']' :: rest) = some ((), rest) := by
  rw [run?_arrayEnd, skipSpace_blank_append_cons hw rfl]
  rfl

theorem run?_arrayEnd_item {first : Bool} {w value : List Char} {t : Tree} (hw : Separator first w)
    (h : t.Spells value) (rest : List Char) : arrayEnd.run? (w ++ (value ++ rest)) = none := by
  cases hw with
  | first hw =>
    have hspace := h.skipSpace_append hw rest
    obtain ⟨c, r, hvalue, hopens⟩ := h.exists_cons
    rw [run?_arrayEnd, hspace, hvalue, List.cons_append]
    simp [hopens.ne.2.2.1]
  | comma hw hw' =>
    rw [run?_arrayEnd, List.append_assoc, List.cons_append, skipSpace_blank_append_cons hw rfl]
    rfl

theorem exists_bracket_of_run?_arrayEnd {cs rest : List Char} {u : Unit}
    (h : arrayEnd.run? cs = some (u, rest)) : ∃ w, Blank w ∧ cs = w ++ ']' :: rest := by
  obtain ⟨w, hw, hcs⟩ := exists_blank_append_skipSpace cs
  rw [run?_arrayEnd] at h
  split at h
  · rename_i r hr
    cases h
    exact ⟨w, hw, hr ▸ hcs⟩
  · cases h

/-- The items of an array to its end. -/
def allItems (fields : List (Field σ)) (first : Bool) (s : σ) : Decoder σ := do
  let s ← items fields first s
  arrayEnd
  return s

theorem run?_allItems_nil (first : Bool) (s : σ) (cs : List Char) :
    (allItems [] first s).run? cs = (arrayEnd.run? cs).map fun p => (s, p.2) :=
  run?_bind_pure arrayEnd (fun _ => s) cs

theorem run?_allItems_cons (field : Field σ) (fields : List (Field σ)) (first : Bool) (s : σ)
    (cs : List Char) :
    (allItems (field :: fields) first s).run? cs =
      ((hasItem first).run? cs).bind fun p =>
        if p.1 then (field.read.run? p.2).bind fun q => (allItems fields false (q.1 s)).run? q.2
        else (arrayEnd.run? p.2).map fun q => (s, q.2) := by
  simp only [allItems, items, run?_bind, Option.bind_assoc]
  refine congrArg _ (funext fun p => ?_)
  obtain ⟨more, r⟩ := p
  cases more with
  | false =>
    have hend := run?_bind_pure arrayEnd (fun _ => s) r
    rw [run?_bind] at hend
    exact hend
  | true => simp [Option.bind_assoc]

section

variable {fields : List (Field σ)}

/-- Reading items gives each field in order its value. -/
theorem run?_allItems (hfields : ∀ f ∈ fields, f.read.Means f.read.ofTree) {first : Bool}
    {ts : List Tree} {cs : List Char} (hts : SpellsItems first ts cs) (s : σ) (rest : List Char) :
    (allItems fields first s).run? (cs ++ rest) = (itemsOf fields ts s).map (·, rest) := by
  induction fields generalizing first ts cs s with
  | nil =>
    rw [run?_allItems_nil]
    cases hts with
    | done hw =>
      rw [List.append_assoc, List.singleton_append, run?_arrayEnd_done hw]
      rfl
    | item hw h _ =>
      rw [List.append_assoc, List.append_assoc, run?_arrayEnd_item hw h]
      rfl
  | cons field fields ih =>
    rw [run?_allItems_cons]
    cases hts with
    | done hw =>
      rw [List.append_assoc, List.singleton_append, run?_hasItem_done hw]
      exact congrArg (Option.map fun q => (s, q.2)) (run?_arrayEnd_done blank_nil rest)
    | @item _ w value cs t ts hw h hts =>
      have hread := (hfields field List.mem_cons_self).reads blank_nil h (hts.valueEnd rest)
      have hrest := ih (fun f hf => hfields f (List.mem_cons_of_mem _ hf)) hts
      rw [List.nil_append] at hread
      rw [List.append_assoc, List.append_assoc, run?_hasItem_item hw h, Option.bind_some,
        if_pos rfl, hread, itemsOf]
      cases field.read.ofTree t with
      | none => rfl
      | some set => exact hrest (set s)

/-- Items that are read are items of the grammar. -/
theorem exists_spellsItems_of_run?_allItems (hfields : ∀ f ∈ fields, f.read.Means f.read.ofTree)
    {first : Bool} {s s' : σ} {cs rest : List Char}
    (h : (allItems fields first s).run? cs = some (s', rest)) :
    ∃ ts items, SpellsItems first ts items ∧ cs = items ++ rest := by
  induction fields generalizing first s cs with
  | nil =>
    rw [run?_allItems_nil] at h
    obtain ⟨p, hend, he⟩ := Option.map_eq_some_iff.1 h
    cases he
    obtain ⟨w, hw, rfl⟩ := exists_bracket_of_run?_arrayEnd hend
    exact ⟨[], _, .done hw, List.append_cons ..⟩
  | cons field fields ih =>
    rw [run?_allItems_cons] at h
    obtain ⟨p, hitem, hrest⟩ := Option.bind_eq_some_iff.1 h
    rcases run?_hasItem_cases hitem with ⟨hmore, w, r, hw, hr, rfl⟩ | ⟨hmore, w, hw, rfl⟩
    · rw [hmore, if_neg Bool.false_ne_true] at hrest
      obtain ⟨q, hend, he⟩ := Option.map_eq_some_iff.1 hrest
      cases he
      obtain ⟨w', hw', hp⟩ := exists_bracket_of_run?_arrayEnd hend
      refine ⟨[], _, .done (hw.append hw'), ?_⟩
      rw [hp]
      simp only [List.append_assoc, List.singleton_append]
    · rw [hmore, if_pos rfl] at hrest
      obtain ⟨q, hread, hrest⟩ := Option.bind_eq_some_iff.1 hrest
      obtain ⟨w', t, value, hw', ht, hp⟩ := (hfields field List.mem_cons_self).sound hread
      obtain ⟨ts, items, hts, hq⟩ :=
        ih (fun f hf => hfields f (List.mem_cons_of_mem _ hf)) hrest
      refine ⟨t :: ts, _, .item (hw.append_blank hw') ht hts, ?_⟩
      rw [hp, hq]
      simp only [List.append_assoc]

end

/-! ## Records -/

theorem run?_record (label : String) (fields : List (Field σ)) (blank : σ) (cs : List Char) :
    (record label fields blank).run? cs =
      match skipSpace cs with
      | [] => none
      | c :: r =>
        if c = '[' then (allItems fields true blank).run? r
        else if c = '\x7b' then
          ((members (recordMember fields) (blank, [])).run? r).map fun p => (p.1.1, p.2)
        else none := by
  rw [record, run?_bind, run?_peek, Option.bind_some]
  cases skipSpace cs with
  | nil => exact run?_wrongType _ _
  | cons c r =>
    by_cases hc : c = '['
    · subst hc
      rfl
    by_cases hc' : c = '\x7b'
    · subst hc'
      exact run?_bind_pure (members (recordMember fields) (blank, [])) Prod.fst r
    · simp [hc, hc']

section

variable {fields : List (Field σ)} (hfields : ∀ f ∈ fields, f.read.Means f.read.ofTree)

include hfields

theorem afterColon_recordMember (s : σ × List String) (key : String) :
    (recordMember fields s key).AfterColon (recordMemberOf fields s key) := by
  cases hfind : fields.find? (·.name = key) with
  | none =>
    have hof : recordMemberOf fields s key = fun _ => some s := by
      funext t
      rw [recordMemberOf, hfind]
    rw [hof, recordMember, hfind]
    exact (means_skip.bind_pure fun _ => s).afterColon
  | some field =>
    by_cases hkey : key ∈ s.2
    · have hof : recordMemberOf fields s key = fun _ => none := by
        funext t
        rw [recordMemberOf, hfind]
        exact if_pos hkey
      rw [hof, recordMember, hfind]
      dsimp only
      rw [if_pos hkey]
      exact afterColon_fail _
    · have hof : recordMemberOf fields s key =
          fun t => (fun set => (set s.1, key :: s.2)) <$> field.read.ofTree t := by
        funext t
        rw [recordMemberOf, hfind]
        exact if_neg hkey
      rw [hof, recordMember, hfind]
      dsimp only
      rw [if_neg hkey]
      exact ((hfields field (List.mem_of_find?_eq_some hfind)).bind_pure _).afterColon

theorem means_record (label : String) (blank : σ) :
    (record label fields blank).Means (recordOf fields blank) := by
  have hmember := afterColon_recordMember hfields
  refine .of_first (run?_record label fields blank) (fun {t c value rest} h hopens _ => ?_)
    fun {c r rest s} hrun => ?_
  · by_cases hc : c = '['
    · subst hc
      obtain ⟨ts, rfl⟩ := hopens.exists_eq_array
      cases h with
      | array hts => exact run?_allItems hfields hts blank rest
    rw [if_neg hc]
    by_cases hc' : c = '\x7b'
    · subst hc'
      obtain ⟨ms, rfl⟩ := hopens.exists_eq_object
      cases h with
      | object hms =>
        rw [if_pos rfl, run?_members, toOption_readMembers hmember hms, recordOf]
        cases foldMembers (recordMemberOf fields) (blank, []) ms <;> rfl
    rw [if_neg hc']
    cases t with
    | array ts => contradiction
    | object ms => contradiction
    | _ => rfl
  · split at hrun
    · rename_i hc
      subst hc
      obtain ⟨ts, items, hts, hr⟩ := exists_spellsItems_of_run?_allItems hfields hrun
      exact ⟨_, _, .array hts, hr⟩
    split at hrun
    · rename_i hc
      subst hc
      obtain ⟨p, hmembers, he⟩ := Option.map_eq_some_iff.1 hrun
      cases he
      rw [run?_members, toOption_eq_some_iff] at hmembers
      obtain ⟨ms, members, hms, hr⟩ := exists_spellsMembers_of_readMembers hmember hmembers
      exact ⟨_, _, .object hms, hr⟩
    · cases hrun

end

end FuseMount.Json.Decoder
