import FuseMount.Proofs.Options.Decomposition
import FuseMount.Proofs.Options.Precedence
import FuseMount.Proofs.Text.ByteOrder

/-!
# Options as a finite map

Options are built in several ways, one after the other: from a configuration, from a text, from
their own text, by setting single names, or from a configuration that they are put into. Below the
same changes are described on functions from names to values, without entries or their order. After
any changes the options are the function that is described, and what a client sees of them is what
it would see of that function: the names come in the order of their bytes, each of them once.

Results:

* `lists_entries`, `writes_iff`, `reads_iff`: how the entries and the text go with the function.
* `turns_iff`: one change of options is the described change of the function.
* `turnsAll_iff`: so are any changes, one after the other.
* `view`: what a client sees of options.
* `after_refines`: all of this in the options that any changes lead to.
-/

namespace FuseMount.Options

open TextMap (lastValue?)

/-! ## Specification -/

/-- Something that makes new options, possibly out of old ones. -/
inductive Change where
  /-- Take the options of a configuration on a platform. -/
  | derive (config : Config) (platform : Platform)
  /-- Take the options in a text. -/
  | read (text : String)
  /-- Take the options in the text of the old ones. -/
  | reread
  /-- Set the value of a name. -/
  | set (name value : String)
  /-- Take the options of a configuration in which nothing is set but the old ones. -/
  | adopt (platform : Platform)

/-- The options after a change. -/
def Change.apply (o : Options) : Change → Options
  | derive config platform => config.mountOptions platform
  | read text => parse text
  | reread => parse o.render
  | set name value => (o.exchange name value).2
  | adopt platform => ({ options := o } : Config).mountOptions platform

/-- The options after changes, where there are none at first. -/
def after (changes : List Change) : Options :=
  changes.foldl Change.apply ∅

/-- A finite map as nothing but the values of its names. -/
abbrev Values := String → Option String

/-- The entries that go with values: in the order of the names' bytes, without any others. -/
structure Lists (values : Values) (entries : List (String × String)) : Prop where
  increasing : entries.Pairwise fun a b => Utf8.encode a.1 < Utf8.encode b.1
  mem_iff : ∀ k v, (k, v) ∈ entries ↔ values k = some v

/-- The text that goes with values. -/
def Writes (values : Values) (text : String) : Prop :=
  ∃ entries, Lists values entries ∧ text = String.intercalate "," (entries.map entryText)

/-- The values that a text gives: those in the last segments with a name. -/
inductive Reads : String → Values → Prop
  | empty : Reads "" fun _ => none
  | segments {text : String} (t : Segmentation) (hne : text ≠ "") (ht : t.text = text.toList) :
      Reads text fun k => lastValue? k t.entries

/-- What a change makes of values. -/
inductive Turns (values : Values) : Change → Values → Prop
  | derive (config : Config) (platform : Platform) :
      Turns values (.derive config platform) fun k =>
        config.options.get? k <|> config.impliedValue? platform k
  | read {text : String} {new : Values} (h : Reads text new) : Turns values (.read text) new
  | reread {text : String} {new : Values} (hw : Writes values text) (hr : Reads text new) :
      Turns values .reread new
  | set (name value : String) :
      Turns values (.set name value) fun k => if k = name then some value else values k
  | adopt (platform : Platform) :
      Turns values (.adopt platform) fun k =>
        values k <|> ({} : Config).impliedValue? platform k

/-- What changes make of values, one after the other. -/
inductive TurnsAll : Values → List Change → Values → Prop
  | nil (values : Values) : TurnsAll values [] values
  | cons {values mid new : Values} {change : Change} {changes : List Change}
      (h : Turns values change mid) (hs : TurnsAll mid changes new) :
      TurnsAll values (change :: changes) new

/-- What a client sees of options. -/
structure View (o : Options) : Prop where
  /-- The names come in the order of their bytes, none of them twice. -/
  increasing : o.entries.Pairwise fun a b => Utf8.encode a.1 < Utf8.encode b.1
  size_eq : o.size = o.entries.length
  isEmpty_iff : o.isEmpty ↔ o.size = 0
  get?_eq_some_iff : ∀ k v, o.get? k = some v ↔ (k, v) ∈ o.entries
  contains_iff : ∀ k, o.contains k ↔ ∃ v, o.get? k = some v
  /-- Setting a name gives back the value that it had. -/
  fst_exchange : ∀ k v, (o.exchange k v).1 = o.get? k
  get?_exchange : ∀ k v, (o.exchange k v).2.get? k = some v
  get?_exchange_of_ne : ∀ k v k', k' ≠ k → (o.exchange k v).2.get? k' = o.get? k'
  size_exchange : ∀ k v,
    (o.exchange k v).2.size = if o.contains k then o.size else o.size + 1
  /-- Names that differ can be set in either order. -/
  exchange_comm : ∀ k v k' v', k ≠ k' →
    ((o.exchange k v).2.exchange k' v').2 = ((o.exchange k' v').2.exchange k v).2
  /-- The text depends on the values alone. -/
  writes_iff : ∀ text, Writes o.get? text ↔ text = o.render

/-! ## Entries and texts -/

theorem lists_entries (o : Options) : Lists o.get? o.entries where
  increasing := o.keysIncrease.imp Utf8.encode_lt_encode
  mem_iff k v := (o.get?_eq_some_iff k v).symm

/-- No other entries go with the values of options. -/
theorem Lists.eq_entries {o : Options} {entries : List (String × String)}
    (h : Lists o.get? entries) : entries = o.entries := by
  have hincrease : KeysIncrease entries := h.increasing.imp Utf8.encode_lt_encode_iff.1
  have hget : ∀ k, TextMap.get? ⟨entries, hincrease⟩ k = o.get? k := by
    intro k
    ext v
    rw [TextMap.get?_eq_some_iff, h.mem_iff]
  exact congrArg TextMap.entries (TextMap.ext_get? hget)

theorem writes_iff (o : Options) (text : String) : Writes o.get? text ↔ text = o.render := by
  constructor
  · rintro ⟨entries, hlists, rfl⟩
    rw [hlists.eq_entries]
    rfl
  · rintro rfl
    exact ⟨o.entries, lists_entries o, rfl⟩

/-- A text gives the values of the options that are read from it. -/
theorem reads_iff (text : String) (new : Values) : Reads text new ↔ new = (parse text).get? := by
  have of_tree {t : Segmentation} (hne : text ≠ "") (ht : t.text = text.toList) :
      (parse text).get? = fun k => lastValue? k t.entries := by
    funext k
    rw [parse_ne_empty hne, ← ht, Segmentation.segments_text, TextMap.get?_ofList]
  constructor
  · intro h
    cases h with
    | empty => rfl
    | segments t hne ht => exact (of_tree hne ht).symm
  · rintro rfl
    by_cases hne : text = ""
    · rw [hne]
      exact .empty
    · obtain ⟨t, ht⟩ := Segmentation.exists_text_eq text.toList
      rw [of_tree hne ht]
      exact .segments t hne ht

/-! ## Changes -/

theorem get?_mountOptions_adopt (o : Options) (platform : Platform) (k : String) :
    (({ options := o } : Config).mountOptions platform).get? k =
      (o.get? k <|> ({} : Config).impliedValue? platform k) := by
  rw [Config.get?_mountOptions]
  rfl

/-- A change of options is the change of their values. -/
theorem turns_iff (o : Options) (change : Change) (new : Values) :
    Turns o.get? change new ↔ new = (change.apply o).get? := by
  cases change with
  | derive config platform =>
    have h : (Change.apply o (.derive config platform)).get? = fun k =>
        config.options.get? k <|> config.impliedValue? platform k :=
      funext (config.get?_mountOptions platform)
    rw [h]
    exact ⟨fun ht => by cases ht; rfl, fun he => he ▸ .derive config platform⟩
  | read text =>
    rw [Change.apply, ← reads_iff]
    exact ⟨fun ht => by cases ht; assumption, .read⟩
  | reread =>
    rw [Change.apply, ← reads_iff]
    constructor
    · rintro (_ | _ | ⟨hw, hr⟩)
      rwa [← (writes_iff o _).1 hw]
    · exact .reread ((writes_iff o _).2 rfl)
  | set name value =>
    have h : (Change.apply o (.set name value)).get? = fun k =>
        if k = name then some value else o.get? k := by
      funext k
      rw [Change.apply, TextMap.snd_exchange, TextMap.get?_insert]
    rw [h]
    exact ⟨fun ht => by cases ht; rfl, fun he => he ▸ .set name value⟩
  | adopt platform =>
    have h : (Change.apply o (.adopt platform)).get? = fun k =>
        o.get? k <|> ({} : Config).impliedValue? platform k :=
      funext (get?_mountOptions_adopt o platform)
    rw [h]
    exact ⟨fun ht => by cases ht; rfl, fun he => he ▸ .adopt platform⟩

/-- Changes of options, one after the other, are the changes of their values. -/
theorem turnsAll_iff (o : Options) (changes : List Change) (new : Values) :
    TurnsAll o.get? changes new ↔ new = (changes.foldl Change.apply o).get? := by
  induction changes generalizing o with
  | nil =>
    constructor
    · rintro ⟨⟩
      rfl
    · rintro rfl
      exact .nil _
  | cons change changes ih =>
    rw [List.foldl_cons, ← ih]
    constructor
    · rintro (_ | ⟨h, hs⟩)
      rwa [(turns_iff o change _).1 h] at hs
    · exact .cons ((turns_iff o change _).2 rfl)

/-! ## What is seen -/

theorem view (o : Options) : View o where
  increasing := (lists_entries o).increasing
  size_eq := rfl
  isEmpty_iff := by
    rw [TextMap.isEmpty, TextMap.size, List.isEmpty_iff, List.length_eq_zero_iff]
  get?_eq_some_iff := o.get?_eq_some_iff
  contains_iff k := by rw [TextMap.contains, Option.isSome_iff_exists]
  fst_exchange := o.fst_exchange
  get?_exchange k v := by rw [o.snd_exchange, TextMap.get?_insert, if_pos rfl]
  get?_exchange_of_ne k v k' hne := by rw [o.snd_exchange, TextMap.get?_insert, if_neg hne]
  size_exchange k v := by
    rw [o.snd_exchange, TextMap.size_insert, TextMap.contains]
    cases o.get? k <;> rfl
  exchange_comm k v k' v' hne := by
    simp only [TextMap.snd_exchange]
    exact o.insert_insert_of_ne hne v v'
  writes_iff := writes_iff o

/-! ## Main theorem -/

/-- **Options are a finite map.** Whatever changes have been made, the values are those that the
changes make of no values at all, a client sees these values and nothing else, and other changes
that lead to the same values lead to the same text. -/
theorem after_refines (changes : List Change) :
    (∀ values, TurnsAll (fun _ => none) changes values ↔ values = (after changes).get?) ∧
      View (after changes) ∧
      ∀ changes', (after changes').get? = (after changes).get? →
        (after changes').render = (after changes).render := by
  refine ⟨turnsAll_iff ∅ changes, view _, fun changes' h => ?_⟩
  exact (writes_iff _ _).1 (h ▸ (writes_iff (after changes') _).2 rfl)

/-- Neither the order in which names are set nor values that are overwritten show in the text. -/
example : (after [.set "b" "1", .set "a" "2"]).render = "a=2,b=1" ∧
    (after [.set "a" "0", .set "b" "1", .set "a" "2", .reread]).render = "a=2,b=1" := by
  decide +kernel

end FuseMount.Options
