import FuseMount.Proofs.Config.Fields

/-!
# Spellings of configurations

A configuration can be written in JSON in many ways: with its fields in any order, among members
that are no fields, with any white space, and as an array of the values of the first fields. All of
them mean the same. What is left out has its default, and what is there twice is an error, but for
the keys of the options, of which the last one counts.

Results:

* `exists_isObject`, `exists_isArray`: there is a text with any members, and with any items.
* `toOption_decode_of_isObject`, `toOption_decode_of_isArray`: what texts mean depends on their
  members, or items, alone.
* `decode_spellings`: which texts mean the same, and which ones are rejected.
-/

namespace FuseMount

open Json

namespace Config

/-! ## Specification -/

/-- The names of the fields, in the order in which an array gives their values. -/
def fieldNames : List String :=
  ["fs_name", "read_only", "disable_writeback_caching", "enable_vnode_caching",
    "enable_symlink_caching", "enable_no_open_support", "enable_no_opendir_support",
    "disable_default_permissions", "use_vectored_read", "volume_name", "implementation", "options",
    "subtype", "enable_async_reads", "enable_parallel_dir_ops", "enable_atomic_trunc",
    "enable_readdirplus", "enable_auto_readdirplus"]

/-- The text is an object with these members, whatever white space is in it. The names are meant,
not how they are written. -/
def IsObject (members : List (String × Tree)) (text : String) : Prop :=
  ∃ ms, Named ms members ∧ IsDocument (.object ms) text

/-- The text is an array of these items, whatever white space is in it. -/
def IsArray (items : List Tree) (text : String) : Prop :=
  IsDocument (.array items) text

/-- The members that are fields, in the order in which they stand. -/
def fieldMembers (members : List (String × Tree)) : List (String × Tree) :=
  members.filter fun m => m.1 ∈ fieldNames

/-- Configurations are read from any of their spellings. -/
structure Spellings (read : String → Except Fault Config) : Prop where
  /-- Every configuration is read from the document that it is written as. -/
  written : ∀ c : Config, read c.encode = .ok c
  /-- An object without fields is the configuration that holds its defaults. -/
  no_field : ∀ {members : List (String × Tree)} {text : String}, IsObject members text →
    fieldMembers members = [] → read text = .ok {}
  /-- What is accepted is an object or an array. -/
  accepted : ∀ {text : String} {c : Config}, read text = .ok c →
    (∃ members, IsObject members text) ∨ ∃ items, IsArray items text
  /-- White space, the order of the members and members that are no fields do not count. -/
  same_fields : ∀ {members members' : List (String × Tree)} {text text' : String},
    IsObject members text → IsObject members' text' →
    (fieldMembers members).Perm (fieldMembers members') →
    (read text).toOption = (read text').toOption
  /-- A field that is there twice is an error. -/
  repeated_field : ∀ {members : List (String × Tree)} {text : String}, IsObject members text →
    ¬((fieldMembers members).map (·.1)).Nodup → ∃ e, read text = .error e
  /-- The options are an object of texts. -/
  options_texts : ∀ {before after : List (String × Tree)} {t : Tree} {text : String} {c : Config},
    IsObject (before ++ ("options", t) :: after) text → read text = .ok c →
    ∃ pairs, Decoder.IsTexts pairs t
  /-- Any object of texts may stand in the place of the options. Of its keys that are there more
  than once the last one counts. -/
  options : ∀ {before after : List (String × Tree)} {t t' : Tree} {text text' : String} {c : Config}
    {pairs : List (String × String)},
    IsObject (before ++ ("options", t) :: after) text → read text = .ok c →
    Decoder.IsTexts pairs t' → IsObject (before ++ ("options", t') :: after) text' →
    ∃ m : TextMap, read text' = .ok { c with options := m } ∧
      ∀ k, m.get? k = TextMap.lastValue? k pairs
  /-- An array means the same as an object that gives its items to the first fields. -/
  array : ∀ {items : List Tree} {text text' : String}, items.length ≤ 18 → IsArray items text →
    IsObject (fieldNames.zip items) text' → (read text).toOption = (read text').toOption
  /-- An array with more items than there are fields is an error. -/
  long_array : ∀ {items : List Tree} {text : String}, 18 < items.length → IsArray items text →
    ∃ e, read text = .error e

/-! ## Texts for all members and items -/

theorem exists_named (members : List (String × Tree)) : ∃ ms, Named ms members := by
  induction members with
  | nil => exact ⟨[], .nil⟩
  | cons m members ih =>
    obtain ⟨ms, hms⟩ := ih
    obtain ⟨us, -, hus⟩ := exists_units m.1
    exact ⟨(us, m.2) :: ms, .cons ⟨hus, rfl⟩ hms⟩

theorem isDocument_text (t : Tree) : IsDocument t (String.ofList t.text) := by
  refine ⟨[], t.text, [], blank_nil, t.spells_text, blank_nil, ?_⟩
  rw [String.toList_ofList, List.append_nil, List.nil_append]

/-- There is a text with any members. -/
theorem exists_isObject (members : List (String × Tree)) : ∃ text, IsObject members text := by
  obtain ⟨ms, hms⟩ := exists_named members
  exact ⟨_, ms, hms, isDocument_text _⟩

/-- There is a text with any items. -/
theorem exists_isArray (items : List Tree) : ∃ text, IsArray items text :=
  ⟨_, isDocument_text _⟩

/-! ## What texts mean -/

/-- The fields as the decoder sees them. -/
def readers : List (Decoder.Field Config) :=
  record.fields.map RecordField.reader

theorem map_name_readers : readers.map (·.name) = fieldNames := rfl

theorem toOption_decode_of_isObject {members : List (String × Tree)} {text : String}
    (h : IsObject members text) :
    (decode text).toOption = Decoder.objectOf readers {} members := by
  obtain ⟨ms, hnamed, htext⟩ := h
  have hread := lawful_record.means.toOption_decode_of_isDocument htext
  rwa [Decoder.recordOf, Decoder.foldMembers_of_named hnamed] at hread

theorem toOption_decode_of_isArray {items : List Tree} {text : String} (h : IsArray items text) :
    (decode text).toOption = Decoder.itemsOf readers items {} :=
  lawful_record.means.toOption_decode_of_isDocument h

theorem isObject_or_isArray {text : String} {c : Config} (h : decode text = .ok c) :
    (∃ members, IsObject members text) ∨ ∃ items, IsArray items text := by
  obtain ⟨t, htext, hread⟩ := lawful_record.means.decode_eq_ok_iff.1 h
  cases t with
  | array items => exact .inr ⟨items, htext⟩
  | object ms =>
    obtain ⟨s, hfold, -⟩ := Option.map_eq_some_iff.1 hread
    obtain ⟨members, hnamed⟩ := Decoder.exists_named_of_foldMembers hfold
    exact .inl ⟨members, ms, hnamed, htext⟩
  | _ => cases hread

theorem exists_error_of_toOption {α ε : Type} {r : Except ε α} (h : r.toOption = none) :
    ∃ e, r = .error e := by
  cases r with
  | error e => exact ⟨e, rfl⟩
  | ok a => cases h

/-! ## Options -/

/-- The field with the options as the decoder sees it. -/
def optionsReader : Decoder.Field Config :=
  RecordField.reader <| .make "options" .textMap (·.options) (fun v c => { c with options := v })
    TextMap.isEmpty

theorem find?_optionsReader :
    readers.find? (·.name = optionsReader.name) = some optionsReader :=
  Decoder.find?_of_mem lawful_record.names_readers (List.mem_of_getElem? (i := 11) rfl)

theorem ofTree_optionsReader (t : Tree) : optionsReader.read.ofTree t =
    (fun v c => { c with options := v }) <$> Decoder.textMapOf t :=
  (Decoder.means_textMap.bind_pure _).ofTree_eq t

/-- What another value of the options changes. -/
theorem objectOf_options {before after : List (String × Tree)} {t : Tree} {c : Config}
    (h : Decoder.objectOf readers {} (before ++ ("options", t) :: after) = some c) :
    ∃ pairs, Decoder.IsTexts pairs t ∧ ∀ {t' : Tree} {pairs' : List (String × String)},
      Decoder.IsTexts pairs' t' →
      Decoder.objectOf readers {} (before ++ ("options", t') :: after) =
        some { c with options := .ofList pairs' } := by
  obtain ⟨c₀, set, hset, rfl, hreplace⟩ := Decoder.objectOf_replace
    lawful_record.independent_readers find?_optionsReader h
  rw [ofTree_optionsReader] at hset
  obtain ⟨m, hm, rfl⟩ := Option.map_eq_some_iff.1 hset
  obtain ⟨pairs, ht, -⟩ := Decoder.textMapOf_eq_some_iff.1 hm
  refine ⟨pairs, ht, fun {t' pairs'} ht' => (hreplace t').trans ?_⟩
  rw [ofTree_optionsReader, Decoder.textMapOf_eq_some_iff.2 ⟨pairs', ht', rfl⟩]
  rfl

/-! ## Spellings -/

/-- **Spellings of a configuration.** A configuration is read from the fields that a text has, not
from how it is written. -/
theorem decode_spellings : Spellings decode where
  written := lawful_record.codec.decode_render
  no_field {members text} htext hnone := by
    have hobject : Decoder.objectOf readers {} (Decoder.known readers members) = some {} :=
      congrArg _ hnone
    rw [← toOption_eq_some_iff, toOption_decode_of_isObject htext, ← Decoder.objectOf_known, hobject]
  accepted := isObject_or_isArray
  same_fields htext htext' hperm := by
    rw [toOption_decode_of_isObject htext, toOption_decode_of_isObject htext']
    exact Decoder.objectOf_perm lawful_record.independent_readers hperm
  repeated_field htext hrepeated := by
    refine exists_error_of_toOption ?_
    rw [toOption_decode_of_isObject htext]
    exact Decoder.objectOf_of_repeated hrepeated
  options_texts htext h := by
    rw [← toOption_eq_some_iff, toOption_decode_of_isObject htext] at h
    obtain ⟨pairs, ht, -⟩ := objectOf_options h
    exact ⟨pairs, ht⟩
  options {before after t t' text text' c pairs} htext h ht' htext' := by
    rw [← toOption_eq_some_iff, toOption_decode_of_isObject htext] at h
    obtain ⟨-, -, hreplace⟩ := objectOf_options h
    refine ⟨.ofList pairs, ?_, TextMap.get?_ofList pairs⟩
    rw [← toOption_eq_some_iff, toOption_decode_of_isObject htext', hreplace ht']
  array hlength htext htext' := by
    rw [toOption_decode_of_isArray htext, toOption_decode_of_isObject htext', ← map_name_readers]
    exact (Decoder.objectOf_zip lawful_record.names_readers {} hlength).symm
  long_array hlength htext := by
    refine exists_error_of_toOption ?_
    rw [toOption_decode_of_isArray htext]
    exact Decoder.itemsOf_eq_none (show readers.length < _ from hlength) _

/-- A field among others, an unknown member before it, and an array of two items. -/
example : (decode "\x7b\"read_only\": true\x7d").toOption = some { readOnly := true } ∧
    (decode "\x7b\"x\":[1e999,\"\\ud800\"],\"read\\u005fonly\":true\x7d").toOption =
      some { readOnly := true } ∧
    (decode "[\"\",true]").toOption = some { readOnly := true } := by
  decide +kernel

end Config

end FuseMount
