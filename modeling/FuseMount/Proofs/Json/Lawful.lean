import FuseMount.Json.Codec
import FuseMount.Proofs.Json.Object
import FuseMount.Proofs.Json.Writing
import FuseMount.Proofs.TextMap.Lookup

/-!
# Lawful codecs

A codec is lawful if it reads by a function on trees and reads back what it writes. Codecs of single
values are lawful, and so is the codec of a record whose fields are.

A field of a record gets one part of the record and sets it, so it goes with a function that copies
this part from one record to another (`RecordField.Copies`). A record is lawful if its fields have
different names, if copies do not disturb each other, and if all of them together copy the whole
record onto the one that has no fields (`Record.Lawful`). A part that is not written needs no copy
then, since it is what the record without fields has.

Results:

* `lawful_text`, `lawful_toggle`, `lawful_textMap`, `lawful_variant`, `Codec.Lawful.optional`: the
  codecs of single values.
* `Record.Lawful.codec`: the codec of a record type.
* `Codec.Lawful.decode_render`: a document that is written is read back.
* `Codec.Lawful.rewrite_rewrite`: a document that has been written again does not change any more.
-/

namespace FuseMount.Json

variable {α σ : Type}

/-! ## Specification -/

/-- A codec that reads by a function on trees, and reads back what it writes. -/
structure Codec.Lawful (codec : Codec α) : Prop where
  means : codec.decoder.Means codec.decoder.ofTree
  written : ∀ a, ∃ t, Writes (codec.toJson a) t ∧ codec.decoder.ofTree t = some a

/-- The function copies what a field holds from one record to another. -/
structure RecordField.Copies (blank : σ) (field : RecordField σ) (copy : σ → σ → σ) : Prop where
  means : field.decoder.Means field.decoder.ofTree
  /-- What is read is a copy of what some record holds. -/
  of_read : ∀ {t : Tree} {set : σ → σ}, field.decoder.ofTree t = some set → ∃ s, set = copy s
  /-- What is not written is there without the field. -/
  of_none : ∀ {s : σ}, field.toJson? s = none → copy s blank = blank
  /-- What is written is read back. -/
  of_some : ∀ {s : σ} {j : Json}, field.toJson? s = some j →
    ∃ t, Writes j t ∧ field.decoder.ofTree t = some (copy s)

/-- Copies that do not disturb each other. -/
def Commute (copy copy' : σ → σ → σ) : Prop :=
  ∀ s s' x, copy s (copy' s' x) = copy' s' (copy s x)

/-- A record type whose fields have different names, do not disturb each other, and make up the
record. -/
structure Record.Lawful (record : Record σ) : Prop where
  names : (record.fields.map (·.name)).Nodup
  copies : ∃ copies, List.Forall₂ (RecordField.Copies record.blank) record.fields copies ∧
    copies.Pairwise Commute ∧ ∀ s, copies.foldl (fun x copy => copy s x) record.blank = s

/-! ## Documents -/

/-- A document read and written again. -/
def Codec.rewrite (codec : Codec α) (document : String) : Except Fault String :=
  (fun a => (codec.toJson a).render) <$> codec.decoder.decode document

section

variable {codec : Codec α} (h : codec.Lawful)

include h

/-- A document that is written is read back. -/
theorem Codec.Lawful.decode_render (a : α) :
    codec.decoder.decode (codec.toJson a).render = .ok a := by
  obtain ⟨t, ht, hread⟩ := h.written a
  refine h.means.decode_eq_ok_iff.2 ⟨t, ⟨[], _, [], blank_nil, ht, blank_nil, ?_⟩, hread⟩
  rw [List.append_nil, List.nil_append]

/-- Values with the same document are equal. -/
theorem Codec.Lawful.render_injective : Function.Injective fun a => (codec.toJson a).render := by
  intro a b hab
  have hdecode := h.decode_render b
  dsimp only at hab
  rw [← hab, h.decode_render a] at hdecode
  exact Except.ok.inj hdecode

/-- A document that has been written again does not change any more. -/
theorem Codec.Lawful.rewrite_rewrite (document : String) :
    codec.rewrite document >>= codec.rewrite = codec.rewrite document := by
  unfold Codec.rewrite
  cases codec.decoder.decode document with
  | error e => rfl
  | ok a =>
    change (fun a => (codec.toJson a).render) <$> codec.decoder.decode (codec.toJson a).render = _
    rw [h.decode_render a]

end

/-! ## Single values -/

theorem Codec.lawful_of_means {codec : Codec α} {m : Tree → Option α}
    (hmeans : codec.decoder.Means m)
    (hwritten : ∀ a, ∃ t, Writes (codec.toJson a) t ∧ m t = some a) : codec.Lawful := by
  obtain rfl : codec.decoder.ofTree = m := funext hmeans.ofTree_eq
  exact ⟨hmeans, hwritten⟩

theorem lawful_text : Codec.text.Lawful := by
  refine Codec.lawful_of_means Decoder.means_string fun s => ?_
  obtain ⟨us, hwrites, hus⟩ := exists_writes_string s
  exact ⟨.string us, hwrites, hus⟩

theorem lawful_toggle : Codec.toggle.Lawful :=
  Codec.lawful_of_means Decoder.means_bool fun b => ⟨.bool b, writes_bool b, rfl⟩

theorem lawful_variant {all : List α} {name : α → String}
    (h : ∀ a, Codec.named all name (name a) = some a) : (Codec.variant all name).Lawful := by
  refine Codec.lawful_of_means (Decoder.means_variant _ _) fun a => ?_
  obtain ⟨us, hwrites, hus⟩ := exists_writes_string (name a)
  exact ⟨.string us, hwrites, by rw [Decoder.variantOf, hus]; exact h a⟩

/-- The entries of a map are written as members that give texts to their keys. -/
theorem exists_writes_entries (entries : List (String × String)) :
    ∃ named : List (String × Tree),
      List.Forall₂ (fun m n => n.1 = m.1 ∧ Writes m.2 n.2)
          (entries.map fun (k, v) => (k, Json.string v)) named ∧
        List.Forall₂ (fun m p => m.1 = p.1 ∧ Decoder.stringOf m.2 = some p.2) named entries := by
  induction entries with
  | nil => exact ⟨[], .nil, .nil⟩
  | cons e entries ih =>
    obtain ⟨named, hwrites, htexts⟩ := ih
    obtain ⟨us, hstring, hus⟩ := exists_writes_string e.2
    exact ⟨(e.1, .string us) :: named, .cons ⟨rfl, hstring⟩ hwrites, .cons ⟨rfl, hus⟩ htexts⟩

theorem lawful_textMap : Codec.textMap.Lawful := by
  refine Codec.lawful_of_means Decoder.means_textMap fun m => ?_
  obtain ⟨named, hentries, htexts⟩ := exists_writes_entries m.entries
  obtain ⟨ms, hnamed, hwrites⟩ := exists_writes_object hentries
  refine ⟨.object ms, hwrites, Decoder.textMapOf_eq_some_iff.2 ⟨m.entries, ?_, ?_⟩⟩
  · exact .object hnamed htexts
  · exact m.ofList_entries.symm

theorem Codec.Lawful.optional {codec : Codec α} (h : codec.Lawful)
    (hnull : codec.decoder.ofTree .null = none) : (Codec.optional codec).Lawful := by
  refine Codec.lawful_of_means h.means.optional fun a? => ?_
  cases a? with
  | none => exact ⟨.null, writes_null, rfl⟩
  | some a =>
    obtain ⟨t, ht, hread⟩ := h.written a
    refine ⟨t, ht, ?_⟩
    rw [Decoder.optionalOf.eq_2 _ _ (fun he => by rw [he, hnull] at hread; cases hread), hread]
    rfl

/-! ## Fields -/

/-- A field as its decoder sees it. -/
def RecordField.reader (field : RecordField σ) : Decoder.Field σ :=
  ⟨field.name, field.decoder⟩

/-- A field that is made from a lawful codec copies what it gets and sets. -/
theorem copies_make {codec : Codec α} (h : codec.Lawful) {name : String} {get : σ → α}
    {set : α → σ → σ} {isBlank : α → Bool} {blank : σ} (hget : ∀ v, get (set v blank) = v)
    (hblank : ∀ v, isBlank v = true → set v blank = blank) :
    (RecordField.make name codec get set isBlank).Copies blank fun s => set (get s) := by
  have hmeans : (RecordField.make name codec get set isBlank).decoder.Means
      fun t => set <$> codec.decoder.ofTree t := h.means.bind_pure set
  refine ⟨?_, ?_, ?_, ?_⟩
  · rwa [funext hmeans.ofTree_eq]
  · intro t f hread
    rw [hmeans.ofTree_eq] at hread
    obtain ⟨v, -, rfl⟩ := Option.map_eq_some_iff.1 hread
    exact ⟨set v blank, congrArg set (hget v).symm⟩
  · intro s hnone
    refine hblank _ ?_
    by_contra hwritten
    dsimp only [RecordField.make] at hnone
    rw [if_neg hwritten] at hnone
    cases hnone
  · intro s j hsome
    obtain ⟨t, ht, hread⟩ := h.written (get s)
    refine ⟨t, ?_, by rw [hmeans.ofTree_eq, hread]; rfl⟩
    dsimp only [RecordField.make] at hsome
    split at hsome
    · cases hsome
    · cases hsome
      exact ht

section

variable {name : String} {blank : σ}

theorem copies_text {get : σ → String} {set : String → σ → σ} (hget : ∀ v, get (set v blank) = v)
    (hblank : set "" blank = blank) :
    (RecordField.make name .text get set String.isEmpty).Copies blank fun s => set (get s) :=
  copies_make lawful_text hget fun v hv => by rw [String.isEmpty_iff.1 hv, hblank]

theorem copies_toggle {get : σ → Bool} {set : Bool → σ → σ} (hget : ∀ v, get (set v blank) = v)
    (hblank : set false blank = blank) :
    (RecordField.make name .toggle get set not).Copies blank fun s => set (get s) :=
  copies_make lawful_toggle hget fun v hv => by
    cases v with
    | false => exact hblank
    | true => cases hv

theorem copies_textMap {get : σ → TextMap} {set : TextMap → σ → σ}
    (hget : ∀ v, get (set v blank) = v) (hblank : set ∅ blank = blank) :
    (RecordField.make name .textMap get set TextMap.isEmpty).Copies blank fun s => set (get s) :=
  copies_make lawful_textMap hget fun v hv => by
    have hempty : v = ∅ := TextMap.ext_entries (List.isEmpty_iff.1 hv)
    rw [hempty, hblank]

theorem copies_optional {codec : Codec α} (h : codec.Lawful)
    (hnull : codec.decoder.ofTree .null = none) {get : σ → Option α} {set : Option α → σ → σ}
    (hget : ∀ v, get (set v blank) = v) (hblank : set none blank = blank) :
    (RecordField.make name (.optional codec) get set Option.isNone).Copies blank
      fun s => set (get s) :=
  copies_make (h.optional hnull) hget fun v hv => by rw [Option.isNone_iff_eq_none.1 hv, hblank]

end

section

variable {blank : σ} {fields : List (RecordField σ)} {copies : List (σ → σ → σ)}
  (hcopies : List.Forall₂ (RecordField.Copies blank) fields copies)

include hcopies

theorem exists_copy_of_mem {field : RecordField σ} (h : field ∈ fields) :
    ∃ copy ∈ copies, field.Copies blank copy := by
  induction hcopies with
  | nil => exact absurd h List.not_mem_nil
  | @cons f copy fields copies hcopy _ ih =>
    rcases List.mem_cons.1 h with rfl | h
    · exact ⟨copy, List.mem_cons_self, hcopy⟩
    · obtain ⟨copy', hmem, hcopy'⟩ := ih h
      exact ⟨copy', List.mem_cons_of_mem _ hmem, hcopy'⟩

theorem means_of_mem_readers : ∀ f ∈ fields.map RecordField.reader, f.read.Means f.read.ofTree := by
  intro f hf
  obtain ⟨field, hfield, rfl⟩ := List.mem_map.1 hf
  obtain ⟨copy, -, hcopy⟩ := exists_copy_of_mem hcopies hfield
  exact hcopy.means

/-- Fields whose copies do not disturb each other may be read in any order. -/
theorem independent_readers (hcomm : copies.Pairwise Commute) :
    (fields.map RecordField.reader).Pairwise Decoder.Independent := by
  induction hcopies with
  | nil => exact .nil
  | @cons f copy fields copies hcopy hrest ih =>
    obtain ⟨hhead, hcomm⟩ := List.pairwise_cons.1 hcomm
    refine List.pairwise_cons.2 ⟨fun g hg => ?_, ih hcomm⟩
    obtain ⟨field, hfield, rfl⟩ := List.mem_map.1 hg
    obtain ⟨copy', hmem, hcopy'⟩ := exists_copy_of_mem hrest hfield
    intro t u set set' hset hset' x
    obtain ⟨s, rfl⟩ := hcopy.of_read hset
    obtain ⟨s', rfl⟩ := hcopy'.of_read hset'
    exact hhead copy' hmem s s' x

/-- The members that are written for fields copy what the record holds. Fields that are not written
are no loss where the record that is read into has what the record without fields has. -/
theorem exists_writes_members {readers : List (Decoder.Field σ)}
    (hfind : ∀ f ∈ fields, readers.find? (·.name = f.name) = some f.reader)
    (hcomm : copies.Pairwise Commute) (s : σ) {x : σ}
    (hx : ∀ copy ∈ copies, copy s blank = blank → copy s x = x) :
    ∃ named : List (String × Tree),
      List.Forall₂ (fun m n => n.1 = m.1 ∧ Writes m.2 n.2) (Record.toMembers fields s) named ∧
        named.foldlM (Decoder.assign readers) x =
          some (copies.foldl (fun x copy => copy s x) x) := by
  -- The record that is read into changes from field to field, and `hx` has to hold of all of them.
  induction hcopies generalizing x with
  | nil => exact ⟨[], .nil, rfl⟩
  | @cons f copy fields copies hcopy _ ih =>
    obtain ⟨hhead, hcomm⟩ := List.pairwise_cons.1 hcomm
    have hfind' : ∀ g ∈ fields, readers.find? (·.name = g.name) = some g.reader :=
      fun g hg => hfind g (List.mem_cons_of_mem _ hg)
    rw [Record.toMembers, List.filterMap_cons, List.foldl_cons]
    cases hwrite : f.toJson? s with
    | none =>
      rw [hx copy List.mem_cons_self (hcopy.of_none hwrite)]
      exact ih hfind' hcomm fun copy' hmem => hx copy' (List.mem_cons_of_mem _ hmem)
    | some j =>
      obtain ⟨t, ht, hread⟩ := hcopy.of_some hwrite
      have hx' : ∀ copy' ∈ copies, copy' s blank = blank → copy' s (copy s x) = copy s x :=
        fun copy' hmem hblank => by
          rw [← hhead copy' hmem, hx copy' (List.mem_cons_of_mem _ hmem) hblank]
      obtain ⟨named, hwrites, hfold⟩ := ih hfind' hcomm hx'
      refine ⟨(f.name, t) :: named, .cons ⟨rfl, ht⟩ hwrites, ?_⟩
      rw [List.foldlM_cons, Decoder.assign, hfind f List.mem_cons_self]
      dsimp only [RecordField.reader]
      rw [hread]
      exact hfold

end

/-! ## Records -/

theorem map_fst_of_writes {members : List (String × Json)} {named : List (String × Tree)}
    (h : List.Forall₂ (fun m n => n.1 = m.1 ∧ Writes m.2 n.2) members named) :
    named.map (·.1) = members.map (·.1) := by
  induction h with
  | nil => rfl
  | cons hm _ ih => rw [List.map_cons, List.map_cons, hm.1, ih]

theorem map_fst_toMembers_sublist (fields : List (RecordField σ)) (s : σ) :
    ((Record.toMembers fields s).map (·.1)).Sublist (fields.map (·.name)) := by
  induction fields with
  | nil => exact .slnil
  | cons f fields ih =>
    rw [Record.toMembers, List.filterMap_cons, List.map_cons]
    cases f.toJson? s with
    | none => exact ih.cons f.name
    | some j => exact ih.cons_cons f.name

section

variable {record : Record σ} (h : record.Lawful)

include h

theorem Record.Lawful.means : record.codec.decoder.Means
    (Decoder.recordOf (record.fields.map RecordField.reader) record.blank) := by
  obtain ⟨copies, hcopies, -, -⟩ := h.copies
  exact Decoder.means_record (means_of_mem_readers hcopies) _ _

theorem Record.Lawful.names_readers :
    ((record.fields.map RecordField.reader).map (·.name)).Nodup := by
  rw [List.map_map]
  exact h.names

theorem Record.Lawful.independent_readers :
    (record.fields.map RecordField.reader).Pairwise Decoder.Independent := by
  obtain ⟨copies, hcopies, hcomm, -⟩ := h.copies
  exact Json.independent_readers hcopies hcomm

/-- The codec of a lawful record type is lawful. -/
theorem Record.Lawful.codec : record.codec.Lawful := by
  obtain ⟨copies, hcopies, hcomm, hwhole⟩ := h.copies
  refine Codec.lawful_of_means h.means fun s => ?_
  have hfind : ∀ f ∈ record.fields, (record.fields.map RecordField.reader).find?
      (·.name = f.name) = some f.reader := fun f hf =>
    Decoder.find?_of_mem h.names_readers (List.mem_map_of_mem hf)
  obtain ⟨named, hwrites, hfold⟩ :=
    exists_writes_members hcopies hfind hcomm s fun _ _ hblank => hblank
  obtain ⟨ms, hnamed, ht⟩ := exists_writes_object hwrites
  refine ⟨.object ms, ht, ?_⟩
  rw [hwhole] at hfold
  have hnodup : (named.map (·.1)).Nodup := by
    rw [map_fst_of_writes hwrites]
    exact h.names.sublist (map_fst_toMembers_sublist _ s)
  rw [Decoder.recordOf, Decoder.foldMembers_of_named hnamed,
    Decoder.foldlM_eq_assign hnodup fun _ _ => List.not_mem_nil, hfold]

end

end FuseMount.Json
