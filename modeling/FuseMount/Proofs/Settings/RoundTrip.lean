import FuseMount.Proofs.Config.Fields
import FuseMount.Settings

/-!
# The round trip of configurations through JSON

Configurations of mounts and settings of the command line are written as JSON and read back. Parts
that hold what they hold by default are left out, and what is missing is filled in by the same
defaults, so nothing is lost; settings that are there but hold nothing stay apart from settings that
are not there.

Results:

* `lawful_record`: the record type of settings is lawful.
* `json_roundTrip`: what is written is read back, so that writing is injective and writing again
  changes nothing.
-/

namespace FuseMount

open Json

theorem LogFormat.lawful_codec : LogFormat.codec.Lawful :=
  lawful_variant fun f => by cases f <;> decide

theorem Logging.lawful_record : Logging.record.Lawful where
  names := by decide
  copies := by
    refine ⟨_, .cons (copies_text (fun _ => rfl) rfl) <|
      .cons (copies_optional LogFormat.lawful_codec rfl (fun _ => rfl) rfl) .nil, ?_, fun _ => rfl⟩
    exact List.pairwise_pair.2 fun _ _ _ => rfl

namespace Settings

theorem lawful_record : record.Lawful where
  names := by decide
  copies := by
    refine ⟨_, .cons (copies_optional Config.lawful_record.codec rfl (fun _ => rfl) rfl) <|
      .cons (copies_optional Platform.lawful_codec rfl (fun _ => rfl) rfl) <|
      .cons (copies_optional Logging.lawful_record.codec rfl (fun _ => rfl) rfl) .nil, ?_,
      fun _ => rfl⟩
    simp only [List.pairwise_cons, List.forall_mem_cons]
    repeat' apply And.intro
    all_goals
      first
      | exact fun _ _ _ => rfl
      | exact fun _ h => absurd h List.not_mem_nil
      | exact .nil

/-- **Round trip.** Configurations of mounts and settings of the command line are read back from the
JSON that they are written as. So different ones are written differently, and a document that has
been read and written does not change when this is done again. -/
theorem json_roundTrip :
    (∀ c : Config, Config.decode c.encode = .ok c) ∧
      (∀ s : Settings, Settings.decode s.encode = .ok s) ∧
      Function.Injective Config.encode ∧ Function.Injective Settings.encode ∧
      (∀ document, Config.codec.rewrite document >>= Config.codec.rewrite =
        Config.codec.rewrite document) ∧
      ∀ document, Settings.codec.rewrite document >>= Settings.codec.rewrite =
        Settings.codec.rewrite document := by
  have hconfig : Config.codec.Lawful := Config.lawful_record.codec
  have hsettings : Settings.codec.Lawful := lawful_record.codec
  exact ⟨hconfig.decode_render, hsettings.decode_render, hconfig.render_injective,
    hsettings.render_injective, hconfig.rewrite_rewrite, hsettings.rewrite_rewrite⟩

end Settings

end FuseMount
