import FuseMount.Config.Codec
import FuseMount.Proofs.Json.Lawful

/-!
# The fields of configurations

The record type of configurations is lawful: each of its fields copies one part of a configuration,
and all of them together copy the whole.

Results:

* `lawful_record`: the codec of configurations follows the laws of records.
-/

namespace FuseMount

open Json

theorem Platform.lawful_codec : Platform.codec.Lawful :=
  lawful_variant fun p => by cases p <;> decide

theorem Implementation.lawful_codec : Implementation.codec.Lawful :=
  lawful_variant fun i => by cases i <;> decide

namespace Config

/-- The record type of configurations is lawful. -/
theorem lawful_record : record.Lawful where
  names := by decide
  copies := by
    refine ⟨_, .cons (copies_text (fun _ => rfl) rfl) <|
      .cons (copies_toggle (fun _ => rfl) rfl) <| .cons (copies_toggle (fun _ => rfl) rfl) <|
      .cons (copies_toggle (fun _ => rfl) rfl) <| .cons (copies_toggle (fun _ => rfl) rfl) <|
      .cons (copies_toggle (fun _ => rfl) rfl) <| .cons (copies_toggle (fun _ => rfl) rfl) <|
      .cons (copies_toggle (fun _ => rfl) rfl) <| .cons (copies_toggle (fun _ => rfl) rfl) <|
      .cons (copies_text (fun _ => rfl) rfl) <|
      .cons (copies_make Implementation.lawful_codec (fun _ => rfl) nofun) <|
      .cons (copies_textMap (fun _ => rfl) rfl) <| .cons (copies_text (fun _ => rfl) rfl) <|
      .cons (copies_toggle (fun _ => rfl) rfl) <| .cons (copies_toggle (fun _ => rfl) rfl) <|
      .cons (copies_toggle (fun _ => rfl) rfl) <| .cons (copies_toggle (fun _ => rfl) rfl) <|
      .cons (copies_toggle (fun _ => rfl) rfl) .nil, ?_, fun _ => rfl⟩
    -- Whatever is copied first, the record that comes out is the same by its definition.
    simp only [List.pairwise_cons, List.forall_mem_cons]
    repeat' apply And.intro
    all_goals
      first
      | exact fun _ _ _ => rfl
      | exact fun _ h => absurd h List.not_mem_nil
      | exact .nil

end Config

end FuseMount
