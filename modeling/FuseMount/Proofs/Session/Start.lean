import FuseMount.Session

/-!
# How a session gets its settings

Which settings a session starts with, said by what stands at their path. A file that is missing is
as good as no path at all; a file that is there has to be read, to be text, and to hold settings.

Results:

* `obtained_or_unusable`, `Obtained.not_unusable`: either settings are obtained, or their file is of
  no use.
* `start_of_obtained`, `start_of_unusable`: the session that starts, or that none does.
-/

namespace FuseMount

namespace Settings

/-! ## Specification -/

/-- What the file at the path of the settings, if there is a path, comes to. -/
inductive Obtained (host : Host) : Option Bytes → Option Settings → Prop
  /-- No path is known. -/
  | noPath : Obtained host none none
  /-- The file is missing. -/
  | missing {path : Bytes} (h : host.read path = .error .notFound) : Obtained host (some path) none
  /-- The file is read, and holds settings. -/
  | decoded {path : Bytes} {document : String} {settings : Settings}
      (h : host.read path = .ok document) (hdecode : decode document = .ok settings) :
      Obtained host (some path) (some settings)

/-- The file at a path is there, but of no use. -/
inductive Unusable (host : Host) (path : Bytes) : Prop
  /-- It cannot be read, for any other reason than that it is missing. -/
  | unreadable {e : SystemError} (h : host.read path = .error e) (hmissing : e ≠ .notFound)
  /-- Its content is not UTF-8. -/
  | notText {place : Place} {node : Node} {content : Bytes}
      (h : host.lookUp path = .ok (place, node)) (hnode : node.content? = some content)
      (hcontent : Utf8.decode? content = none)
  /-- Its text holds no settings. -/
  | notSettings {document : String} {fault : Json.Fault} (h : host.read path = .ok document)
      (hdecode : decode document = .error fault)

/-! ## Reading the file -/

theorem read_of_notText {host : Host} {path : Bytes} {place : Place} {node : Node} {content : Bytes}
    (h : host.lookUp path = .ok (place, node)) (hnode : node.content? = some content)
    (hcontent : Utf8.decode? content = none) : host.read path = .error .notText := by
  rw [Host.read, h]
  simp only [bind, Except.bind, hnode, hcontent]
  rfl

theorem load_eq_of_obtained {host : Host} {path : Bytes} {settings : Option Settings}
    (h : Obtained host (some path) settings) : load host path = .ok settings := by
  cases h with
  | missing h => rw [load, h]
  | decoded h hdecode =>
    rw [load, h]
    simp only [hdecode]

theorem exists_load_eq_error_of_unusable {host : Host} {path : Bytes} (h : Unusable host path) :
    ∃ f, load host path = .error f := by
  have of_read {e : SystemError} (h : host.read path = .error e) (hmissing : e ≠ .notFound) :
      ∃ f, load host path = .error f := by
    rw [load, h]
    cases e with
    | notFound => exact absurd rfl hmissing
    | _ => exact ⟨_, rfl⟩
  cases h with
  | unreadable h hmissing => exact of_read h hmissing
  | notText h hnode hcontent => exact of_read (read_of_notText h hnode hcontent) (by simp)
  | notSettings h hdecode =>
    rw [load, h]
    simp only [hdecode]
    exact ⟨_, rfl⟩

theorem Obtained.not_unusable {host : Host} {path : Bytes} {settings : Option Settings}
    (h : Obtained host (some path) settings) : ¬Unusable host path := by
  intro hunusable
  obtain ⟨f, hload⟩ := exists_load_eq_error_of_unusable hunusable
  rw [load_eq_of_obtained h] at hload
  cases hload

/-- There are no other ways in which reading the settings can end. -/
theorem obtained_or_unusable (host : Host) (path : Option Bytes) :
    (∃ settings, Obtained host path settings) ∨ ∃ p, path = some p ∧ Unusable host p := by
  cases path with
  | none => exact .inl ⟨none, .noPath⟩
  | some path =>
    cases h : host.read path with
    | error e =>
      by_cases hmissing : e = .notFound
      · exact .inl ⟨none, .missing (hmissing ▸ h)⟩
      · exact .inr ⟨path, rfl, .unreadable h hmissing⟩
    | ok document =>
      cases hdecode : decode document with
      | ok settings => exact .inl ⟨some settings, .decoded h hdecode⟩
      | error fault => exact .inr ⟨path, rfl, .notSettings h hdecode⟩

end Settings

/-! ## Starting the session -/

namespace Session

variable {host : Host} {given : Option Bytes}

theorem start_of_obtained {settings : Option Settings}
    (h : Settings.Obtained host (Settings.path? host given) settings) :
    start host given = .ok { host, settings } := by
  unfold start
  cases hpath : Settings.path? host given with
  | none =>
    rw [hpath] at h
    cases h
    rfl
  | some path =>
    rw [hpath] at h
    simp only [Settings.load_eq_of_obtained h]
    rfl

theorem start_of_unusable {path : Bytes} (hpath : Settings.path? host given = some path)
    (h : Settings.Unusable host path) : ∃ f, start host given = .error f := by
  obtain ⟨f, hload⟩ := Settings.exists_load_eq_error_of_unusable h
  refine ⟨f, ?_⟩
  simp only [start, hpath, hload]
  rfl

end Session

end FuseMount
