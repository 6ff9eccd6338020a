import EditorSession.Configuration.Load
import EditorSession.Integration
import EditorSession.Proofs.Path
import EditorSession.Proofs.Text.Decoding

/-!
# Configurations that can activate

A gate admits the documents whose extension is, octet for octet, the one it was made for. Some
document passes it if and only if that extension has neither a point nor a slash in it
(`exists_admits_iff`). Validation refuses the first and lets the second through, so a validated
configuration can activate unless there is a slash in its extension.
-/

namespace EditorSession

namespace Gate

variable {gate : Gate} {document : Document}

theorem admits_iff :
    gate.admits document = true ↔
      Path.extension? document.path = some (Text.Utf8.ofString gate.targetExtension) := by
  rw [admits, beq_iff_eq, Document.extension?, Option.bind_eq_some_iff]
  constructor
  · rintro ⟨octets, extension, text⟩
    rw [extension, Text.Utf8.toString?_eq_some_iff.mp text]
  · intro extension
    exact ⟨_, extension, Text.Utf8.toString?_eq_some_iff.mpr rfl⟩

/-- The extensions that some document has. -/
theorem exists_admits_iff (gate : Gate) :
    (∃ document, gate.admits document = true) ↔
      '.' ∉ gate.targetExtension.toList ∧ '/' ∉ gate.targetExtension.toList := by
  have point : Path.point ∈ Text.Utf8.ofString gate.targetExtension ↔
      '.' ∈ gate.targetExtension.toList := Text.Utf8.mem_encode_iff_of_ascii '.' (by decide)
  have slash : Path.slash ∈ Text.Utf8.ofString gate.targetExtension ↔
      '/' ∈ gate.targetExtension.toList := Text.Utf8.mem_encode_iff_of_ascii '/' (by decide)
  rw [← point, ← slash, ← Path.exists_extension?_iff]
  constructor
  · rintro ⟨document, admitted⟩
    exact ⟨document.path, admits_iff.mp admitted⟩
  · rintro ⟨path, extension⟩
    exact ⟨⟨path, none⟩, admits_iff.mpr extension⟩

end Gate

namespace Configuration

variable {σ : Type}

theorem point_not_mem_of_validate {configuration : Configuration}
    (valid : configuration.validate = .ok ()) : '.' ∉ configuration.targetExtension.toList := by
  intro dotted
  have contained : configuration.targetExtension.toList.contains '.' = true :=
    List.contains_iff_mem.mpr dotted
  unfold validate at valid
  split at valid
  · cases valid
  next flawless =>
    unfold flaw? at flawless
    rw [contained] at flawless
    repeat' split at flawless
    all_goals contradiction

/--
A configuration that is valid can activate its integration unless there is a slash in its extension,
in which case no document passes its gate. No document passes a gate either that was made, by
whatever configuration, for an extension with a point in it.
-/
theorem valid_activates_iff (configuration : Configuration) (mode : LaunchMode) (transport : σ) :
    let gate := (Integration.ofConfiguration configuration mode transport).gate
    (configuration.validate = .ok () →
      ((∃ document, gate.admits document = true) ↔
        '/' ∉ configuration.targetExtension.toList)) ∧
    ('.' ∈ configuration.targetExtension.toList → ∀ document, gate.admits document = false) := by
  intro gate
  have matchable : (∃ document, gate.admits document = true) ↔
      '.' ∉ configuration.targetExtension.toList ∧ '/' ∉ configuration.targetExtension.toList :=
    gate.exists_admits_iff
  constructor
  · intro valid
    simpa [point_not_mem_of_validate valid] using matchable
  · intro dotted document
    by_contra admitted
    have passes : ∃ document, gate.admits document = true := ⟨document, by simpa using admitted⟩
    exact (matchable.mp passes).1 dotted

/-- The preset for dependency manifests can activate; an archive's double ending cannot. -/
theorem vulnerabilities_activates :
    let archives : Configuration := { targetExtension := "tar.gz" }
    vulnerabilities.validate = .ok () ∧
      (∃ document, (Integration.ofConfiguration vulnerabilities .run ()).gate.admits document) ∧
      '.' ∈ archives.targetExtension.toList ∧
      ∀ document, (Integration.ofConfiguration archives .run ()).gate.admits document = false := by
  intro archives
  have valid : vulnerabilities.validate = .ok () := rfl
  have plain : '/' ∉ vulnerabilities.targetExtension.toList := by decide
  have dotted : '.' ∈ archives.targetExtension.toList := by decide
  exact ⟨valid, ((valid_activates_iff vulnerabilities .run ()).1 valid).mpr plain, dotted,
    (valid_activates_iff archives .run ()).2 dotted⟩

/-- An extension with a slash passes validation, and no document ever has it. -/
theorem slashed_extension_never_activates :
    let configuration : Configuration := { targetExtension := "a/b" }
    configuration.validate = .ok () ∧
      ¬∃ document,
        (Integration.ofConfiguration configuration .run ()).gate.admits document = true := by
  intro configuration
  have valid : Configuration.validate { targetExtension := "a/b" } = .ok () := rfl
  refine ⟨valid, fun passes => ?_⟩
  have noSlash := ((Gate.exists_admits_iff _).mp passes).2
  exact noSlash (by decide)

end Configuration

end EditorSession
