import KvTables.Form
import KvTables.Table.Factory

/-! What comes of building a factory from a text or from a file, and of asking it for a backend. -/

set_option autoImplicit false

namespace KvTables.Factory

open Backend

variable {files : Files}

theorem ofText_of_ok {text : String} {document : Document}
    (ok : ((Form.document.readYaml text).run files).value = .ok document) :
    ofText text files = ⟨.ok (ofList document.backends).value,
      ((Form.document.readYaml text).run files).log ++ (ofList document.backends).log⟩ := by
  rw [ofText]
  change Logged.bind ((Form.document.readYaml text).run files) _ = _
  simp only [Logged.bind, ok]
  change Logged.mk _ (_ ++ (_ ++ [])) = _
  rw [List.append_nil]
  rfl

/-- The failure says what its line says. -/
theorem message_configDocument (cause : Fault) : (Failure.configDocument cause).message =
    "Failed to load backends document: " ++ cause.message .yaml := rfl

theorem ofText_of_error {text : String} {cause : Fault}
    (failed : ((Form.document.readYaml text).run files).value = .error cause) :
    ofText text files = ⟨.error (.configDocument cause),
      ((Form.document.readYaml text).run files).log ++
        [⟨.error, (Failure.configDocument cause).message⟩]⟩ := by
  rw [ofText, message_configDocument]
  change Logged.bind ((Form.document.readYaml text).run files) _ = _
  simp only [Logged.bind, failed]
  rfl

theorem ofFile_of_error {path : String} {cause : ReadError}
    (unread : files.read path = .error cause) :
    ofFile path files = ⟨.error (.configRead path cause),
      [⟨.error, s!"Failed to read backends file '{path}': " ++ cause.message⟩]⟩ := by
  rw [ofFile, unread]
  rfl

theorem ofFile_of_ok {path : String} {content : String}
    (holds : files.read path = .ok content) :
    ofFile path files = ⟨(ofText content files).value,
      ⟨.info, s!"Loading storage backends from '{path}'"⟩ :: (ofText content files).log⟩ := by
  rw [ofFile, holds]
  rfl

theorem unknownBackend_of_resolve {factory : Factory} {reference : Reference}
    {failure : Failure} (failed : factory.resolve reference = .error failure) :
    ∃ name, failure = .unknownBackend name := by
  obtain name | config := reference
  · rw [resolve] at failed
    split at failed
    · cases failed
    · exact ⟨name, (Except.error.inj failed).symm⟩
  · cases failed

theorem value_creator (factory : Factory) (reference : Reference) :
    (factory.creator reference).value = (factory.resolve reference).map Creator.ofConfig := by
  rw [creator]
  cases factory.resolve reference <;> rfl

end KvTables.Factory
