import DocTree.Proofs.Store.Replace
import DocTree.Proofs.Text.Encoding
import DocTree.Store.Load

/-!
# Loading what was saved

Saving and loading tell from the name of a file alone whether it is compressed, so what was saved is
loaded as the text that was rendered (`load_of_saveAs`). The format is another matter. Where the
ending of the name names one, both use it; where it names none, a document is saved in the format of
the configuration and loaded as JSON (`Format.ofOutput_eq`). So a document that can be read back from
its own format is loaded as it was saved if the ending names a format or the configuration asks for
none but JSON (`load_of_save`), and may not be loaded at all otherwise
(`load_of_save_unknownEnding`).
-/

set_option autoImplicit false
set_option relaxedAutoImplicit false

namespace DocTree

namespace Format

/-- The endings that name a format. -/
def endings : List (List Char) :=
  [['.', 'j', 's', 'o', 'n'], ['.', 'j', 's', 'o', 'n', 'l'], ['.', 'n', 'd', 'j', 's', 'o', 'n'],
    ['.', 'y', 'a', 'm', 'l'], ['.', 'y', 'm', 'l']]

/-- Whether the ending of a file name, that of compressed files aside, names a format. -/
def isTold (name : String) : Bool := endings.any (endsWith (FileName.base name))

/-- The format with the name that a configuration gives, which is JSON if there is none. -/
def configured (otherwise : String) : Format := (ofName? otherwise).getD .json

/-- A file is written in the format in which it is read, if its name tells one, and otherwise in the
configured format, while it is read as JSON. -/
theorem ofOutput_eq (name otherwise : String) :
    (isTold name = true → ofOutput name otherwise = ofFileName name) ∧
      (isTold name = false →
        ofFileName name = .json ∧ ofOutput name otherwise = configured otherwise) := by
  simp only [isTold, endings, ofOutput, ofFileName, configured, List.any_cons, List.any_nil]
  cases endsWith (FileName.base name) ['.', 'y', 'a', 'm', 'l'] <;>
  cases endsWith (FileName.base name) ['.', 'y', 'm', 'l'] <;>
  cases endsWith (FileName.base name) ['.', 'j', 's', 'o', 'n', 'l'] <;>
  cases endsWith (FileName.base name) ['.', 'n', 'd', 'j', 's', 'o', 'n'] <;>
  cases endsWith (FileName.base name) ['.', 'j', 's', 'o', 'n'] <;> simp

/-- The value that is read when another one is written in a format. -/
def reread? (format : Format) (value : Value) (options : RenderOptions) : Option Value :=
  (format.render value options).toOption.bind fun text ↦ (format.parse text).toOption

/-- Whether a value written in a format is read back, up to the order of object entries. -/
def ReadsBack (format : Format) (value : Value) (options : RenderOptions) : Prop :=
  (format.reread? value options).any (· == value) = true

theorem ReadsBack.exists_parse {format : Format} {value : Value} {options : RenderOptions}
    {text : String} (hreads : format.ReadsBack value options)
    (htext : format.render value options = .ok text) :
    ∃ read, format.parse text = .ok read ∧ (read == value) = true := by
  rw [ReadsBack, reread?, htext] at hreads
  obtain ⟨read, hread, hsame⟩ := (Option.any_eq_true _ _).mp hreads
  exact ⟨read, Except.toOption_eq_some_iff.mp hread, hsame⟩

end Format

namespace Store

variable {store after : Store} {name text : String} {content : List UInt8} {format : Format}
  {value : Value} {config : Config}

theorem textOfEntry_of_holdsText (hcontent : HoldsText name text content) :
    textOfEntry name (some (.file content)) = .ok text := by
  unfold HoldsText at hcontent
  unfold textOfEntry
  split at hcontent
  · rename_i hgzip
    simp [hgzip, hcontent.2, textOfBytes?_bytesOfText]
  · rename_i hplain
    simp [hplain, hcontent, textOfBytes?_bytesOfText]

/-- A saved document is loaded by reading the text that was rendered. -/
theorem load_of_saveAs (hsave : saveAs name format value config store = .ok () after) :
    ∃ text, format.render value config.renderOptions = .ok text ∧
      after.load name = ((Format.ofFileName name).parse text).mapError .parse := by
  obtain ⟨text, content, htext, hread, hcontent⟩ := (replaced_of_saveAs hsave).document
  refine ⟨text, htext, ?_⟩
  rw [load, Value.ofEntry, read?_eq_some_iff.mp hread, textOfEntry_of_holdsText hcontent]
  rfl

/-- A document that is read back from the format in which it is saved is loaded as it was saved, if
the name of the file tells the format or the configured one is JSON. -/
theorem load_of_save
    (hreads : (Format.ofOutput name config.outputFormat).ReadsBack value config.renderOptions)
    (hsave : save name value config store = .ok () after) :
    (∃ text, (Format.ofOutput name config.outputFormat).render value config.renderOptions =
        .ok text ∧ after.load name = ((Format.ofFileName name).parse text).mapError .parse) ∧
      if Format.isTold name || Format.configured config.outputFormat = .json then
        ∃ read, after.load name = .ok read ∧ (read == value) = true
      else
        Format.ofOutput name config.outputFormat = Format.configured config.outputFormat ∧
          Format.ofFileName name = .json := by
  obtain ⟨text, htext, hload⟩ := load_of_saveAs hsave
  obtain ⟨htold, huntold⟩ := Format.ofOutput_eq name config.outputFormat
  refine ⟨⟨text, htext, hload⟩, ?_⟩
  split
  · rename_i hagrees
    have hformat : Format.ofOutput name config.outputFormat = Format.ofFileName name := by
      cases hname : Format.isTold name with
      | true => exact htold hname
      | false =>
        obtain ⟨hjson, hconfigured⟩ := huntold hname
        have hnone : Format.configured config.outputFormat = .json := by
          simpa [hname] using hagrees
        rw [hconfigured, hjson, hnone]
    obtain ⟨read, hread, hsame⟩ := hreads.exists_parse htext
    refine ⟨read, ?_, hsame⟩
    rw [hload, ← hformat, hread]
    rfl
  · rename_i hdiffers
    have hname : Format.isTold name = false := by
      by_contra hname
      simp [hname] at hdiffers
    obtain ⟨hjson, hconfigured⟩ := huntold hname
    exact ⟨hconfigured, hjson⟩

/-- Whether a run succeeded. -/
def succeeds {ε α : Type} : EStateM.Result ε Store α → Bool
  | .ok _ _ => true
  | .error _ _ => false

theorem exists_of_succeeds {ε α : Type} {result : EStateM.Result ε Store α}
    (hresult : succeeds result = true) : ∃ a after, result = .ok a after := by
  cases result with
  | ok a after => exact ⟨a, after, rfl⟩
  | error error after => cases hresult

/-- A document with its keys out of order, and a text that looks like a number. -/
def rowsValue : Value := .object [("b", .array [.int 1]), ("a", .string "1")]

/-- A store that holds a file in the way of a compressed document. -/
def rowsStore : Store := ⟨[(["rows.Yml.gz"], .file [0x7b])]⟩

/-- A configuration that keeps the order of keys, and asks for backups and JSON. -/
def rowsConfig : Config := { createBackup := true, sortKeys := false }

/-- A compressed YAML document replaces the file that was there, and is loaded again. -/
theorem load_of_save_rows :
    (Format.ofOutput "rows.Yml.gz" rowsConfig.outputFormat).ReadsBack rowsValue
        rowsConfig.renderOptions ∧
      ∃ after, save "rows.Yml.gz" rowsValue rowsConfig rowsStore = .ok () after ∧
        ∃ read, after.load "rows.Yml.gz" = .ok read ∧ (read == rowsValue) = true := by
  have hreads : (Format.ofOutput "rows.Yml.gz" rowsConfig.outputFormat).ReadsBack rowsValue
      rowsConfig.renderOptions := by
    unfold Format.ReadsBack
    decide +kernel
  have hsucceeds : succeeds (save "rows.Yml.gz" rowsValue rowsConfig rowsStore) = true := by
    decide +kernel
  have htold : (Format.isTold "rows.Yml.gz" ||
      decide (Format.configured rowsConfig.outputFormat = .json)) = true := by
    decide +kernel
  obtain ⟨_, after, hsave⟩ := exists_of_succeeds hsucceeds
  have hload := (load_of_save hreads hsave).2
  rw [if_pos htold] at hload
  exact ⟨hreads, after, hsave, hload⟩

/-- A configuration that asks for YAML. -/
def yamlConfig : Config := { outputFormat := "yaml" }

/-- A document that is read back from every format need not be loaded as it was saved: where the name
does not tell the format, what was saved as YAML is read as JSON. -/
theorem load_of_save_unknownEnding :
    ¬ ∀ (store after : Store) (name : String) (value : Value) (config : Config),
      (∀ format : Format, format.ReadsBack value config.renderOptions) →
        save name value config store = .ok () after →
          ∃ read, after.load name = .ok read ∧ (read == value) = true := by
  intro hloads
  have hreads : ∀ format : Format,
      format.ReadsBack (.array [.int 1]) yamlConfig.renderOptions := by
    intro format
    unfold Format.ReadsBack
    cases format <;> decide +kernel
  have hsucceeds : succeeds (save "a.out" (.array [.int 1]) yamlConfig {}) = true := by
    decide +kernel
  obtain ⟨_, after, hsave⟩ := exists_of_succeeds hsucceeds
  obtain ⟨read, hread, -⟩ := hloads {} after "a.out" (.array [.int 1]) yamlConfig hreads hsave
  obtain ⟨text, htext, hload⟩ := load_of_saveAs hsave
  have hfails : (((Format.ofOutput "a.out" yamlConfig.outputFormat).render (.array [.int 1])
      yamlConfig.renderOptions).toOption.bind fun text ↦
        ((Format.ofFileName "a.out").parse text).toOption).isNone = true := by
    decide +kernel
  rw [htext] at hfails
  cases hparse : (Format.ofFileName "a.out").parse text with
  | error error =>
    rw [hload, hparse] at hread
    cases hread
  | ok other =>
    simp [Except.toOption, hparse] at hfails

end Store

end DocTree
