import DocTree.Proofs.FileName
import DocTree.Proofs.Gzip.RoundTrip
import DocTree.Proofs.Store.Save

/-!
# Saving replaces a file or leaves it

Whether a file may be written under a name (`Store.TakesFile`) depends on the directories of a store
alone, and no step of saving makes or removes one. So saving succeeds when the document is rendered,
the backup can be made if there is to be one, and both the temporary file and the file itself may be
written in the store as it was; then the file holds the new document and the backup what the file
held before. When saving fails, the name of the file finds what it found before
(`replacesOrKeeps_saveAs`).
-/

set_option autoImplicit false
set_option relaxedAutoImplicit false

namespace DocTree.Store

variable {store after middle : Store} {name other source target text : String}
  {content : List UInt8} {location : Location} {format : Format} {value : Value} {config : Config}

/-! ### Where files may be written -/

/-- Whether a file may be written under a name. -/
def TakesFile (store : Store) (name : String) : Prop :=
  ∃ location, Location.ofName? name = some location ∧ FileName.isOfDirectory name = false ∧
    store.acceptsFileAt location = true

theorem exists_write?_iff :
    (∃ after, store.write? name content = some after) ↔ store.TakesFile name := by
  simp only [write?_eq_some_iff]
  constructor
  · rintro ⟨after, location, hname, hplain, haccepts, -⟩
    exact ⟨location, hname, hplain, haccepts⟩
  · rintro ⟨location, hname, hplain, haccepts⟩
    exact ⟨_, location, hname, hplain, haccepts, rfl⟩

theorem takesFile_congr (hdirectories : ∀ location,
      after.entryAt? location = some .directory ↔ store.entryAt? location = some .directory) :
    after.TakesFile name ↔ store.TakesFile name := by
  have haccepts : ∀ location, after.acceptsFileAt location = store.acceptsFileAt location := by
    intro location
    simp only [acceptsFileAt, hdirectories, ne_eq]
  simp only [TakesFile, haccepts]

/-- What is no directory can be taken away without taking away a directory. -/
theorem takesFile_eraseAt (hfile : store.entryAt? location ≠ some .directory) :
    (store.eraseAt location).TakesFile name ↔ store.TakesFile name := by
  have hroot : location ≠ [] := by
    rintro rfl
    exact hfile rfl
  refine takesFile_congr fun here ↦ ?_
  by_cases hhere : here = location
  · rw [hhere, entryAt?_eraseAt_self hroot]
    simp [hfile]
  · rw [entryAt?_eraseAt_of_ne hhere]

theorem takesFile_of_write? (hwrite : store.write? other content = some after) :
    after.TakesFile name ↔ store.TakesFile name := by
  obtain ⟨location, -, -, haccepts, rfl⟩ := write?_eq_some_iff.mp hwrite
  have hroot := ne_nil_of_acceptsFileAt haccepts
  have hfile : store.entryAt? location ≠ some .directory := by
    simp only [acceptsFileAt, Bool.and_eq_true, decide_eq_true_eq] at haccepts
    exact haccepts.2
  refine takesFile_congr fun here ↦ ?_
  by_cases hhere : here = location
  · rw [hhere, entryAt?_putAt_self hroot]
    simp [hfile]
  · rw [entryAt?_putAt_of_ne hhere]

theorem exists_copy?_iff : (∃ after, store.copy? source target = some after) ↔
    (∃ content, store.read? source = some content) ∧ store.TakesFile target := by
  unfold copy?
  cases hread : store.read? source with
  | none => simp
  | some content => simpa using exists_write?_iff

theorem exists_rename?_iff : (∃ after, store.rename? source target = some after) ↔
    (∃ content, store.read? source = some content) ∧ store.TakesFile target := by
  unfold rename?
  cases hread : store.read? source with
  | none => simp
  | some content =>
    obtain ⟨location, hsource, -, hfile⟩ := entry?_eq_file_iff.mp (read?_eq_some_iff.mp hread)
    have htakes : (store.eraseAt location).TakesFile target ↔ store.TakesFile target :=
      takesFile_eraseAt (by simp [hfile])
    simpa [hsource, ← htakes] using exists_write?_iff

/-! ### What is read under a name -/

theorem entry?_congr (hentry : ∀ location, Location.ofName? name = some location →
      after.entryAt? location = store.entryAt? location) :
    after.entry? name = store.entry? name := by
  cases hname : Location.ofName? name with
  | none => simp [hname, entry?]
  | some location => simp [hname, hentry location hname, entry?]

theorem read?_congr (hentry : ∀ location, Location.ofName? name = some location →
      after.entryAt? location = store.entryAt? location) :
    after.read? name = store.read? name := by
  simp only [read?, entry?_congr hentry]

theorem read?_of_write? (hwrite : store.write? name content = some after) :
    after.read? name = some content := by
  obtain ⟨location, hname, hplain, -, -⟩ := write?_eq_some_iff.mp hwrite
  rw [read?_eq_some_iff, entry?_eq_file_iff]
  exact ⟨location, hname, hplain, entryAt?_of_write?_self hwrite hname⟩

/-- A file that was moved is read under its new name. -/
theorem read?_of_rename? (hread : store.read? source = some content)
    (hrename : store.rename? source target = some after) : after.read? target = some content := by
  obtain ⟨moved, location, hsource, hfile, hwrite⟩ := exists_of_rename? hrename
  obtain ⟨found, hfound, -, hcontent⟩ := entry?_eq_file_iff.mp (read?_eq_some_iff.mp hread)
  obtain rfl : location = found := Option.some_inj.mp (hsource.symm.trans hfound)
  obtain rfl : content = moved := StoreEntry.file.inj (Option.some_inj.mp (hcontent.symm.trans hfile))
  exact read?_of_write? hwrite

/-- A write under one name changes nothing under another one where no file may be written, even if
both names stand for one location. -/
theorem entry?_of_write?_of_blocked (hwrite : store.write? other content = some after)
    (hblocked : ¬ store.TakesFile name) : after.entry? name = store.entry? name := by
  obtain ⟨location, hother, -, haccepts, -⟩ := write?_eq_some_iff.mp hwrite
  by_cases hname : Location.ofName? name = some location
  · have hdirectory : FileName.isOfDirectory name = true := by
      by_contra hplain
      exact hblocked ⟨location, hname, Bool.not_eq_true _ ▸ hplain, haccepts⟩
    have hbefore : store.entryAt? location ≠ some .directory := by
      simp only [acceptsFileAt, Bool.and_eq_true, decide_eq_true_eq] at haccepts
      exact haccepts.2
    have hafter := entryAt?_of_write?_self hwrite hother
    -- Such a name finds directories alone, and there is none before and none after.
    have hnone : ∀ found : Option StoreEntry, found ≠ some .directory →
        (found.filter fun entry ↦ entry = .directory || !FileName.isOfDirectory name) = none := by
      intro found hfound
      cases found with
      | none => rfl
      | some entry =>
        have hentry : entry ≠ .directory := fun heq ↦ hfound (congrArg some heq)
        simp [Option.filter, hentry, hdirectory]
    simp only [hname, Option.bind_some, hafter, entry?]
    rw [hnone _ (by simp), hnone _ hbefore]
  · refine entry?_congr fun here hhere ↦ entryAt?_of_write? hwrite ?_
    rw [hother, ne_eq, Option.some_inj]
    rintro rfl
    exact hname hhere

/-! ### The temporary file becomes the file -/

theorem forM_replaceSteps (middle : Store) (name : String) (content : List UInt8) :
    (replaceSteps name content).forM SaveStep.perform middle =
      match middle.write? (FileName.temporary name) content with
      | none =>
        .error (if FileName.isGzip name then .compressedTemporaryFile else .temporaryFile) middle
      | some written =>
        match written.rename? (FileName.temporary name) name with
        | none => .error .rename written
        | some after => .ok () after := by
  rw [replaceSteps, SaveStep.forM_perform_cons]
  simp only [SaveStep.forM_perform_cons, SaveStep.take?]
  cases middle.write? (FileName.temporary name) content with
  | none => rfl
  | some written =>
    dsimp only
    cases written.rename? (FileName.temporary name) name <;> rfl

/-- The last two steps of saving put the new content under the name of the file, when the temporary
file and the file may be written; otherwise that name finds what it found before. -/
theorem replaceSteps_run (middle : Store) (name : String) (content : List UInt8) :
    match (replaceSteps name content).forM SaveStep.perform middle with
    | .ok _ after => (middle.TakesFile (FileName.temporary name) ∧ middle.TakesFile name) ∧
        after.read? name = some content
    | .error _ after => ¬ (middle.TakesFile (FileName.temporary name) ∧ middle.TakesFile name) ∧
        after.entry? name = middle.entry? name := by
  rw [forM_replaceSteps]
  cases hwrite : middle.write? (FileName.temporary name) content with
  | none =>
    refine ⟨fun htakes ↦ ?_, rfl⟩
    obtain ⟨written, hwritten⟩ := exists_write?_iff.mpr htakes.1
    rw [hwrite] at hwritten
    cases hwritten
  | some written =>
    have htemporary : middle.TakesFile (FileName.temporary name) :=
      exists_write?_iff.mp ⟨written, hwrite⟩
    have hread := read?_of_write? hwrite
    have htakes : written.TakesFile name ↔ middle.TakesFile name := takesFile_of_write? hwrite
    dsimp only
    cases hrename : written.rename? (FileName.temporary name) name with
    | none =>
      have hblocked : ¬ middle.TakesFile name := by
        intro hname
        obtain ⟨renamed, hrenamed⟩ := exists_rename?_iff.mpr ⟨⟨content, hread⟩, htakes.mpr hname⟩
        rw [hrename] at hrenamed
        cases hrenamed
      exact ⟨fun hboth ↦ hblocked hboth.2, entry?_of_write?_of_blocked hwrite hblocked⟩
    | some renamed =>
      have hname := (exists_rename?_iff.mp ⟨renamed, hrename⟩).2
      exact ⟨⟨htemporary, htakes.mp hname⟩, read?_of_rename? hread hrename⟩

/-! ### The backup -/

/-- Whether the backup of a file can be made, if one is wanted. -/
def CanBackUp (store : Store) (name : String) (wanted : Bool) : Prop :=
  wanted = true → ∃ copy, FileName.backup? name = some copy ∧
    (∃ previous, store.read? name = some previous) ∧ store.TakesFile copy

/-- Whether a backup, if one is wanted, holds what a file held before. -/
def HasBackup (store after : Store) (name : String) (wanted : Bool) : Prop :=
  wanted = true → ∃ copy previous, FileName.backup? name = some copy ∧
    store.read? name = some previous ∧ after.read? copy = some previous

/-- What holds of a store once the backup that is wanted has been made. -/
structure BackedUp (store after : Store) (name : String) (wanted : Bool) : Prop where
  kept : after.entry? name = store.entry? name
  takes : ∀ other, after.TakesFile other ↔ store.TakesFile other
  backup : store.HasBackup after name wanted

/-- A backup is copied from the file and leaves the file alone. -/
theorem backedUp_of_copy? {copy : String} (hbackup : FileName.backup? name = some copy)
    (hcopy : store.copy? name copy = some after) : store.BackedUp after name true := by
  obtain ⟨previous, hread, hwrite⟩ := Option.bind_eq_some_iff.mp hcopy
  refine ⟨entry?_congr fun location hlocation ↦ ?_, fun other ↦ takesFile_of_write? hwrite,
    fun _ ↦ ⟨copy, previous, hbackup, hread, read?_of_write? hwrite⟩⟩
  exact entryAt?_of_write? hwrite (FileName.ofName?_backup?_ne hbackup hlocation)

/-- The steps before the temporary file is written make the backup, or fail and change nothing. -/
theorem backupSteps_run (store : Store) (name : String) (wanted : Bool) :
    match backupSteps name wanted with
    | .ok before =>
      match before.forM SaveStep.perform store with
      | .ok _ after => store.CanBackUp name wanted ∧ store.BackedUp after name wanted
      | .error _ after => ¬ store.CanBackUp name wanted ∧ after = store
    | .error _ => ¬ store.CanBackUp name wanted := by
  cases wanted with
  | false =>
    exact ⟨fun hwanted ↦ by simp at hwanted, rfl, fun _ ↦ Iff.rfl, fun hwanted ↦ by simp at hwanted⟩
  | true =>
    cases hbackup : FileName.backup? name with
    | none =>
      simp only [backupSteps, hbackup, if_true]
      intro hcan
      obtain ⟨copy, hcopy, -⟩ := hcan rfl
      rw [hbackup] at hcopy
      cases hcopy
    | some copy =>
      simp only [backupSteps, hbackup, if_true]
      rw [SaveStep.forM_perform_cons]
      simp only [SaveStep.take?]
      cases hcopy : store.copy? name copy with
      | none =>
        refine ⟨fun hcan ↦ ?_, rfl⟩
        obtain ⟨other, hother, hpossible⟩ := hcan rfl
        obtain rfl : copy = other := Option.some_inj.mp (hbackup.symm.trans hother)
        obtain ⟨copied, hcopied⟩ := exists_copy?_iff.mpr hpossible
        rw [hcopy] at hcopied
        cases hcopied
      | some after =>
        exact ⟨fun _ ↦ ⟨copy, hbackup, exists_copy?_iff.mp ⟨after, hcopy⟩⟩,
          backedUp_of_copy? hbackup hcopy⟩

/-- The backup outlives the replacement of its file. -/
theorem HasBackup.replaceSteps {wanted : Bool} (hbackup : store.HasBackup middle name wanted)
    (hrun : (replaceSteps name content).forM SaveStep.perform middle = .ok () after) :
    store.HasBackup after name wanted := by
  intro hwanted
  obtain ⟨copy, previous, hcopy, hprevious, hread⟩ := hbackup hwanted
  refine ⟨copy, previous, hcopy, hprevious, ?_⟩
  rw [← hread]
  refine read?_congr fun location hlocation ↦ ?_
  have htemporary := FileName.ofName?_backup?_ne_temporary hcopy hlocation
  have hname : Location.ofName? name ≠ some location := fun hname ↦
    FileName.ofName?_backup?_ne hcopy hname hlocation
  have hsteps : ∀ step ∈ Store.replaceSteps name content, location.Unnamed step.names := by
    simp [Store.replaceSteps, SaveStep.names, Location.Unnamed, htemporary, hname]
  have hkept := SaveStep.entryAt?_forM_perform hsteps middle
  rwa [hrun] at hkept

/-! ### Saving -/

/-- Whether the content of a file is a text: its bytes, or a compressed form of them if the name of
the file says so. -/
def HoldsText (name text : String) (content : List UInt8) : Prop :=
  if FileName.isGzip name then
    content = Gzip.compress (bytesOfText text) ∧ Gzip.decompress? content = some (bytesOfText text)
  else content = bytesOfText text

theorem holdsText_contentOf (name text : String) : HoldsText name text (contentOf name text) := by
  unfold HoldsText contentOf
  split
  · exact ⟨rfl, Gzip.decompress?_compress _⟩
  · rfl

/-- Whether a document can be saved: it is rendered, the backup can be made if one is asked for and
there is something to back up, and the temporary file and the file may be written. -/
def CanSave (store : Store) (name : String) (format : Format) (value : Value) (config : Config) :
    Prop :=
  (∃ text, format.render value config.renderOptions = .ok text) ∧
    store.CanBackUp name (config.createBackup && store.contains name) ∧
    store.TakesFile (FileName.temporary name) ∧ store.TakesFile name

/-- What saving leaves when it succeeds: the file holds the document, and its backup, if one was
asked for and there was something to back up, what the file held before. -/
structure Replaced (store after : Store) (name : String) (format : Format) (value : Value)
    (config : Config) : Prop where
  document : ∃ text content, format.render value config.renderOptions = .ok text ∧
    after.read? name = some content ∧ HoldsText name text content
  backup : store.HasBackup after name (config.createBackup && store.contains name)

/-- Saving either can be done and replaces the file, or cannot and keeps what its name finds. -/
theorem saveAs_run (store : Store) (name : String) (format : Format) (value : Value)
    (config : Config) :
    match saveAs name format value config store with
    | .ok _ after =>
      store.CanSave name format value config ∧ store.Replaced after name format value config
    | .error _ after =>
      ¬ store.CanSave name format value config ∧ after.entry? name = store.entry? name := by
  have hbackup := backupSteps_run store name (config.createBackup && store.contains name)
  unfold saveAs
  cases hsteps : saveSteps name format value config (store.contains name) with
  | error error =>
    refine ⟨?_, rfl⟩
    rintro ⟨⟨text, htext⟩, hcan, -⟩
    cases hbefore : backupSteps name (config.createBackup && store.contains name) with
    | error error =>
      rw [hbefore] at hbackup
      exact hbackup hcan
    | ok before =>
      rw [saveSteps_eq_ok_iff.mpr ⟨text, before, htext, hbefore, rfl⟩] at hsteps
      cases hsteps
  | ok steps =>
    obtain ⟨text, before, htext, hbefore, rfl⟩ := saveSteps_eq_ok_iff.mp hsteps
    rw [hbefore] at hbackup
    dsimp only at hbackup ⊢
    rw [SaveStep.forM_perform_append]
    cases hfirst : before.forM SaveStep.perform store with
    | error error middle =>
      rw [hfirst] at hbackup
      obtain ⟨hcannot, rfl⟩ := hbackup
      exact ⟨fun hcan ↦ hcannot hcan.2.1, rfl⟩
    | ok _ middle =>
      rw [hfirst] at hbackup
      obtain ⟨hcan, hmiddle⟩ := hbackup
      have hlast := replaceSteps_run middle name (contentOf name text)
      simp only [hmiddle.takes] at hlast
      dsimp only
      cases hrun : (replaceSteps name (contentOf name text)).forM SaveStep.perform middle with
      | error error after =>
        rw [hrun] at hlast
        obtain ⟨hblocked, hkept⟩ := hlast
        exact ⟨fun hcan ↦ hblocked hcan.2.2, hkept.trans hmiddle.kept⟩
      | ok _ after =>
        rw [hrun] at hlast
        obtain ⟨htakes, hread⟩ := hlast
        exact ⟨⟨⟨text, htext⟩, hcan, htakes⟩, ⟨text, _, htext, hread, holdsText_contentOf name text⟩,
          hmiddle.backup.replaceSteps hrun⟩

theorem replaced_of_saveAs (hsave : saveAs name format value config store = .ok () after) :
    store.Replaced after name format value config := by
  have hrun := saveAs_run store name format value config
  rw [hsave] at hrun
  exact hrun.2

/-- Saving succeeds exactly when it can, and then replaces the file in full. When it fails, the name
of the file finds what it found before. -/
theorem replacesOrKeeps_saveAs (store : Store) (name : String) (format : Format) (value : Value)
    (config : Config) :
    ((∃ after, saveAs name format value config store = .ok () after) ↔
        store.CanSave name format value config) ∧
      match saveAs name format value config store with
      | .ok _ after => store.Replaced after name format value config
      | .error _ after => after.entry? name = store.entry? name := by
  have hrun := saveAs_run store name format value config
  cases hsave : saveAs name format value config store with
  | error error after =>
    rw [hsave] at hrun
    obtain ⟨hcannot, hkept⟩ := hrun
    exact ⟨⟨fun ⟨_, hafter⟩ ↦ (nomatch hafter), fun hcan ↦ absurd hcan hcannot⟩, hkept⟩
  | ok _ after =>
    rw [hsave] at hrun
    obtain ⟨hcan, hreplaced⟩ := hrun
    exact ⟨⟨fun _ ↦ hcan, fun _ ↦ ⟨after, rfl⟩⟩, hreplaced⟩

end DocTree.Store
