import DocTree.Proofs.Outcome
import DocTree.Proofs.Store.Frame
import DocTree.Store.Save

/-!
# What saving a document leaves alone

A step of saving changes the entries that it names and no other (`entryAt?_of_take?`), and none at
all when it fails; so every run of steps keeps what none of them names (`entryAt?_forM_perform`).
Saving therefore changes the file, the backup that it was asked for, and the temporary file, and
keeps every other entry (`keepsOthers_saveAs`). The temporary file is gone once the document is
saved; only when it cannot be renamed does it stay.

The name of the temporary file is fixed, and whatever had it before is lost
(`saveAs_temporary_lost`).
-/

set_option autoImplicit false
set_option relaxedAutoImplicit false

namespace DocTree

/-- The store that a run leaves behind, whether or not it succeeded. -/
def Store.ofResult {ε α : Type} : EStateM.Result ε Store α → Store
  | .ok _ store => store
  | .error _ store => store

namespace SaveStep

/-- The names of the entries that a step writes or removes. -/
def names : SaveStep → List String
  | backup _ copy => [copy]
  | writeTemporary name _ _ => [name]
  | rename temporary name => [temporary, name]

variable {store after : Store} {location : Location}

theorem entryAt?_of_take? {step : SaveStep} (htake : step.take? store = some after)
    (hlocation : location.Unnamed step.names) :
    after.entryAt? location = store.entryAt? location := by
  cases step with
  | backup name copy =>
    have hcopy := List.forall_mem_singleton.mp hlocation
    exact Store.entryAt?_of_copy? htake hcopy
  | writeTemporary name content compressed =>
    have hname := List.forall_mem_singleton.mp hlocation
    exact Store.entryAt?_of_write? htake hname
  | rename temporary name =>
    obtain ⟨htemporary, hrest⟩ := List.forall_mem_cons.mp hlocation
    have hname := hrest name List.mem_cons_self
    exact Store.entryAt?_of_rename? htake htemporary hname

/-- A run of steps takes the first one, and goes on unless that fails. -/
theorem forM_perform_cons (step : SaveStep) (rest : List SaveStep) (store : Store) :
    (step :: rest).forM perform store =
      match step.take? store with
      | some next => rest.forM perform next
      | none => .error step.error store := by
  have hrun : (step :: rest).forM perform store =
      EStateM.bind (perform step) (fun _ ↦ rest.forM perform) store := rfl
  rw [hrun, EStateM.bind, perform]
  cases step.take? store <;> rfl

theorem forM_perform_append (first second : List SaveStep) (store : Store) :
    (first ++ second).forM perform store =
      match first.forM perform store with
      | .ok _ next => second.forM perform next
      | .error error next => .error error next := by
  induction first generalizing store with
  | nil => rfl
  | cons step rest ih =>
    rw [List.cons_append, forM_perform_cons, forM_perform_cons]
    cases step.take? store with
    | none => rfl
    | some next => exact ih next

/-- A run of steps keeps the entries that none of them names, however far it gets. -/
theorem entryAt?_forM_perform {steps : List SaveStep}
    (hlocation : ∀ step ∈ steps, location.Unnamed step.names) (store : Store) :
    (Store.ofResult (steps.forM perform store)).entryAt? location = store.entryAt? location := by
  induction steps generalizing store with
  | nil => rfl
  | cons step rest ih =>
    obtain ⟨hstep, hrest⟩ := List.forall_mem_cons.mp hlocation
    rw [forM_perform_cons]
    cases htake : step.take? store with
    | none => rfl
    | some next => exact (ih hrest next).trans (entryAt?_of_take? htake hstep)

end SaveStep

namespace Store

variable {store : Store} {name : String} {format : Format} {value : Value} {config : Config}

/-- The name of the backup that saving to a file makes, if it makes one. -/
def backupNames (store : Store) (name : String) (config : Config) : List String :=
  if config.createBackup && store.contains name then (FileName.backup? name).toList else []

/-- Whether a run that saves to a file has kept what is not its own. A run that succeeds changes the
file and its backup, and leaves nothing under the temporary name. A run that fails changes the
backup alone, unless what fails is to rename the temporary file. -/
def KeepsOthers (store : Store) (name : String) (config : Config) :
    EStateM.Result SaveError Store Unit → Prop
  | .ok _ after =>
    (∀ location : Location,
      location.Unnamed (name :: FileName.temporary name :: store.backupNames name config) →
        after.entryAt? location = store.entryAt? location) ∧
      ∀ location, Location.ofName? (FileName.temporary name) = some location →
        Location.ofName? name ≠ some location → after.entryAt? location = none
  | .error error after =>
    ∀ location : Location, location.Unnamed (store.backupNames name config) →
      (error = .rename → Location.ofName? (FileName.temporary name) ≠ some location) →
        after.entryAt? location = store.entryAt? location

/-- The steps that write the temporary file and rename it. -/
def replaceSteps (name : String) (content : List UInt8) : List SaveStep :=
  [.writeTemporary (FileName.temporary name) content (FileName.isGzip name),
    .rename (FileName.temporary name) name]

/-- Once a document is rendered, saving it makes the backup if there is to be one, then writes the
temporary file and renames it. -/
theorem saveSteps_eq_ok_iff {isPresent : Bool} {steps : List SaveStep} :
    saveSteps name format value config isPresent = .ok steps ↔
      ∃ text before, format.render value config.renderOptions = .ok text ∧
        backupSteps name (config.createBackup && isPresent) = .ok before ∧
        before ++ replaceSteps name (contentOf name text) = steps := by
  constructor
  · intro hsteps
    obtain ⟨text, htext, hafter⟩ := Except.bind_eq_ok_iff.mp hsteps
    obtain ⟨before, hbefore, hlast⟩ := Except.bind_eq_ok_iff.mp hafter
    exact ⟨text, before, Except.mapError_eq_ok_iff.mp htext, hbefore, Except.ok.inj hlast⟩
  · rintro ⟨text, before, htext, hbefore, rfl⟩
    exact Except.bind_eq_ok_iff.mpr ⟨text, Except.mapError_eq_ok_iff.mpr htext,
      Except.bind_eq_ok_iff.mpr ⟨before, hbefore, rfl⟩⟩

theorem names_of_backupSteps {before : List SaveStep}
    (hbefore : backupSteps name (config.createBackup && store.contains name) = .ok before) :
    ∀ step ∈ before, step.names = store.backupNames name config := by
  unfold backupSteps at hbefore
  unfold backupNames
  split at hbefore
  · rename_i hwanted
    split at hbefore
    · rename_i copy hcopy
      obtain rfl := Except.ok.inj hbefore
      simp [hwanted, hcopy, SaveStep.names]
    · cases hbefore
  · obtain rfl := Except.ok.inj hbefore
    exact List.forall_mem_nil _

/-- The last two steps change the file and the temporary file. -/
theorem keepsOthers_replace {before : Store} {content : List UInt8}
    (hbefore : ∀ location : Location, location.Unnamed (store.backupNames name config) →
      before.entryAt? location = store.entryAt? location) :
    store.KeepsOthers name config ((replaceSteps name content).forM SaveStep.perform before) := by
  rw [replaceSteps, SaveStep.forM_perform_cons]
  cases hwrite : (SaveStep.writeTemporary (FileName.temporary name) content
    (FileName.isGzip name)).take? before with
  | none => exact fun location hlocation _ ↦ hbefore location hlocation
  | some written =>
    change store.KeepsOthers name config
      ([SaveStep.rename (FileName.temporary name) name].forM SaveStep.perform written)
    rw [SaveStep.forM_perform_cons]
    cases hrename : (SaveStep.rename (FileName.temporary name) name).take? written with
    | none =>
      intro location hlocation htemporary
      exact (entryAt?_of_write? hwrite (htemporary rfl)).trans (hbefore location hlocation)
    | some renamed =>
      refine ⟨fun location hlocation ↦ ?_, fun location htemporary hname ↦ ?_⟩
      · obtain ⟨hname, hrest⟩ := List.forall_mem_cons.mp hlocation
        obtain ⟨htemporary, hbackup⟩ := List.forall_mem_cons.mp hrest
        calc renamed.entryAt? location
            = written.entryAt? location := entryAt?_of_rename? hrename htemporary hname
          _ = before.entryAt? location := entryAt?_of_write? hwrite htemporary
          _ = store.entryAt? location := hbefore location hbackup
      · exact entryAt?_of_rename?_source hrename htemporary hname

theorem keepsOthers_steps {steps : List SaveStep}
    (hsteps : saveSteps name format value config (store.contains name) = .ok steps) :
    store.KeepsOthers name config (steps.forM SaveStep.perform store) := by
  obtain ⟨text, before, -, hbefore, rfl⟩ := saveSteps_eq_ok_iff.mp hsteps
  have hnames := names_of_backupSteps hbefore
  have hbackup : ∀ location : Location, location.Unnamed (store.backupNames name config) →
      (ofResult (before.forM SaveStep.perform store)).entryAt? location =
        store.entryAt? location := by
    intro location hlocation
    refine SaveStep.entryAt?_forM_perform (fun step hstep ↦ ?_) store
    rwa [hnames step hstep]
  rw [SaveStep.forM_perform_append]
  cases hrun : before.forM SaveStep.perform store with
  | ok _ next =>
    rw [hrun] at hbackup
    exact keepsOthers_replace hbackup
  | error error next =>
    rw [hrun] at hbackup
    exact fun location hlocation _ ↦ hbackup location hlocation

/-- Saving keeps every entry but the file, its backup and the temporary file. -/
theorem keepsOthers_saveAs (store : Store) (name : String) (value : Value) (config : Config) :
    (∀ format, store.KeepsOthers name config (saveAs name format value config store)) ∧
      store.KeepsOthers name config (save name value config store) := by
  have hsave : ∀ format, store.KeepsOthers name config (saveAs name format value config store) := by
    intro format
    unfold saveAs
    split
    · rename_i steps hsteps
      exact keepsOthers_steps hsteps
    · exact fun _ _ _ ↦ rfl
  exact ⟨hsave, hsave _⟩

/-- A store that holds one file, with the name of a temporary file. -/
def draftStore : Store := ⟨[(["notes.tmp"], .file [0x6b])]⟩

/-- Not every entry besides the file and its backup is kept: saving to `notes.json` loses a file
`notes.tmp` that was there. -/
theorem saveAs_temporary_lost :
    ¬ ∀ (store : Store) (name : String) (format : Format) (value : Value) (config : Config)
      (location : Location), location.Unnamed (name :: store.backupNames name config) →
        (ofResult (saveAs name format value config store)).entryAt? location =
          store.entryAt? location := by
  intro hkeeps
  have hunnamed : Location.Unnamed ("notes.json" :: draftStore.backupNames "notes.json" {})
      ["notes.tmp"] := by
    unfold Location.Unnamed
    decide
  have hlost : (ofResult (saveAs "notes.json" .json .null {} draftStore)).entryAt?
      ["notes.tmp"] = none := rfl
  have hkept := hkeeps draftStore "notes.json" .json .null {} ["notes.tmp"] hunnamed
  rw [hlost] at hkept
  exact absurd hkept (by decide)

end Store

end DocTree
