import DocTree.Proofs.Position.Effect
import DocTree.Proofs.Selector.Reach

/-!
# Writing at every position that a selector reaches

The paths of a selector are found first and then written one after another, each by a descent into
a document that the earlier writes have already changed. Because the paths are pairwise apart, the
order does not show: a run counts the paths that take the change in the document before the call,
fills exactly their slots, each from what it held then, and leaves every slot apart from them as it
was (`changeAt_run`); and what each of the writes keeps, the run keeps (`changeAt_induction`).
`Change.Makes` says what a change makes of a position, and `Change.fits` which records can take it,
so that the run is described by the records alone (`changeAll_of_select`).
-/

set_option autoImplicit false
set_option relaxedAutoImplicit false

namespace DocTree

namespace Value

/-! ### A run of writes -/

variable {change : Change} {root : Value} {path : Path} {new : Value}

theorem changeAt_cons_of_taken (houtcome : root.outcomeAt? change path = some new)
    (rest : List Path) (count : Nat) :
    changeAt change (path :: rest) (count, root) =
      changeAt change rest (count + 1, root.fill path new) := by
  have hchange : root.change? path change = some (root.fill path new) := by
    rw [change?_eq, houtcome, Option.map_some]
  simp [changeAt, hchange]

theorem changeAt_cons_of_refused (houtcome : root.outcomeAt? change path = none)
    (rest : List Path) (count : Nat) :
    changeAt change (path :: rest) (count, root) = changeAt change rest (count, root) := by
  have hchange : root.change? path change = none := by
    rw [change?_eq, houtcome, Option.map_none]
  simp [changeAt, hchange]

/-- A run over paths that are pairwise apart counts those that take the change, puts into their
slots what the change makes of what was there before the run, and touches no slot apart from
them. -/
theorem changeAt_run (change : Change) {paths : List Path} (hapart : paths.Pairwise Path.Apart)
    (count : Nat) (root : Value) :
    (changeAt change paths (count, root)).1 =
        count + paths.countP (fun path ↦ (root.outcomeAt? change path).isSome) ∧
      (∀ path ∈ paths, ∀ new, root.outcomeAt? change path = some new →
        (changeAt change paths (count, root)).2.slot? path = some (some new)) ∧
      ∀ other, (∀ path ∈ paths, (root.outcomeAt? change path).isSome → path.Apart other) →
        (changeAt change paths (count, root)).2.slot? other = root.slot? other := by
  induction paths generalizing count root with
  | nil => simp [changeAt]
  | cons path rest ih =>
    obtain ⟨hfirst, hrest⟩ := List.pairwise_cons.mp hapart
    cases houtcome : root.outcomeAt? change path with
    | none =>
      obtain ⟨hcount, hwritten, hframe⟩ := ih hrest count root
      rw [changeAt_cons_of_refused houtcome]
      refine ⟨by simpa [houtcome] using hcount, fun written hmem new hnew ↦ ?_, ?_⟩
      · rcases List.mem_cons.mp hmem with rfl | hlater
        · rw [houtcome] at hnew
          cases hnew
        · exact hwritten written hlater new hnew
      · exact fun other hother ↦
          hframe other fun written hmem ↦ hother written (List.mem_cons_of_mem _ hmem)
    | some new =>
      have hslot := slot?_isSome_of_outcomeAt? houtcome
      -- The paths still to come are apart from this one, so they find what they found before.
      have hsame : ∀ later ∈ rest,
          (root.fill path new).outcomeAt? change later = root.outcomeAt? change later := by
        intro later hlater
        rw [outcomeAt?, slot?_fill_of_apart (hfirst later hlater) hslot, outcomeAt?]
      obtain ⟨hcount, hwritten, hframe⟩ := ih hrest (count + 1) (root.fill path new)
      rw [changeAt_cons_of_taken houtcome]
      refine ⟨?_, fun written hmem made hmade ↦ ?_, fun other hother ↦ ?_⟩
      · have hcountP : rest.countP (fun later ↦
            ((root.fill path new).outcomeAt? change later).isSome) =
            rest.countP fun later ↦ (root.outcomeAt? change later).isSome :=
          List.countP_congr fun later hlater ↦ by rw [hsame later hlater]
        rw [hcount, hcountP, List.countP_cons_of_pos (by simp [houtcome])]
        omega
      · rcases List.mem_cons.mp hmem with rfl | hlater
        · obtain rfl : new = made := Option.some_inj.mp (houtcome.symm.trans hmade)
          rw [hframe written fun later hlater _ ↦ (hfirst later hlater).symm,
            slot?_fill_self hslot]
        · exact hwritten written hlater made ((hsame written hlater).trans hmade)
      · have hthis := hother path List.mem_cons_self (by simp [houtcome])
        rw [hframe other fun later hlater htaken ↦ hother later (List.mem_cons_of_mem _ hlater)
          (by rwa [← hsame later hlater]), slot?_fill_of_apart hthis hslot]

/-- What holds of a document and is kept by every write of a run holds after the run. When the turn
of a path comes, its slot is still the one of the document before the run. -/
theorem changeAt_induction {motive : Value → Prop} {paths : List Path}
    (hapart : paths.Pairwise Path.Apart) (count : Nat) (hroot : motive root)
    (hstep : ∀ path ∈ paths, ∀ met new, motive met → met.slot? path = root.slot? path →
      met.outcomeAt? change path = some new → motive (met.fill path new)) :
    motive (changeAt change paths (count, root)).2 := by
  induction paths generalizing count root with
  | nil => exact hroot
  | cons path rest ih =>
    obtain ⟨hfirst, hrest⟩ := List.pairwise_cons.mp hapart
    cases houtcome : root.outcomeAt? change path with
    | none =>
      rw [changeAt_cons_of_refused houtcome]
      exact ih hrest count hroot fun later hlater ↦ hstep later (List.mem_cons_of_mem _ hlater)
    | some new =>
      have hslot := slot?_isSome_of_outcomeAt? houtcome
      rw [changeAt_cons_of_taken houtcome]
      refine ih hrest (count + 1) (hstep path List.mem_cons_self root new hroot rfl houtcome) ?_
      intro later hlater met made hmet hsame hmade
      refine hstep later (List.mem_cons_of_mem _ hlater) met made hmet ?_ hmade
      rw [hsame, slot?_fill_of_apart (hfirst later hlater) hslot]

end Value

/-! ### The records of a selector -/

/-- Whether the last filter is a literal key. -/
def Selector.endsInKey (selector : Selector) : Bool :=
  match selector.getLast? with
  | some (.key _) => true
  | _ => false

/-- Whether a change can be made at a record of a selector. -/
def Change.fits (change : Change) (selector : Selector) (record : Record) : Bool :=
  match change, record.source with
  | .replace _, some _ => true
  | .replace _, none => selector.endsInKey
  | .append _, some (.array _) => true
  | .put _ _, some (.object _) => true
  | _, _ => false

variable {predicate : Option NativePredicate} {root : Value} {text : String}
  {selector : Selector} {records : List Record} {record : Record} {change : Change}

/-- The slot at a record holds its source. A record without one has an open slot when the selector
ends in a key. -/
theorem Level.slot?_eq (hlevel : Level predicate root selector records)
    (hmem : record ∈ records) :
    root.slot? record.path =
      if record.source.isSome || selector.endsInKey then some record.source else none := by
  have hsource : record.source = root.get? record.path := hlevel.sound record hmem
  cases hfound : record.source with
  | some value =>
    rw [hfound, Value.get?_eq_slot?, eq_comm, Option.join_eq_some_iff] at hsource
    rw [hsource]
    rfl
  | none =>
    have hreaches := (hlevel.reached record.path).mp (List.mem_map_of_mem hmem)
    obtain ⟨front, segment, container, hpath, hlast, hcontainer, hchild, hselects⟩ :=
      hreaches.exists_last (hsource.symm.trans hfound)
    have hends : selector.endsInKey = container.grows segment := by
      rw [Selector.endsInKey, hlast]
      cases segment <;> cases container <;> first | rfl | cases hselects
    rw [hpath, Value.slot?_child hcontainer, hchild, hends]
    rfl

theorem Change.fits_eq (change : Change) (selector : Selector) (record : Record) :
    change.fits selector record =
      ((record.source.isSome || selector.endsInKey) && (change.onSlot? record.source).isSome) := by
  obtain ⟨path, source⟩ := record
  cases source with
  | none =>
    cases change <;> simp [Change.fits, Change.onSlot?, Change.fresh?]
  | some value =>
    cases change <;> cases value <;> simp [Change.fits, Change.onSlot?, Change.outcome?]

/-- The records that can take a change are those at whose paths it can be made. -/
theorem Level.isSome_outcomeAt? (hlevel : Level predicate root selector records)
    (hmem : record ∈ records) :
    (root.outcomeAt? change record.path).isSome = change.fits selector record := by
  rw [Value.outcomeAt?, hlevel.slot?_eq hmem, change.fits_eq]
  split
  · simp_all
  · simp_all

theorem Level.makes_of_outcomeAt? {new : Value} (hlevel : Level predicate root selector records)
    (hmem : record ∈ records) (houtcome : root.outcomeAt? change record.path = some new) :
    change.Makes record.source new := by
  obtain ⟨slot, hslot, hnew⟩ := Option.bind_eq_some_iff.mp houtcome
  rw [hlevel.slot?_eq hmem] at hslot
  split at hslot
  · exact Change.makes_of_onSlot? (Option.some_inj.mp hslot ▸ hnew)
  · cases hslot

namespace Value

/-- A change at every position of a selector is described by the records of the document before
the call. It counts the records that can take the change, leaves at their paths what it makes of
their own sources, and does not touch what any path apart from all of theirs leads to. When the turn
of a record comes, the document still holds its source there and takes the change as it would have
before the call. -/
theorem changeAll_of_select (hroot : root.DistinctKeys)
    (hparse : Selector.parse text = .ok selector)
    (hselect : root.select predicate text = .ok records) (change : Change) :
    (root.changeAll predicate text change).1 = records.countP (change.fits selector) ∧
      (∀ record ∈ records, change.fits selector record → ∃ new,
        change.Makes record.source new ∧
          (root.changeAll predicate text change).2.get? record.path = some new) ∧
      (∀ path, (∀ record ∈ records, change.fits selector record → record.path.Apart path) →
        (root.changeAll predicate text change).2.get? path = root.get? path) ∧
      ∀ earlier record later, records = earlier ++ record :: later → ∃ count met,
        changeAt change (earlier.map Record.path) (0, root) = (count, met) ∧
          met.get? record.path = record.source ∧
            (met.change? record.path change).isSome = change.fits selector record := by
  have hlevel := level_of_select hroot hparse hselect
  have hapart : (records.map Record.path).Pairwise Path.Apart :=
    hlevel.ordered.imp Precedes.apart
  have hall : root.changeAll predicate text change =
      changeAt change (records.map Record.path) (0, root) := by
    simp [changeAll, hselect]
  obtain ⟨hcount, hwritten, hframe⟩ := changeAt_run change hapart 0 root
  rw [hall]
  refine ⟨?count, fun record hmem hfits ↦ ?made, fun path hpath ↦ ?frame, ?turn⟩
  case count =>
    rw [hcount, Nat.zero_add, List.countP_map]
    exact List.countP_congr fun record hmem ↦ by
      rw [Function.comp_apply, hlevel.isSome_outcomeAt? hmem]
  case made =>
    rw [← hlevel.isSome_outcomeAt? hmem, Option.isSome_iff_exists] at hfits
    obtain ⟨new, hnew⟩ := hfits
    refine ⟨new, hlevel.makes_of_outcomeAt? hmem hnew, ?_⟩
    rw [get?_eq_slot?, hwritten _ (List.mem_map_of_mem hmem) new hnew]
    rfl
  case frame =>
    rw [get?_eq_slot?, get?_eq_slot?, hframe path]
    intro written hmem htaken
    obtain ⟨record, hrecord, rfl⟩ := List.mem_map.mp hmem
    exact hpath record hrecord (by rwa [← hlevel.isSome_outcomeAt? hrecord])
  case turn =>
    rintro earlier record later rfl
    have hmem : record ∈ earlier ++ record :: later := by simp
    rw [List.map_append, List.map_cons, List.pairwise_append] at hapart
    obtain ⟨hearlier, -, hmeet⟩ := hapart
    -- The paths before this one are apart from it, so its slot is the one of the document before.
    have hslot := (changeAt_run change hearlier 0 root).2.2 record.path
      fun path hpath _ ↦ hmeet path hpath record.path List.mem_cons_self
    refine ⟨_, _, rfl, ?_, ?_⟩
    · rw [get?_eq_slot?, hslot, ← get?_eq_slot?]
      exact (hlevel.sound record hmem).symm
    · rw [change?_eq, Option.isSome_map, outcomeAt?, hslot]
      exact hlevel.isSome_outcomeAt? hmem

/-- Both rows of the document that are objects take the key, the second one as a new key. -/
theorem changeAll_of_select_rows :
    (rowsDocument.changeAll none "?(@=a)[..]/c" (.replace (.int 7))).1 = 2 ∧
      (rowsDocument.changeAll none "?(@=a)[..]/c" (.replace (.int 7))).2.get?
        [.key "a", .index 1, .key "c"] = some (.int 7) ∧
      (rowsDocument.changeAll none "?(@=a)[..]/c" (.replace (.int 7))).2.get?
        [.key "a", .index 2] = some (.int 5) := by
  obtain ⟨hcount, hwritten, hframe, -⟩ := changeAll_of_select rowsDocument_distinctKeys
    parse_rowsSelector select_rowsRecords (.replace (.int 7))
  refine ⟨hcount.trans rfl, ?_, ?_⟩
  · obtain ⟨new, hmakes, hnew⟩ := hwritten ⟨[.key "a", .index 1, .key "c"], none⟩
      (by simp [rowsRecords]) rfl
    cases hmakes
    exact hnew
  · refine (hframe _ fun record hmem _ ↦ ?_).trans rfl
    simp only [rowsRecords, List.mem_cons, List.not_mem_nil, or_false] at hmem
    rcases hmem with rfl | rfl <;> simp [Path.Apart]

end Value

end DocTree
