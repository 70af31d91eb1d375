import DocTree.Proofs.Position.Distinct
import DocTree.Proofs.Position.Repeat
import DocTree.Proofs.Selector.Twin
import DocTree.Proofs.Selector.Write
import Mathlib.Data.List.Pairwise

/-!
# Selectors that find again what they wrote

A selector writes below everything that its filters look at, and adds a key only where its last
filter names it. So a selector that looks at no element reaches the same paths, in the same order,
in the document that it wrote (`exists_select_changeAll`). It then reads what it wrote, and writing
the same value once more changes nothing, unless the value is an array (`changeAll_stable`).
-/

set_option autoImplicit false
set_option relaxedAutoImplicit false

namespace DocTree

variable {predicate : Option NativePredicate} {root new : Value} {text : String}
  {selector : Selector} {filter : Filter} {change : Change} {path : Path} {records : List Record}

/-! ### Selecting again after a run of writes -/

theorem Value.DistinctKeys.changeAt (hroot : root.DistinctKeys) (hchange : change.DistinctKeys)
    (paths : List Path) (count : Nat) :
    (Value.changeAt change paths (count, root)).2.DistinctKeys := by
  induction paths generalizing count root with
  | nil => exact hroot
  | cons path rest ih =>
    cases houtcome : root.outcomeAt? change path with
    | none =>
      rw [Value.changeAt_cons_of_refused houtcome]
      exact ih hroot count
    | some new =>
      rw [Value.changeAt_cons_of_taken houtcome]
      exact ih (hroot.fill path (hroot.outcomeAt? hchange houtcome)) (count + 1)

theorem Selector.exists_key_of_endsInKey {k : Nat} (hfilter : selector[k]? = some filter)
    (hlast : k + 1 = selector.length) (hends : selector.endsInKey = true) :
    ∃ name, filter = .key name := by
  have hgetLast : selector.getLast? = some filter := by
    rw [List.getLast?_eq_getElem?, ← hlast, Nat.add_sub_cancel, hfilter]
  rw [endsInKey, hgetLast] at hends
  cases filter with
  | key name => exact ⟨name, rfl⟩
  | _ => cases hends

/-- The filters of a selector choose the same in the document that it writes, at all paths that they
come to. -/
theorem Level.segmentsAt?_changeAt (hlevel : Level predicate root selector records)
    (hignores : ∀ filter ∈ selector, filter.ignoresElements) (change : Change) {k : Nat}
    (hfilter : selector[k]? = some filter) (hpath : path.length = k) :
    filter.segmentsAt? predicate
        (Value.changeAt change (records.map Record.path) (0, root)).2 path =
      filter.segmentsAt? predicate root path := by
  have hk : k < selector.length := (List.getElem?_eq_some_iff.mp hfilter).1
  refine Value.changeAt_induction
    (motive := fun met ↦ filter.segmentsAt? predicate met path =
      filter.segmentsAt? predicate root path)
    (hlevel.ordered.imp Value.Precedes.apart) 0 rfl ?_
  intro longer hlonger met new hmet hslot houtcome
  obtain ⟨record, hrecord, rfl⟩ := List.mem_map.mp hlonger
  have hlength := ((hlevel.reached record.path).mp hlonger).1
  obtain ⟨slot, hfound⟩ := Option.isSome_iff_exists.mp (Value.slot?_isSome_of_outcomeAt? houtcome)
  refine (Filter.segmentsAt?_fill (hignores filter (List.mem_of_getElem? hfilter)) (by omega)
    hfound ?_ new).trans hmet
  -- A key is added only where the selector ends in one.
  rintro rfl hlast
  refine Selector.exists_key_of_endsInKey hfilter (by omega) ?_
  rw [hslot, hlevel.slot?_eq hrecord] at hfound
  split at hfound
  · rename_i hopen
    rw [Option.some_inj] at hfound
    simpa [hfound] using hopen
  · cases hfound

namespace Value

theorem changeAll_eq_changeAt (hselect : root.select predicate text = .ok records)
    (change : Change) : root.changeAll predicate text change =
      changeAt change (records.map Record.path) (0, root) := by
  simp [changeAll, hselect]

theorem distinctKeys_changeAll (hroot : root.DistinctKeys) (hchange : change.DistinctKeys)
    (predicate : Option NativePredicate) (text : String) :
    (root.changeAll predicate text change).2.DistinctKeys := by
  cases hselect : root.select predicate text with
  | ok records =>
    rw [changeAll_eq_changeAt hselect]
    exact hroot.changeAt hchange _ 0
  | error cause => simpa only [changeAll, hselect] using hroot

theorem pairwise_apart_of_select (hroot : root.DistinctKeys)
    (hparse : Selector.parse text = .ok selector)
    (hselect : root.select predicate text = .ok records) :
    (records.map Record.path).Pairwise Path.Apart :=
  (level_of_select hroot hparse hselect).ordered.imp Precedes.apart

/-- A selector that looks at no element reaches the same paths in the document that it writes. -/
theorem exists_select_changeAll (hroot : root.DistinctKeys) (hchange : change.DistinctKeys)
    (hparse : Selector.parse text = .ok selector)
    (hignores : ∀ filter ∈ selector, filter.ignoresElements)
    (hselect : root.select predicate text = .ok records) :
    ∃ again, (root.changeAll predicate text change).2.select predicate text = .ok again ∧
      again.map Record.path = records.map Record.path ∧
        ∀ record ∈ again, record.Sound (root.changeAll predicate text change).2 := by
  have hlevel := level_of_select hroot hparse hselect
  have hnew : (changeAt change (records.map Record.path) (0, root)).2.DistinctKeys :=
    hroot.changeAt hchange _ 0
  obtain ⟨found, hfound, hrun⟩ := Except.bind_eq_ok_iff.mp hselect
  obtain rfl : found = selector := Except.ok.inj (hfound.symm.trans hparse)
  rw [changeAll_eq_changeAt hselect change]
  have hstart : Record.Twin root (changeAt change (records.map Record.path) (0, root)).2 0
      (.ofRoot root) (.ofRoot (changeAt change (records.map Record.path) (0, root)).2) :=
    ⟨rfl, rfl, (get?_nil _).symm, (get?_nil _).symm⟩
  obtain ⟨again, hagain, htwins⟩ := Selector.resolveFrom_twin hroot hnew (.cons hstart .nil)
    (fun k filter hfilter path hpath ↦
      hlevel.segmentsAt?_changeAt hignores change hfilter (by omega)) hrun
  exact ⟨again, Except.bind_eq_ok_iff.mpr ⟨found, hparse, hagain⟩, Record.Twin.map_path htwins,
    Record.Twin.forall_sound htwins⟩

/-! ### Replacing -/

variable {incoming : Value} {paths : List Path}

/-- A replacement is refused only where nothing can be written. -/
theorem outcomeAt?_replace_eq_none_iff :
    root.outcomeAt? (.replace incoming) path = none ↔ root.slot? path = none := by
  rw [outcomeAt?]
  cases root.slot? path with
  | none => simp
  | some slot => cases slot <;> simp [Change.onSlot?, Change.outcome?, Change.fresh?]

/-- After a run of replacements the slots of its paths hold what each replacement made of what was
there before the run. -/
theorem slot?_changeAt_replace (hapart : paths.Pairwise Path.Apart) (count : Nat) (root : Value)
    (hpath : path ∈ paths) :
    (changeAt (.replace incoming) paths (count, root)).2.slot? path =
      (root.outcomeAt? (.replace incoming) path).map some := by
  obtain ⟨-, hwritten, hframe⟩ := changeAt_run (.replace incoming) hapart count root
  cases houtcome : root.outcomeAt? (.replace incoming) path with
  | some new => exact hwritten path hpath new houtcome
  | none =>
    rw [hframe path, outcomeAt?_replace_eq_none_iff.mp houtcome, Option.map_none]
    intro other hother htaken
    have hsymm : Std.Symm Path.Apart := ⟨fun _ _ hpair ↦ hpair.symm⟩
    refine hapart.forall hother hpath ?_
    rintro rfl
    simp [houtcome] at htaken

theorem merge_of_scalar {scalar : Value} (hscalar : scalar.isContainer = false) (value : Value) :
    value.merge scalar = scalar := by
  cases scalar with
  | array items => cases hscalar
  | object entries => cases hscalar
  | _ => cases value <;> rfl

theorem eq_of_outcomeAt?_scalar {scalar : Value} (hscalar : scalar.isContainer = false)
    (houtcome : root.outcomeAt? (.replace scalar) path = some new) : new = scalar := by
  obtain ⟨slot, -, hnew⟩ := Option.bind_eq_some_iff.mp houtcome
  cases slot with
  | none => exact (Option.some_inj.mp hnew).symm
  | some old => rw [← Option.some_inj.mp hnew, merge_of_scalar hscalar]

/-- A selector that looks at no element reads as many copies of a scalar as it wrote. -/
theorem getAll_changeAll_scalar {scalar : Value} (hroot : root.DistinctKeys)
    (hparse : Selector.parse text = .ok selector)
    (hignores : ∀ filter ∈ selector, filter.ignoresElements)
    (hselect : root.select predicate text = .ok records) (hscalar : scalar.isContainer = false) :
    (root.changeAll predicate text (.replace scalar)).2.getAll predicate text =
      List.replicate (root.changeAll predicate text (.replace scalar)).1 scalar := by
  have hapart := pairwise_apart_of_select hroot hparse hselect
  have hchange : (Change.replace scalar).DistinctKeys := distinctKeys_of_scalar hscalar
  obtain ⟨again, hagain, hpaths, hsound⟩ :=
    exists_select_changeAll hroot hchange hparse hignores hselect
  have hcount := (changeAt_run (.replace scalar) hapart 0 root).1
  rw [changeAll_eq_changeAt hselect] at hagain hsound ⊢
  have hsources : again.filterMap Record.source =
      (records.map Record.path).filterMap (root.outcomeAt? (.replace scalar)) := by
    rw [← hpaths, List.filterMap_map]
    refine List.filterMap_congr fun record hmem ↦ ?_
    have hpath : record.path ∈ records.map Record.path := hpaths ▸ List.mem_map_of_mem hmem
    rw [Function.comp_apply, hsound record hmem, get?_eq_slot?,
      slot?_changeAt_replace hapart 0 root hpath]
    cases root.outcomeAt? (.replace scalar) record.path <;> rfl
  rw [getAll, hagain]
  dsimp only
  rw [hsources, hcount, Nat.zero_add, List.eq_replicate_iff, List.length_filterMap_eq_countP]
  refine ⟨rfl, fun value hvalue ↦ ?_⟩
  obtain ⟨path, -, houtcome⟩ := List.mem_filterMap.mp hvalue
  exact eq_of_outcomeAt?_scalar hscalar houtcome

/-! ### Replacing twice -/

/-- A run of writes changes nothing when every path holds what the change would make of it. -/
theorem changeAt_eq_self (hsettled : ∀ path ∈ paths, ∀ new,
      root.outcomeAt? change path = some new → root.slot? path = some (some new)) (count : Nat) :
    (changeAt change paths (count, root)).2 = root := by
  induction paths generalizing count with
  | nil => rfl
  | cons path rest ih =>
    obtain ⟨hfirst, hrest⟩ := List.forall_mem_cons.mp hsettled
    cases houtcome : root.outcomeAt? change path with
    | none => rw [changeAt_cons_of_refused houtcome, ih hrest]
    | some new =>
      rw [changeAt_cons_of_taken houtcome, fill_of_slot? (hfirst new houtcome), ih hrest]

theorem merge_of_outcomeAt? (hincoming : incoming.DistinctKeys) (harray : incoming.kind ≠ .array)
    (houtcome : root.outcomeAt? (.replace incoming) path = some new) :
    new.merge incoming = new := by
  obtain ⟨slot, -, hnew⟩ := Option.bind_eq_some_iff.mp houtcome
  cases slot with
  | none => rw [← Option.some_inj.mp hnew, merge_self hincoming harray]
  | some old => rw [← Option.some_inj.mp hnew, merge_merge hincoming harray]

/-- Replacing once more with the same value, no array, changes nothing. -/
theorem changeAt_replace_again (hincoming : incoming.DistinctKeys) (harray : incoming.kind ≠ .array)
    (hapart : paths.Pairwise Path.Apart) (root : Value) :
    (changeAt (.replace incoming) paths
        (0, (changeAt (.replace incoming) paths (0, root)).2)).2 =
      (changeAt (.replace incoming) paths (0, root)).2 := by
  refine changeAt_eq_self (fun path hpath new hnew ↦ ?_) 0
  have hslot : (changeAt (.replace incoming) paths (0, root)).2.slot? path =
      (root.outcomeAt? (.replace incoming) path).map some :=
    slot?_changeAt_replace hapart 0 root hpath
  rw [outcomeAt?, hslot] at hnew
  rw [hslot]
  cases houtcome : root.outcomeAt? (.replace incoming) path with
  | none =>
    rw [houtcome] at hnew
    cases hnew
  | some made =>
    rw [houtcome] at hnew
    obtain rfl : made.merge incoming = new := Option.some_inj.mp hnew
    rw [merge_of_outcomeAt? hincoming harray houtcome, Option.map_some]

/-- A selector that looks at no element reaches the same paths in the document that it writes,
whatever the change. It then reads as many copies of a scalar as it wrote, and replacing once more
with the same value, no array, changes nothing. -/
theorem changeAll_stable (hroot : root.DistinctKeys)
    (hparse : Selector.parse text = .ok selector)
    (hignores : ∀ filter ∈ selector, filter.ignoresElements)
    (hselect : root.select predicate text = .ok records) :
    (∀ change : Change, change.DistinctKeys → ∃ again,
        (root.changeAll predicate text change).2.select predicate text = .ok again ∧
          again.map Record.path = records.map Record.path) ∧
      (∀ scalar : Value, scalar.isContainer = false →
        (root.changeAll predicate text (.replace scalar)).2.getAll predicate text =
          List.replicate (root.changeAll predicate text (.replace scalar)).1 scalar) ∧
        ∀ incoming : Value, incoming.DistinctKeys → incoming.kind ≠ .array →
          ((root.changeAll predicate text (.replace incoming)).2.changeAll predicate text
              (.replace incoming)).2 =
            (root.changeAll predicate text (.replace incoming)).2 := by
  have hapart := pairwise_apart_of_select hroot hparse hselect
  refine ⟨fun change hchange ↦ ?again, fun scalar hscalar ↦ ?read,
    fun incoming hincoming harray ↦ ?twice⟩
  case again =>
    obtain ⟨again, hagain, hpaths, -⟩ :=
      exists_select_changeAll hroot hchange hparse hignores hselect
    exact ⟨again, hagain, hpaths⟩
  case read => exact getAll_changeAll_scalar hroot hparse hignores hselect hscalar
  case twice =>
    have hchange : (Change.replace incoming).DistinctKeys := hincoming
    obtain ⟨again, hagain, hpaths, -⟩ :=
      exists_select_changeAll hroot hchange hparse hignores hselect
    rw [changeAll_eq_changeAt hagain, hpaths, changeAll_eq_changeAt hselect]
    exact changeAt_replace_again hincoming harray hapart root

/-- In the document of rows the key is found again in the row that had it and in the one that got it,
an integer is read back from both, and an object may be written twice. -/
theorem changeAll_stable_rows :
    (∃ again, (rowsDocument.changeAll none "?(@=a)[..]/c" (.replace (.int 7))).2.select none
        "?(@=a)[..]/c" = .ok again ∧ again.map Record.path = rowsRecords.map Record.path) ∧
      (rowsDocument.changeAll none "?(@=a)[..]/c" (.replace (.int 7))).2.getAll none
        "?(@=a)[..]/c" = [.int 7, .int 7] ∧
      ((rowsDocument.changeAll none "?(@=a)[..]/c" (.replace (.object [("d", .null)]))).2.changeAll
          none "?(@=a)[..]/c" (.replace (.object [("d", .null)]))).2 =
        (rowsDocument.changeAll none "?(@=a)[..]/c" (.replace (.object [("d", .null)]))).2 := by
  have hignores : ∀ filter ∈ rowsSelector, filter.ignoresElements := by
    simp [rowsSelector, Filter.ignoresElements]
  obtain ⟨hagain, hread, htwice⟩ :=
    changeAll_stable rowsDocument_distinctKeys parse_rowsSelector hignores select_rowsRecords
  have hcount : (rowsDocument.changeAll none "?(@=a)[..]/c" (.replace (.int 7))).1 = 2 := by
    rw [changeAll_eq_changeAt select_rowsRecords]
    rfl
  refine ⟨hagain _ trivial, ?_, htwice _ ?_ (by decide)⟩
  · rw [hread (.int 7) rfl, hcount]
    rfl
  · simp [DistinctKeys, DistinctKeysEntries]

end Value

end DocTree
