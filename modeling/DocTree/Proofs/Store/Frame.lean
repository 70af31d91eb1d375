import DocTree.Store

/-!
# What an operation of a store leaves alone

Each operation that succeeds changes the entries at the locations it is given names for, and no
other (`entryAt?_of_write?`, `entryAt?_of_copy?`, `entryAt?_of_rename?`). A file that was written is
there afterwards (`entryAt?_of_write?_self`), and nothing is left where a file was moved away from
(`entryAt?_of_rename?_source`).
-/

set_option autoImplicit false
set_option relaxedAutoImplicit false

namespace DocTree

/-- Whether a location is none of those that some names stand for. -/
def Location.Unnamed (names : List String) (location : Location) : Prop :=
  ∀ name ∈ names, Location.ofName? name ≠ some location

namespace Store

variable {store after : Store} {name source target : String} {content : List UInt8}
  {location other : Location}

theorem entryAt?_eraseAt_self (hroot : location ≠ []) :
    (store.eraseAt location).entryAt? location = none := by
  rw [entryAt?, if_neg hroot, eraseAt, List.lookup_eq_none_iff]
  intro entry hentry
  have hkept : entry.1 ≠ location := of_decide_eq_true (List.mem_filter.mp hentry).2
  simpa using hkept.symm

theorem entryAt?_eraseAt_of_ne (hne : other ≠ location) :
    (store.eraseAt location).entryAt? other = store.entryAt? other := by
  have hlookup : ∀ entries : List (Location × StoreEntry),
      (entries.filter fun entry ↦ entry.1 ≠ location).lookup other = entries.lookup other := by
    intro entries
    induction entries with
    | nil => rfl
    | cons entry rest ih =>
      obtain ⟨here, found⟩ := entry
      by_cases herased : here = location
      · have hother : (other == here) = false := by simpa [herased] using hne
        rw [List.filter_cons_of_neg (by simpa using herased), ih, List.lookup_cons, hother]
      · rw [List.filter_cons_of_pos (by simpa using herased), List.lookup_cons, ih,
          List.lookup_cons]
  simp only [entryAt?, eraseAt, hlookup]

theorem entryAt?_putAt_self (hroot : location ≠ []) (entry : StoreEntry) :
    (store.putAt location entry).entryAt? location = some entry := by
  simp [entryAt?, putAt, hroot]

theorem entryAt?_putAt_of_ne (hne : other ≠ location) (entry : StoreEntry) :
    (store.putAt location entry).entryAt? other = store.entryAt? other := by
  have hfirst : (other == location) = false := by simpa using hne
  have herased : (store.eraseAt location).entryAt? other = store.entryAt? other :=
    entryAt?_eraseAt_of_ne hne
  rw [← herased]
  simp only [entryAt?, putAt, List.lookup_cons, hfirst]

/-- A file is never written over the root. -/
theorem ne_nil_of_acceptsFileAt (haccepts : store.acceptsFileAt location = true) :
    location ≠ [] := by
  rintro rfl
  simp [acceptsFileAt, entryAt?] at haccepts

/-- A write puts a file at the location of its name. -/
theorem write?_eq_some_iff :
    store.write? name content = some after ↔
      ∃ location, Location.ofName? name = some location ∧ FileName.isOfDirectory name = false ∧
        store.acceptsFileAt location = true ∧ store.putAt location (.file content) = after := by
  simp only [write?, Option.bind_eq_bind, Option.bind_eq_some_iff]
  refine exists_congr fun location ↦ and_congr_right fun _ ↦ ?_
  cases FileName.isOfDirectory name <;> cases store.acceptsFileAt location <;> simp

theorem entryAt?_of_write? (hwrite : store.write? name content = some after)
    (hlocation : Location.ofName? name ≠ some location) :
    after.entryAt? location = store.entryAt? location := by
  obtain ⟨written, hname, -, -, rfl⟩ := write?_eq_some_iff.mp hwrite
  refine entryAt?_putAt_of_ne ?_ _
  rintro rfl
  exact hlocation hname

theorem entryAt?_of_write?_self (hwrite : store.write? name content = some after)
    (hlocation : Location.ofName? name = some location) :
    after.entryAt? location = some (.file content) := by
  obtain ⟨written, hname, -, haccepts, rfl⟩ := write?_eq_some_iff.mp hwrite
  obtain rfl : written = location := Option.some_inj.mp (hname.symm.trans hlocation)
  exact entryAt?_putAt_self (ne_nil_of_acceptsFileAt haccepts) _

/-- A name finds a file when there is one at its location and the name may stand for a file. -/
theorem entry?_eq_file_iff :
    store.entry? name = some (.file content) ↔
      ∃ location, Location.ofName? name = some location ∧ FileName.isOfDirectory name = false ∧
        store.entryAt? location = some (.file content) := by
  simp only [Option.filter_eq_some_iff, Option.bind_eq_some_iff, entry?]
  constructor
  · rintro ⟨⟨location, hname, hfile⟩, hkept⟩
    exact ⟨location, hname, by simpa using hkept, hfile⟩
  · rintro ⟨location, hname, hplain, hfile⟩
    exact ⟨⟨location, hname, hfile⟩, by simp [hplain]⟩

theorem read?_eq_some_iff :
    store.read? name = some content ↔ store.entry? name = some (.file content) := by
  unfold read?
  split
  · rename_i found hfound
    simp [hfound]
  · rename_i hother
    simp only [reduceCtorEq, false_iff]
    exact hother content

theorem entryAt?_of_copy? (hcopy : store.copy? source target = some after)
    (hlocation : Location.ofName? target ≠ some location) :
    after.entryAt? location = store.entryAt? location := by
  obtain ⟨content, -, hwrite⟩ := Option.bind_eq_some_iff.mp hcopy
  exact entryAt?_of_write? hwrite hlocation

/-- A move takes a file away from its location and writes it at the other one. -/
theorem exists_of_rename? (hrename : store.rename? source target = some after) :
    ∃ content location, Location.ofName? source = some location ∧
      store.entryAt? location = some (.file content) ∧
        (store.eraseAt location).write? target content = some after := by
  obtain ⟨content, hread, hmove⟩ := Option.bind_eq_some_iff.mp hrename
  obtain ⟨location, hsource, hwrite⟩ := Option.bind_eq_some_iff.mp hmove
  obtain ⟨found, hfound, -, hfile⟩ := entry?_eq_file_iff.mp (read?_eq_some_iff.mp hread)
  obtain rfl : found = location := Option.some_inj.mp (hfound.symm.trans hsource)
  exact ⟨content, found, hsource, hfile, hwrite⟩

theorem entryAt?_of_rename? (hrename : store.rename? source target = some after)
    (hsource : Location.ofName? source ≠ some location)
    (htarget : Location.ofName? target ≠ some location) :
    after.entryAt? location = store.entryAt? location := by
  obtain ⟨content, moved, hmoved, -, hwrite⟩ := exists_of_rename? hrename
  rw [entryAt?_of_write? hwrite htarget]
  refine entryAt?_eraseAt_of_ne ?_
  rintro rfl
  exact hsource hmoved

/-- Nothing is left where a file was moved away from. -/
theorem entryAt?_of_rename?_source (hrename : store.rename? source target = some after)
    (hsource : Location.ofName? source = some location)
    (htarget : Location.ofName? target ≠ some location) : after.entryAt? location = none := by
  obtain ⟨content, moved, hmoved, hfile, hwrite⟩ := exists_of_rename? hrename
  obtain rfl : moved = location := Option.some_inj.mp (hmoved.symm.trans hsource)
  have hroot : moved ≠ [] := by
    rintro rfl
    simp [entryAt?] at hfile
  rw [entryAt?_of_write? hwrite htarget]
  exact entryAt?_eraseAt_self hroot

end Store

end DocTree
