import DocTree.Store
import Mathlib.Data.List.TakeWhile
import Mathlib.Tactic.SplitIfs

/-!
# The names beside a file

The temporary file and the backup of a file lie in its directory and have names of their own there.
A location ends with the name of its file (`getLast?_location`), and a file name that is changed at
its end leads to a location that ends with the changed name (`split?_changeLast`). So a backup is
never found where its file is (`ofName?_backup?_ne`), nor where the temporary file is
(`ofName?_backup?_ne_temporary`).
-/

set_option autoImplicit false
set_option relaxedAutoImplicit false

namespace DocTree.FileName

variable {name copy : String} {before : List String} {last : String} {location : Location}

/-- Whether a part of a name has no meaning at its end. -/
def IsIdle (part : String) : Prop := part = "" ∨ part = "."

/-- Whether a text can be the name of a file in its directory. -/
structure IsEntryName (text : String) : Prop where
  noSlash : '/' ∉ text.toList
  notIdle : ¬ IsIdle text
  notUpwards : text ≠ ".."

theorem not_mem_of_mem_splitOn {text piece : List Char} (hpiece : piece ∈ text.splitOn '/') :
    '/' ∉ piece := by
  induction text generalizing piece with
  | nil =>
    rw [List.splitOn_nil, List.mem_singleton] at hpiece
    rw [hpiece]
    exact List.not_mem_nil
  | cons c rest ih =>
    rw [List.splitOn_cons_eq_if_modifyHead] at hpiece
    split at hpiece
    · rcases List.mem_cons.mp hpiece with rfl | hlater
      · exact List.not_mem_nil
      · exact ih hlater
    · rename_i hc
      obtain ⟨first, pieces, hfirst⟩ := List.exists_cons_of_ne_nil (List.splitOn_ne_nil '/' rest)
      rw [hfirst, List.modifyHead_cons] at hpiece
      rcases List.mem_cons.mp hpiece with rfl | hlater
      · have hhead : '/' ∉ first := ih (hfirst ▸ List.mem_cons_self)
        rw [List.mem_cons, not_or]
        exact ⟨fun heq ↦ hc (beq_iff_eq.mpr heq.symm), hhead⟩
      · exact ih (hfirst ▸ List.mem_cons_of_mem _ hlater)

theorem not_mem_of_mem_parts {part : String} (hpart : part ∈ parts name) : '/' ∉ part.toList := by
  obtain ⟨piece, hpiece, rfl⟩ := List.mem_map.mp hpart
  rw [String.toList_ofList]
  exact not_mem_of_mem_splitOn hpiece

theorem parts_intercalate {pieces : List String} (hne : pieces ≠ [])
    (hpieces : ∀ piece ∈ pieces, '/' ∉ piece.toList) : parts ("/".intercalate pieces) = pieces := by
  have hslash : "/".toList = ['/'] := rfl
  rw [parts, String.toList_intercalate, hslash, List.splitOn_intercalate '/'
    (List.forall_mem_map.mpr hpieces) (by simpa using hne), List.map_map]
  simp

/-- A name that names a file has its parts in front, then the name of the file in its directory, and
then nothing of any meaning. -/
theorem parts_of_split? (hsplit : split? name = some (before, last)) :
    ∃ idle, parts name = before ++ last :: idle ∧ (∀ part ∈ idle, IsIdle part) ∧
      IsEntryName last := by
  unfold split? at hsplit
  split at hsplit
  · cases hsplit
  · rename_i found front hrest
    split_ifs at hsplit with hupwards
    obtain ⟨rfl, rfl⟩ := Prod.mk.inj (Option.some_inj.mp hsplit)
    have hparts := congrArg List.reverse (@List.takeWhile_append_dropWhile _
      (fun part : String ↦ part = "" || part = ".") (parts name).reverse)
    rw [hrest, List.reverse_append, List.reverse_cons, List.append_assoc, List.singleton_append,
      List.reverse_reverse] at hparts
    have hfound : found ∈ parts name := by
      rw [← hparts]
      simp
    refine ⟨_, hparts.symm, fun part hpart ↦ ?_, not_mem_of_mem_parts hfound, ?_, hupwards⟩
    · have hidle := List.mem_takeWhile_imp (List.mem_reverse.mp hpart)
      simpa [IsIdle] using hidle
    · have hhead := List.head?_dropWhile_not
        (fun part : String ↦ part = "" || part = ".") (parts name).reverse
      rw [hrest] at hhead
      simpa [IsIdle] using hhead

/-- A file name that is changed at its end has the changed name at its end. -/
theorem split?_changeLast {change : String → String} (hsplit : split? name = some (before, last))
    (hchange : IsEntryName (change last)) :
    split? (changeLast name change) = some (before, change last) := by
  obtain ⟨idle, hparts, -, -⟩ := parts_of_split? hsplit
  have hbefore : ∀ part ∈ before, '/' ∉ part.toList := fun part hpart ↦
    not_mem_of_mem_parts (hparts ▸ List.mem_append_left _ hpart)
  have hpieces : ∀ part ∈ before ++ [change last], '/' ∉ part.toList :=
    List.forall_mem_append.mpr ⟨hbefore, List.forall_mem_singleton.mpr hchange.noSlash⟩
  have hchanged : parts (changeLast name change) = before ++ [change last] := by
    rw [changeLast, hsplit]
    exact parts_intercalate (by simp) hpieces
  have hnot : ¬ (change last = "" ∨ change last = ".") := hchange.notIdle
  rw [split?, hchanged, List.reverse_concat, List.dropWhile_cons_of_neg (by simpa using hnot)]
  simp [hchange.notUpwards]

/-- A location ends with the name of its file in its directory. -/
theorem getLast?_location (hsplit : split? name = some (before, last))
    (hlocation : Location.ofName? name = some location) : location.getLast? = some last := by
  obtain ⟨idle, hparts, hidle, hlast⟩ := parts_of_split? hsplit
  unfold Location.ofName? at hlocation
  dsimp only at hlocation
  split_ifs at hlocation
  have hdropped : idle.filter (fun part ↦ part ≠ "" && part ≠ ".") = [] := by
    rw [List.filter_eq_nil_iff]
    intro part hpart
    rcases hidle part hpart with rfl | rfl <;> decide
  have hnot := hlast.notIdle
  rw [IsIdle, not_or] at hnot
  have hkept : (last :: idle).filter (fun part ↦ part ≠ "" && part ≠ ".") = [last] := by
    rw [List.filter_cons, hdropped]
    simp [hnot.1, hnot.2]
  rw [← Option.some_inj.mp hlocation, hparts, List.filter_append, hkept, List.getLast?_concat]

/-! ### Backups and temporary files -/

/-- A name with an ending that is no name of its own is a name again. -/
theorem isEntryName_append {stem ending : String} (hstem : '/' ∉ stem.toList)
    (hslash : '/' ∉ ending.toList) (hlong : 2 < ending.length) : IsEntryName (stem ++ ending) := by
  have hne : ∀ other : String, other.length ≤ 2 → stem ++ ending ≠ other := by
    intro other hshort heq
    rw [← heq, String.length_append] at hshort
    omega
  refine ⟨by simp [String.toList_append, hstem, hslash], ?_, hne ".." (by decide)⟩
  rintro (hempty | hpoint)
  · exact hne "" (by decide) hempty
  · exact hne "." (by decide) hpoint

theorem exists_of_backup? (hbackup : backup? name = some copy) :
    ∃ before last, split? name = some (before, last) ∧
      split? copy = some (before, last ++ ".bak") := by
  obtain ⟨⟨before, last⟩, hsplit, rfl⟩ := Option.map_eq_some_iff.mp hbackup
  obtain ⟨-, -, -, hlast⟩ := parts_of_split? hsplit
  exact ⟨before, last, hsplit, split?_changeLast hsplit
    (isEntryName_append hlast.noSlash (by decide) (by decide))⟩

theorem split?_temporary (hsplit : split? name = some (before, last)) :
    ∃ stem, split? (temporary name) = some (before, stem ++ ".tmp") := by
  obtain ⟨-, -, -, hlast⟩ := parts_of_split? hsplit
  have hstem : '/' ∉ (splitExtension last.toList).1 := by
    unfold splitExtension
    dsimp only
    split
    · exact hlast.noSlash
    · exact fun hmem ↦ hlast.noSlash (List.mem_of_mem_take hmem)
  have hname : String.ofList ((splitExtension last.toList).1 ++ ['.', 't', 'm', 'p']) =
      String.ofList (splitExtension last.toList).1 ++ ".tmp" := by
    rw [String.ofList_append]
  refine ⟨String.ofList (splitExtension last.toList).1, ?_⟩
  rw [temporary, ← hname]
  refine split?_changeLast hsplit ?_
  rw [hname]
  exact isEntryName_append (by rwa [String.toList_ofList]) (by decide) (by decide)

/-- A backup is not found where its file is. -/
theorem ofName?_backup?_ne (hbackup : backup? name = some copy)
    (hlocation : Location.ofName? name = some location) :
    Location.ofName? copy ≠ some location := by
  intro hcopy
  obtain ⟨before, last, hsplit, hsplitCopy⟩ := exists_of_backup? hbackup
  have hlast := getLast?_location hsplit hlocation
  rw [getLast?_location hsplitCopy hcopy, Option.some_inj] at hlast
  have hlength := congrArg (fun text ↦ text.toList.length) hlast
  simp [String.toList_append] at hlength

/-- A backup is not found where the temporary file is. -/
theorem ofName?_backup?_ne_temporary (hbackup : backup? name = some copy)
    (hlocation : Location.ofName? copy = some location) :
    Location.ofName? (temporary name) ≠ some location := by
  intro htemporary
  obtain ⟨before, last, hsplit, hsplitCopy⟩ := exists_of_backup? hbackup
  obtain ⟨stem, hsplitTemporary⟩ := split?_temporary hsplit
  have hlast := getLast?_location hsplitCopy hlocation
  rw [getLast?_location hsplitTemporary htemporary, Option.some_inj] at hlast
  -- The two names differ in their last characters.
  have hend := congrArg (fun text ↦ text.toList.getLast?) hlast
  simp [String.toList_append] at hend

end DocTree.FileName
