import DocTree.Proofs.Selector.Segments

/-!
# The records that a selector reaches

`Selector.Reaches` says which paths a selector names without running it: each prefix of the path
leads to a value from which the next filter selects the next segment. `Level` is what holds of the
records after each filter of a run: they are at exactly the paths that the filters so far reach,
each with the value that its path leads to, and in document order. One filter takes a level to the
next (`Level.step`), and so a whole run ends at the level of its selector (`Level.run`).
-/

set_option autoImplicit false
set_option relaxedAutoImplicit false

namespace DocTree

variable {predicate : Option NativePredicate} {root : Value} {selector : Selector}
  {filter : Filter} {records : List Record}

/-! ### Reaching a path -/

/-- Whether each filter of a selector selects the segment of a path that stands in its place, from
the value that the segments before it lead to. -/
def Selector.Reaches (predicate : Option NativePredicate) (root : Value) (selector : Selector)
    (path : Path) : Prop :=
  path.length = selector.length ∧
    ∀ k filter segment, selector[k]? = some filter → path[k]? = some segment →
      ∃ value, root.get? (path.take k) = some value ∧ filter.Selects predicate value segment

theorem Selector.reaches_nil_iff {path : Path} : Reaches predicate root [] path ↔ path = [] := by
  simp [Reaches]

theorem Selector.reaches_concat_iff {path : Path} :
    Reaches predicate root (selector ++ [filter]) path ↔
      ∃ front segment value, path = front.child segment ∧ selector.Reaches predicate root front ∧
        root.get? front = some value ∧ filter.Selects predicate value segment := by
  constructor
  · rintro ⟨hlength, hsteps⟩
    rw [List.length_append, List.length_singleton] at hlength
    have hne : path ≠ [] := List.ne_nil_of_length_eq_add_one hlength
    obtain ⟨front, segment, rfl⟩ : ∃ front segment, path = front ++ [segment] :=
      ⟨path.dropLast, path.getLast hne, (List.dropLast_append_getLast hne).symm⟩
    rw [List.length_append, List.length_singleton, Nat.add_right_cancel_iff] at hlength
    obtain ⟨value, hvalue, hselects⟩ := hsteps selector.length filter segment
      List.getElem?_concat_length (hlength ▸ List.getElem?_concat_length)
    rw [← hlength, List.take_left] at hvalue
    refine ⟨front, segment, value, rfl, ⟨hlength, ?_⟩, hvalue, hselects⟩
    intro k earlier next hearlier hnext
    have hk : k < front.length := (List.getElem?_eq_some_iff.mp hnext).1
    have hstep := hsteps k earlier next
      (by rwa [List.getElem?_append_left (hlength ▸ hk)]) (by rwa [List.getElem?_append_left hk])
    rwa [List.take_append_of_le_length (Nat.le_of_lt hk)] at hstep
  · rintro ⟨front, segment, value, rfl, ⟨hlength, hsteps⟩, hvalue, hselects⟩
    refine ⟨by simp [Path.child, hlength], fun k earlier next hearlier hnext ↦ ?_⟩
    rw [Path.child] at hnext ⊢
    by_cases hk : k < front.length
    · rw [List.getElem?_append_left (hlength ▸ hk)] at hearlier
      rw [List.getElem?_append_left hk] at hnext
      rw [List.take_append_of_le_length (Nat.le_of_lt hk)]
      exact hsteps k earlier next hearlier hnext
    · have hlast : k = front.length := by
        have := (List.getElem?_eq_some_iff.mp hnext).1
        simp only [List.length_append, List.length_singleton] at this
        omega
      subst hlast
      rw [hlength, List.getElem?_concat_length, Option.some_inj] at hearlier
      rw [List.getElem?_concat_length, Option.some_inj] at hnext
      rw [List.take_left, ← hearlier, ← hnext]
      exact ⟨value, hvalue, hselects⟩

/-! ### One filter -/

namespace Filter

/-- The records that a filter reaches from one record, none if it cannot be run. -/
def children (predicate : Option NativePredicate) (filter : Filter) (record : Record) :
    List Record :=
  match filter.expand predicate record with
  | .ok reached => reached
  | .error _ => []

theorem expandAll_eq_ok {next : List Record}
    (hexpand : filter.expandAll predicate records = .ok next) :
    next = records.flatMap (filter.children predicate) ∧
      ∀ record ∈ records,
        filter.expand predicate record = .ok (filter.children predicate record) := by
  induction records generalizing next with
  | nil =>
    cases hexpand
    simp
  | cons record rest ih =>
    obtain ⟨reached, hreached, hrest⟩ := Except.bind_eq_ok_iff.mp hexpand
    obtain ⟨later, hlater, hnext⟩ := Except.bind_eq_ok_iff.mp hrest
    obtain ⟨rfl, hall⟩ := ih hlater
    have hchildren : filter.children predicate record = reached := by
      rw [children, hreached]
    refine ⟨?_, fun other hother ↦ ?_⟩
    · rw [List.flatMap_cons, hchildren]
      exact (Except.ok.inj hnext).symm
    · rcases List.mem_cons.mp hother with rfl | hmem
      · rw [hchildren, hreached]
      · exact hall other hmem

end Filter

/-- A record with the value that its path leads to. -/
def Record.Sound (root : Value) (record : Record) : Prop := record.source = root.get? record.path

theorem Record.Sound.descend {record : Record} {value : Value} (hrecord : record.Sound root)
    (hsource : record.source = some value) (segment : Segment) :
    (record.descend value segment).Sound root := by
  show value.child? segment = root.get? (record.path.child segment)
  rw [Value.get?_child, ← hrecord, hsource, Option.bind_some]

/-- The children of a record lie at the segments that the filter lists for its value. -/
theorem Filter.children_cases {record : Record} (hroot : root.DistinctKeys)
    (hrecord : record.Sound root)
    (hexpand : filter.expand predicate record = .ok (filter.children predicate record)) :
    (record.source = none ∧ filter.children predicate record = []) ∨
      ∃ value segments, record.source = some value ∧
        filter.segments predicate value = .ok segments ∧
        filter.children predicate record = segments.map (record.descend value) := by
  cases hsource : record.source with
  | none =>
    rw [expand_of_missing hsource] at hexpand
    exact .inl ⟨rfl, (Except.ok.inj hexpand).symm⟩
  | some value =>
    have hvalue : value.DistinctKeys := hroot.get? (hrecord.symm.trans hsource)
    rw [expand_eq hvalue hsource, Except.map_eq_ok_iff] at hexpand
    obtain ⟨segments, hsegments, hchildren⟩ := hexpand
    exact .inr ⟨value, segments, rfl, hsegments, hchildren⟩

/-- The records that a filter reaches from one record are those of the children that it selects. -/
theorem Filter.mem_children_iff {record child : Record} (hroot : root.DistinctKeys)
    (hfilter : filter.rangeFree) (hrecord : record.Sound root)
    (hexpand : filter.expand predicate record = .ok (filter.children predicate record)) :
    child ∈ filter.children predicate record ↔ ∃ value segment, record.source = some value ∧
      filter.Selects predicate value segment ∧ child = record.descend value segment := by
  rcases children_cases hroot hrecord hexpand with
    ⟨hsource, hnil⟩ | ⟨value, segments, hsource, hsegments, heq⟩
  · simp [hsource, hnil]
  · rw [heq, List.mem_map, hsource]
    constructor
    · rintro ⟨segment, hmem, rfl⟩
      exact ⟨value, segment, rfl, (mem_segments_iff hfilter hsegments segment).mp hmem, rfl⟩
    · rintro ⟨other, segment, hother, hselects, rfl⟩
      obtain rfl := Option.some_inj.mp hother
      exact ⟨segment, (mem_segments_iff hfilter hsegments segment).mpr hselects, rfl⟩

theorem Filter.children_sorted {record : Record} (hroot : root.DistinctKeys)
    (hrecord : record.Sound root)
    (hexpand : filter.expand predicate record = .ok (filter.children predicate record)) :
    ((filter.children predicate record).map Record.path).Pairwise root.Precedes := by
  rcases children_cases hroot hrecord hexpand with
    ⟨-, hnil⟩ | ⟨value, segments, hsource, hsegments, heq⟩
  · simp [hnil]
  · have hvalue : root.get? record.path = some value := hrecord.symm.trans hsource
    rw [heq, List.map_map, List.pairwise_map]
    exact (segments_sorted (hroot.get? hvalue) hsegments).imp (Value.precedes_of_before hvalue)

/-! ### Levels -/

/-- What holds of the records that some filters have reached from a root. -/
structure Level (predicate : Option NativePredicate) (root : Value) (selector : Selector)
    (records : List Record) : Prop where
  sound : ∀ record ∈ records, record.Sound root
  reached : ∀ path, path ∈ records.map Record.path ↔ selector.Reaches predicate root path
  ordered : (records.map Record.path).Pairwise root.Precedes

theorem Level.ofRoot : Level predicate root [] [.ofRoot root] where
  sound := by simp [Record.Sound, Record.ofRoot]
  reached := fun path ↦ by simp [Selector.reaches_nil_iff, Record.ofRoot]
  ordered := by simp

/-- One filter takes the records of a level to those of the next. -/
theorem Level.step {next : List Record} (hroot : root.DistinctKeys) (hfilter : filter.rangeFree)
    (hlevel : Level predicate root selector records)
    (hexpand : filter.expandAll predicate records = .ok next) :
    Level predicate root (selector ++ [filter]) next := by
  obtain ⟨rfl, hall⟩ := Filter.expandAll_eq_ok hexpand
  have hchildren : ∀ record ∈ records, ∀ child, child ∈ filter.children predicate record ↔
      ∃ value segment, record.source = some value ∧ filter.Selects predicate value segment ∧
        child = record.descend value segment := fun record hmem child ↦
    Filter.mem_children_iff hroot hfilter (hlevel.sound record hmem) (hall record hmem)
  refine ⟨fun child hchild ↦ ?sound, fun path ↦ ?reached, ?ordered⟩
  case sound =>
    obtain ⟨record, hmem, hchild⟩ := List.mem_flatMap.mp hchild
    obtain ⟨value, segment, hsource, -, rfl⟩ := (hchildren record hmem child).mp hchild
    exact (hlevel.sound record hmem).descend hsource segment
  case reached =>
    rw [Selector.reaches_concat_iff]
    constructor
    · intro hpath
      obtain ⟨child, hchild, rfl⟩ := List.mem_map.mp hpath
      obtain ⟨record, hmem, hchild⟩ := List.mem_flatMap.mp hchild
      obtain ⟨value, segment, hsource, hselects, rfl⟩ := (hchildren record hmem child).mp hchild
      exact ⟨record.path, segment, value, rfl, (hlevel.reached _).mp (List.mem_map_of_mem hmem),
        (hlevel.sound record hmem).symm.trans hsource, hselects⟩
    · rintro ⟨front, segment, value, rfl, hfront, hvalue, hselects⟩
      obtain ⟨record, hmem, rfl⟩ := List.mem_map.mp ((hlevel.reached front).mpr hfront)
      have hsource : record.source = some value := (hlevel.sound record hmem).trans hvalue
      refine List.mem_map.mpr ⟨record.descend value segment, List.mem_flatMap.mpr ?_, rfl⟩
      exact ⟨record, hmem, (hchildren record hmem _).mpr ⟨value, segment, hsource, hselects, rfl⟩⟩
  case ordered =>
    rw [List.map_flatMap, List.pairwise_flatMap]
    refine ⟨fun record hmem ↦
      Filter.children_sorted hroot (hlevel.sound record hmem) (hall record hmem), ?_⟩
    have hordered := List.pairwise_map.mp hlevel.ordered
    refine hordered.imp_of_mem fun {first second} hfirst hsecond hprecedes ↦ ?_
    -- Children of different records part where the records do.
    intro path hpath other hother
    obtain ⟨child, hchild, rfl⟩ := List.mem_map.mp hpath
    obtain ⟨sibling, hsibling, rfl⟩ := List.mem_map.mp hother
    obtain ⟨value, segment, -, -, rfl⟩ := (hchildren first hfirst child).mp hchild
    obtain ⟨source, next, -, -, rfl⟩ := (hchildren second hsecond sibling).mp hsibling
    exact hprecedes.child segment next

/-- The records of a run are those of its selector. -/
theorem Level.run {rest : Selector} {final : List Record} (hroot : root.DistinctKeys)
    (hrest : ∀ filter ∈ rest, filter.rangeFree) (hlevel : Level predicate root selector records)
    (hrun : Selector.resolveFrom predicate records rest = .ok final) :
    Level predicate root (selector ++ rest) final := by
  induction rest generalizing selector records with
  | nil =>
    obtain rfl : records = final := Except.ok.inj hrun
    rwa [List.append_nil]
  | cons filter rest ih =>
    obtain ⟨next, hnext, hlater⟩ := Except.bind_eq_ok_iff.mp hrun
    have hstep := hlevel.step hroot (hrest filter List.mem_cons_self) hnext
    have hfinal := ih (fun other hother ↦ hrest other (List.mem_cons_of_mem _ hother)) hstep hlater
    rwa [List.append_assoc] at hfinal

end DocTree
