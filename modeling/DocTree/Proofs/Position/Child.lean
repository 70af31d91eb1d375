import DocTree.Change

/-!
# Children of a value

A path is followed one segment at a time. `Value.child?` reads the child that a segment names,
`Value.withChild` writes it, and `Value.grows` says whether a child that is not there yet can be
added. An object takes any key and an array takes no index beyond its end. Reading after writing
obeys the laws of a store: the child just written is read back (`child?_withChild_self`) and every
other child is as it was (`child?_withChild_of_ne`).
-/

set_option autoImplicit false
set_option relaxedAutoImplicit false

namespace DocTree.Value

/-- The child that a segment names. -/
def child? (value : Value) : Segment → Option Value
  | .key name => value.atKey? name
  | .index position => value.atIndex? position

/-- The value with `new` as the child that a segment names. -/
def withChild (value : Value) (segment : Segment) (new : Value) : Value :=
  match value, segment with
  | object entries, .key name => object (Entries.insert entries name new)
  | array items, .index position => array (items.set position new)
  | other, _ => other

/-- Whether a value takes a child that it does not have yet. -/
def grows (value : Value) (segment : Segment) : Bool :=
  match value, segment with
  | object _, .key _ => true
  | _, _ => false

@[simp] theorem child?_object_key (entries : Entries Value) (name : String) :
    (object entries).child? (.key name) = Entries.get? entries name := rfl

@[simp] theorem child?_array_index (items : List Value) (position : Nat) :
    (array items).child? (.index position) = items[position]? := rfl

theorem child?_withChild_self {value : Value} {segment : Segment}
    (htaken : (value.child? segment).isSome ∨ value.grows segment) (new : Value) :
    (value.withChild segment new).child? segment = some new := by
  cases value with
  | object entries =>
    cases segment with
    | key name => exact Entries.get?_insert_self entries name new
    | index position => simp [child?, atIndex?, items?, grows] at htaken
  | array items =>
    cases segment with
    | key name => simp [child?, atKey?, entries?, grows] at htaken
    | index position =>
      have hbound : position < items.length := by
        rcases htaken with hchild | hgrows
        · simpa using hchild
        · simp [grows] at hgrows
      simp [withChild, hbound]
  | _ => cases segment <;> simp [child?, atKey?, atIndex?, entries?, items?, grows] at htaken

theorem child?_withChild_of_ne {segment other : Segment} (hne : segment ≠ other)
    (value new : Value) : (value.withChild segment new).child? other = value.child? other := by
  cases value with
  | object entries =>
    cases segment with
    | key name =>
      cases other with
      | key second =>
        have hname : name ≠ second := fun heq ↦ hne (congrArg Segment.key heq)
        exact Entries.get?_insert_of_ne hname new
      | index position => rfl
    | index position => rfl
  | array items =>
    cases segment with
    | key name => rfl
    | index position =>
      cases other with
      | key name => rfl
      | index second =>
        have hposition : position ≠ second := fun heq ↦ hne (congrArg Segment.index heq)
        simp [withChild, List.getElem?_set_ne hposition]
  | _ => rfl

/-- Writing a child does not change the kind of its parent. -/
@[simp] theorem grows_withChild (value : Value) (segment other : Segment) (new : Value) :
    (value.withChild segment new).grows other = value.grows other := by
  cases value <;> cases segment <;> cases other <;> rfl

/-! ### Following a path -/

@[simp] theorem get?_nil (value : Value) : value.get? [] = some value := by
  simp [get?]

theorem get?_cons (value : Value) (segment : Segment) (rest : Path) :
    value.get? (segment :: rest) = (value.child? segment).bind (·.get? rest) := by
  cases segment with
  | key name => cases hchild : value.atKey? name <;> simp [get?, child?, hchild]
  | index position => cases hchild : value.atIndex? position <;> simp [get?, child?, hchild]

theorem get?_cons_eq_some_iff {value found : Value} {segment : Segment} {rest : Path} :
    value.get? (segment :: rest) = some found ↔
      ∃ next, value.child? segment = some next ∧ next.get? rest = some found := by
  rw [get?_cons, Option.bind_eq_some_iff]

theorem get?_append (value : Value) (front rest : Path) :
    value.get? (front ++ rest) = (value.get? front).bind (·.get? rest) := by
  induction front generalizing value with
  | nil => rw [List.nil_append, get?_nil, Option.bind_some]
  | cons segment front ih =>
    rw [List.cons_append, get?_cons, get?_cons, Option.bind_assoc]
    exact congrArg (value.child? segment).bind (funext ih)

theorem get?_child (value : Value) (path : Path) (segment : Segment) :
    value.get? (path.child segment) = (value.get? path).bind (·.child? segment) := by
  rw [Path.child, get?_append]
  congr 1
  funext next
  rw [get?_cons]
  cases next.child? segment <;> rfl

end DocTree.Value
