import DocTree.Proofs.Query.RoundTrip

/-!
# The grammar of filters

`Expression` is the grammar of the inside of a filter: operands with a connective between each two,
where an operand is a condition, or one or more groups in parentheses next to each other.
`Accepted` is the grammar of the texts that are read. The two differ in what may stand between two
connectives. Every expression is accepted (`Expression.accepted`); but an accepted text may also
have a connective at its end, which no expression has (`Expression.ne_sign_of_getLast?`), and a
condition with a group inside it (`Expression.plain_of_head?`). Parentheses are balanced in both
(`Accepted.balanced`).
-/

set_option autoImplicit false
set_option relaxedAutoImplicit false

namespace DocTree.Query

/-- Whether a text reads as a condition. -/
def Reads (text : List Char) : Prop := ∃ condition, Condition.parse text = .ok condition

/-- Whether a text is white space. -/
def Blank (text : List Char) : Prop := ∀ c ∈ text, Text.isBlank c = true

/-! ### Expressions -/

/-- One or more groups next to each other, with white space around them. -/
inductive Groups (inner : List Char → Prop) : List Char → Prop where
  | one {front inside back : List Char} (hfront : Blank front) (hinside : inner inside)
      (hback : Blank back) : Groups inner (front ++ '(' :: (inside ++ ')' :: back))
  | next {front inside rest : List Char} (hfront : Blank front) (hinside : inner inside)
      (hrest : Groups inner rest) : Groups inner (front ++ '(' :: (inside ++ ')' :: rest))

/-- What may stand between two connectives: a condition, or groups. -/
inductive Operand (inner : List Char → Prop) : List Char → Prop where
  | condition {text : List Char} (hplain : ∀ c ∈ text, Plain c) (hreads : Reads text) :
      Operand inner text
  | groups {text : List Char} (hgroups : Groups inner text) : Operand inner text

/-- One or more operands with a connective between each two. -/
inductive Joined (operand : List Char → Prop) : List Char → Prop where
  | one {text : List Char} (hoperand : operand text) : Joined operand text
  | more {first rest : List Char} (hfirst : operand first) (connective : Connective)
      (hrest : Joined operand rest) : Joined operand (first ++ connective.sign :: rest)

/-- The inside of a group that may hold groups `levels - 1` deep. -/
def Expression : Nat → List Char → Prop
  | 0, _ => False
  | levels + 1, text => Joined (Operand (Expression levels)) text

/-! ### What is accepted -/

/-- A text of plain characters and groups, where the plain characters put together are `loose`. -/
inductive Stretch (inner : List Char → Prop) : List Char → List Char → Prop where
  | nil : Stretch inner [] []
  | plain {c : Char} {loose text : List Char} (hc : Plain c) (hrest : Stretch inner loose text) :
      Stretch inner (c :: loose) (c :: text)
  | group {inside loose text : List Char} (hinside : inner inside)
      (hrest : Stretch inner loose text) : Stretch inner loose ('(' :: (inside ++ ')' :: text))

/-- Whether collected text may end here: it is nothing or a condition. -/
def Settles (text : List Char) : Prop := Blank text ∨ Reads text

/-- What is accepted between two connectives. -/
def Loose (inner : List Char → Prop) (text : List Char) : Prop :=
  ∃ loose, Stretch inner loose text ∧ Settles loose

/-- A character that is neither white space nor a connective. -/
def Solid (c : Char) : Prop := Text.isBlank c = false ∧ c ≠ '&' ∧ c ≠ '|'

/-- What is accepted as the inside of a group that may hold groups `levels - 1` deep. -/
def Accepted : Nat → List Char → Prop
  | 0, _ => False
  | levels + 1, text => Joined (Loose (Accepted levels)) text ∧ ∃ c ∈ text, Solid c

variable {inner : List Char → Prop} {text rest collected : List Char}

theorem not_reads_of_blank (hblank : Blank text) : ¬ Reads text := by
  rintro ⟨condition, hparse⟩
  rw [Condition.parse, Text.trim_eq_nil_of_blank hblank] at hparse
  cases hparse

theorem sign_cases (connective : Connective) : connective.sign = '&' ∨ connective.sign = '|' := by
  cases connective
  · exact .inl rfl
  · exact .inr rfl

theorem Joined.imp {operand other : List Char → Prop} (himp : ∀ text, operand text → other text)
    (hjoined : Joined operand text) : Joined other text := by
  induction hjoined with
  | one hoperand => exact .one (himp _ hoperand)
  | more hfirst connective hrest ih => exact .more (himp _ hfirst) connective ih

/-! ### Every expression is accepted -/

theorem Stretch.append {loose second more : List Char} (hfirst : Stretch inner loose text)
    (hsecond : Stretch inner second more) : Stretch inner (loose ++ second) (text ++ more) := by
  induction hfirst with
  | nil => exact hsecond
  | plain hc hrest ih => exact .plain hc ih
  | @group inside loose text hinside hrest ih =>
    rw [List.cons_append, List.append_assoc, List.cons_append]
    exact .group hinside ih

theorem stretch_of_plain (hplain : ∀ c ∈ text, Plain c) : Stretch inner text text := by
  induction text with
  | nil => exact .nil
  | cons c rest ih =>
    obtain ⟨hc, hrest⟩ := List.forall_mem_cons.mp hplain
    exact .plain hc (ih hrest)

theorem stretch_of_blank (hblank : Blank text) : Stretch inner text text :=
  stretch_of_plain fun c hc ↦ plain_of_isBlank (hblank c hc)

theorem Groups.exists_stretch (hgroups : Groups inner text) :
    ∃ loose, Stretch inner loose text ∧ Blank loose := by
  induction hgroups with
  | @one front inside back hfront hinside hback =>
    refine ⟨front ++ back, ?_, List.forall_mem_append.mpr ⟨hfront, hback⟩⟩
    exact (stretch_of_blank hfront).append (.group hinside (stretch_of_blank hback))
  | @next front inside rest hfront hinside hrest ih =>
    obtain ⟨loose, hstretch, hblank⟩ := ih
    refine ⟨front ++ loose, ?_, List.forall_mem_append.mpr ⟨hfront, hblank⟩⟩
    exact (stretch_of_blank hfront).append (.group hinside hstretch)

theorem Groups.exists_open (hgroups : Groups inner text) : '(' ∈ text := by
  cases hgroups <;> simp

theorem Operand.loose (hoperand : Operand inner text) : Loose inner text := by
  cases hoperand with
  | condition hplain hreads => exact ⟨text, stretch_of_plain hplain, .inr hreads⟩
  | groups hgroups =>
    obtain ⟨loose, hstretch, hblank⟩ := hgroups.exists_stretch
    exact ⟨loose, hstretch, .inl hblank⟩

theorem Operand.exists_solid (hoperand : Operand inner text) : ∃ c ∈ text, Solid c := by
  cases hoperand with
  | condition hplain hreads =>
    by_contra hnone
    refine not_reads_of_blank (fun c hc ↦ ?_) hreads
    obtain ⟨-, -, hall, hany⟩ := hplain c hc
    by_contra hsolid
    exact hnone ⟨c, hc, by simpa using hsolid, hall, hany⟩
  | groups hgroups => exact ⟨'(', hgroups.exists_open, by decide, by decide, by decide⟩

/-- Every expression is accepted. -/
theorem Expression.accepted {levels : Nat} (hexpression : Expression levels text) :
    Accepted levels text := by
  induction levels generalizing text with
  | zero => exact hexpression
  | succ levels ih =>
    have hloose : ∀ text, Operand (Expression levels) text → Loose (Accepted levels) text := by
      intro text hoperand
      refine Operand.loose ?_
      cases hoperand with
      | condition hplain hreads => exact .condition hplain hreads
      | groups hgroups =>
        refine .groups ?_
        induction hgroups with
        | one hfront hinside hback => exact .one hfront (ih hinside) hback
        | next hfront hinside hrest ihRest => exact .next hfront (ih hinside) ihRest
    refine ⟨Joined.imp hloose hexpression, ?_⟩
    cases hexpression with
    | one hoperand => exact hoperand.exists_solid
    | more hfirst connective hrest =>
      obtain ⟨c, hc, hsolid⟩ := hfirst.exists_solid
      exact ⟨c, List.mem_append_left _ hc, hsolid⟩

/-! ### Parentheses are balanced -/

theorem Stretch.balanced {loose : List Char} (hinner : ∀ inside, inner inside → Balanced inside)
    (hstretch : Stretch inner loose text) : Balanced text := by
  induction hstretch with
  | nil => exact .nil
  | plain hc hrest ih => exact .append (.other hc.1 hc.2.1) ih
  | @group inside loose text hinside hrest ih =>
    have hgroup := Balanced.append (.group (hinner inside hinside)) ih
    rwa [List.cons_append, List.append_assoc] at hgroup

theorem Accepted.balanced {levels : Nat} (haccepted : Accepted levels text) : Balanced text := by
  induction levels generalizing text with
  | zero => exact haccepted.elim
  | succ levels ih =>
    have hjoined := haccepted.1
    clear haccepted
    induction hjoined with
    | one hoperand =>
      obtain ⟨loose, hstretch, -⟩ := hoperand
      exact hstretch.balanced fun _ ↦ ih
    | more hfirst connective hrest ihRest =>
      obtain ⟨loose, hstretch, -⟩ := hfirst
      exact .append (hstretch.balanced fun _ ↦ ih) ((balanced_sign connective).append ihRest)

/-! ### What an expression is not -/

theorem Expression.ne_nil {levels : Nat} (hexpression : Expression levels text) : text ≠ [] := by
  rintro rfl
  cases levels with
  | zero => exact hexpression
  | succ levels =>
    obtain ⟨c, hc, -⟩ := (Expression.accepted hexpression).2
    cases hc

/-- No expression ends with a connective. -/
theorem Expression.ne_sign_of_getLast? {levels : Nat} (hexpression : Expression levels text)
    {c : Char} (hc : c ∈ text.getLast?) : c ≠ '&' ∧ c ≠ '|' := by
  cases levels with
  | zero => exact hexpression.elim
  | succ levels =>
    have hjoined : Joined (Operand (Expression levels)) text := hexpression
    clear hexpression
    induction hjoined with
    | one hoperand =>
      cases hoperand with
      | condition hplain hreads => exact (hplain c (List.mem_of_getLast? hc)).2.2
      | groups hgroups =>
        induction hgroups with
        | @one front inside back hfront hinside hback =>
          have hlast : c ∈ (')' :: back).getLast? := by
            rwa [List.getLast?_append_cons, List.getLast?_cons_of_ne_nil (by simp),
              List.getLast?_append_cons] at hc
          rcases List.mem_cons.mp (List.mem_of_getLast? hlast) with rfl | hmem
          · decide
          · exact (plain_of_isBlank (hback c hmem)).2.2
        | @next front inside rest hfront hinside hrest ih =>
          have hne : rest ≠ [] := List.ne_nil_of_mem hrest.exists_open
          refine ih ?_
          rwa [List.getLast?_append_cons, List.getLast?_cons_of_ne_nil (by simp),
            List.getLast?_append_cons, List.getLast?_cons_of_ne_nil hne] at hc
    | @more first rest hfirst connective hrest ih =>
      have hne : rest ≠ [] :=
        Expression.ne_nil (show Expression (levels + 1) rest from hrest)
      refine ih ?_
      rwa [List.getLast?_append_cons, List.getLast?_cons_of_ne_nil hne] at hc

/-- Without a connective, an expression that does not begin with a group has none: no condition
stands on both sides of a group. -/
theorem Expression.plain_of_head? {levels : Nat} (hexpression : Expression levels text)
    (hsigns : '&' ∉ text ∧ '|' ∉ text) {c : Char} (hc : c ∈ text.head?)
    (hblank : Text.isBlank c = false) (hopen : c ≠ '(') : ∀ d ∈ text, Plain d := by
  cases levels with
  | zero => exact hexpression.elim
  | succ levels =>
    cases hexpression with
    | one hoperand =>
      cases hoperand with
      | condition hplain hreads => exact hplain
      | groups hgroups =>
        have hfirst : ∀ {front tail : List Char}, Blank front →
            c ∉ (front ++ '(' :: tail).head? := by
          intro front tail hfront hhead
          cases front with
          | nil => exact hopen (Option.some_inj.mp hhead).symm
          | cons d front =>
            obtain rfl : d = c := Option.some_inj.mp hhead
            exact absurd (hfront d List.mem_cons_self) (by simp [hblank])
        cases hgroups with
        | one hfront hinside hback => exact absurd hc (hfirst hfront)
        | next hfront hinside hrest => exact absurd hc (hfirst hfront)
    | more hfirst connective hrest =>
      rcases sign_cases connective with hsign | hsign <;> simp [hsign] at hsigns

end DocTree.Query
