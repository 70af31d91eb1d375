import DocTree.Proofs.Query.Unmatched
import DocTree.Proofs.Selector.RoundTrip
import Mathlib.Algebra.GroupWithZero.Nat
import Mathlib.Data.List.TakeDrop

/-!
# The two bracket scanners

The query at the start of a component is cut off at a position in bytes, and a group is taken out of
a filter at positions in characters. Both positions come from the same walk over a text,
`Scanner.closingFrom`, which differs only in how wide a character is: it starts somewhere in the
text, counts the brackets that are open, and has a fault where a closing bracket would take the
count below zero. A walk that starts at an opening bracket has none, and it ends at the bracket that
`cutBalanced` cuts behind (`Scanner.closingFrom_group`). So the two scanners find the same
parenthesis (`Scanner.exists_closing`), and what is cut off is the shortest text that begins with a
parenthesis and closes it (`Selector.shortestBalanced_of_splitComponent`).
-/

set_option autoImplicit false
set_option relaxedAutoImplicit false

namespace DocTree

namespace Scanner

/-- What goes wrong in a run that checks neither its counters nor its cuts. -/
inductive Fault where
  /-- A counter at zero is decreased. -/
  | belowZero
  /-- A text is cut behind its end, or a piece of it would end before it begins. -/
  | outOfBounds
  /-- A text is cut between the bytes of a character. -/
  | insideCharacter
deriving DecidableEq

/-- How far a text reaches when each character is as wide as `width` says. -/
def span (width : Char → Nat) (text : List Char) : Nat := (text.map width).sum

/-- The position of the bracket that closes the first one opened at `start` or behind it. The text
begins at `position`, with `depth` brackets open before it. -/
def closingFrom (width : Char → Nat) (opening closing : Char) (start position depth : Nat) :
    List Char → Except Fault (Option Nat)
  | [] => .ok none
  | c :: rest =>
    let next := position + width c
    if position < start then closingFrom width opening closing start next depth rest
    else if c = opening then closingFrom width opening closing start next (depth + 1) rest
    else if c = closing then
      if depth = 0 then .error .belowZero
      else if depth = 1 then .ok (some position)
      else closingFrom width opening closing start next (depth - 1) rest
    else closingFrom width opening closing start next depth rest

/-- The position in bytes of the bracket that closes the first one opened at `start` or behind
it. -/
def closingByte (opening closing : Char) (start : Nat) (text : List Char) :
    Except Fault (Option Nat) :=
  closingFrom Char.utf8Size opening closing start 0 0 text

/-- The position in characters of the parenthesis that closes the first one opened at `start` or
behind it. -/
def closingChar (start : Nat) (text : List Char) : Except Fault (Option Nat) :=
  closingFrom (fun _ ↦ 1) '(' ')' start 0 0 text

variable {width : Char → Nat} {opening closing : Char} {start position : Nat}
  {front text : List Char}

@[simp]
theorem span_nil : span width [] = 0 := rfl

@[simp]
theorem span_cons (c : Char) (text : List Char) :
    span width (c :: text) = width c + span width text := by
  simp [span]

@[simp]
theorem span_append (front text : List Char) :
    span width (front ++ text) = span width front + span width text := by
  simp [span]

@[simp]
theorem span_one (text : List Char) : span (fun _ ↦ 1) text = text.length := by
  simp [span]

/-! ### Where a text is cut -/

section Cut

variable {before after : List Char}

/-- What is cut off ends with the bracket behind which it is cut. -/
theorem exists_of_cutBalanced (hne : opening ≠ closing) {depth : Nat}
    (hcut : Selector.cutBalanced opening closing (depth + 1) text = some (before, after)) :
    ∃ inside, before = inside ++ [closing] ∧ text = before ++ after := by
  induction text generalizing depth before after with
  | nil => cases hcut
  | cons c rest ih =>
    have hlater : ∀ {next}, (Selector.cutBalanced opening closing (next + 1) rest).map
        (Selector.behind [c]) = some (before, after) →
          ∃ inside, before = inside ++ [closing] ∧ c :: rest = before ++ after := by
      intro next hmap
      obtain ⟨parts, hparts, hbehind⟩ := Option.map_eq_some_iff.mp hmap
      obtain ⟨rfl, rfl⟩ := Prod.mk.inj hbehind
      obtain ⟨inside, hinside, hrest⟩ := ih hparts
      exact ⟨c :: inside, by rw [hinside]; rfl, by rw [hrest]; rfl⟩
    by_cases hopening : c = opening
    · subst hopening
      rw [Selector.cutBalanced_open hne] at hcut
      exact hlater hcut
    by_cases hclosing : c = closing
    · subst hclosing
      cases depth with
      | zero =>
        rw [Selector.cutBalanced_last hne] at hcut
        cases hcut
        exact ⟨[], rfl, rfl⟩
      | succ depth =>
        rw [Selector.cutBalanced_close hne] at hcut
        exact hlater hcut
    · rw [Selector.cutBalanced_other hopening hclosing] at hcut
      exact hlater hcut

/-- A measure of what stands in front of the bracket behind which a text is cut, when the text has
one more character at its start. -/
theorem map_behind_cutBalanced {α : Type} (hne : opening ≠ closing) (measure : List Char → α)
    (c : Char) (depth : Nat) (text : List Char) :
    ((Selector.cutBalanced opening closing (depth + 1) text).map (Selector.behind [c])).map
        (fun parts ↦ measure parts.1.dropLast) =
      (Selector.cutBalanced opening closing (depth + 1) text).map
        fun parts ↦ measure (c :: parts.1.dropLast) := by
  cases hcut : Selector.cutBalanced opening closing (depth + 1) text with
  | none => rfl
  | some parts =>
    obtain ⟨inside, hinside, -⟩ := exists_of_cutBalanced hne hcut
    simp only [Option.map_some, Selector.behind, hinside, ← List.append_assoc,
      List.dropLast_concat, List.singleton_append]

/-- The parenthesis that closes a group is the one behind which a text is cut. -/
theorem closing?_eq_cutBalanced (opened : Nat) (text : List Char) :
    Query.closing? (opened + 1) text =
      (Selector.cutBalanced '(' ')' (opened + 1) text).map fun parts ↦ parts.1.dropLast.length := by
  have hne : '(' ≠ ')' := by decide
  induction text generalizing opened with
  | nil => rfl
  | cons c rest ih =>
    by_cases hopen : c = '('
    · subst hopen
      rw [Query.closing?_open, ih, Selector.cutBalanced_open hne, map_behind_cutBalanced hne,
        Option.map_map]
      rfl
    by_cases hclose : c = ')'
    · subst hclose
      cases opened with
      | zero => rw [Selector.cutBalanced_last hne]; rfl
      | succ opened =>
        rw [Query.closing?_close, ih, Selector.cutBalanced_close hne, map_behind_cutBalanced hne,
          Option.map_map]
        rfl
    · rw [Query.closing?_other hopen hclose, ih, Selector.cutBalanced_other hopen hclose,
        map_behind_cutBalanced hne, Option.map_map]
      rfl

end Cut

/-! ### Walks -/

/-- What stands before the start is passed over. -/
theorem closingFrom_skip (hwidth : ∀ c, 0 < width c) (depth : Nat)
    (hfront : position + span width front ≤ start) (text : List Char) :
    closingFrom width opening closing start position depth (front ++ text) =
      closingFrom width opening closing start (position + span width front) depth text := by
  induction front generalizing position with
  | nil => rfl
  | cons c front ih =>
    rw [span_cons, ← Nat.add_assoc] at hfront ⊢
    have hbefore : position < start := by
      have hc := hwidth c
      omega
    rw [List.cons_append, closingFrom]
    simp only [hbefore, if_true]
    exact ih hfront

/-- A walk that has a bracket to close has no fault. It ends at the bracket behind which the text is
cut. -/
theorem closingFrom_opened (hne : opening ≠ closing) (hstart : start ≤ position) (depth : Nat)
    (text : List Char) :
    closingFrom width opening closing start position (depth + 1) text =
      .ok ((Selector.cutBalanced opening closing (depth + 1) text).map fun parts ↦
        position + span width parts.1.dropLast) := by
  induction text generalizing position depth with
  | nil => rfl
  | cons c rest ih =>
    have hreached : ¬ position < start := Nat.not_lt.mpr hstart
    have hnext : start ≤ position + width c := Nat.le_add_right_of_le hstart
    -- Every step but the last has brackets open behind it, so that the induction goes on.
    have hlater : ∀ next, closingFrom width opening closing start (position + width c) (next + 1)
        rest = .ok (((Selector.cutBalanced opening closing (next + 1) rest).map
          (Selector.behind [c])).map fun parts ↦ position + span width parts.1.dropLast) := by
      intro next
      rw [ih hnext, map_behind_cutBalanced hne fun inside ↦ position + span width inside]
      simp only [span_cons, Nat.add_assoc]
    rw [closingFrom]
    simp only [hreached, if_false]
    by_cases hopening : c = opening
    · subst hopening
      simp only [if_true]
      rw [hlater, Selector.cutBalanced_open hne]
    by_cases hclosing : c = closing
    · subst hclosing
      simp only [hopening, if_false, if_true]
      cases depth with
      | zero =>
        rw [Selector.cutBalanced_last hne]
        rfl
      | succ depth =>
        rw [if_neg (by omega), if_neg (by omega), Nat.add_sub_cancel, hlater,
          Selector.cutBalanced_close hne]
    · simp only [hopening, hclosing, if_false]
      rw [hlater, Selector.cutBalanced_other hopening hclosing]

/-- A walk that starts at an opening bracket has no fault. -/
theorem closingFrom_group (hwidth : ∀ c, 0 < width c) (hne : opening ≠ closing)
    (front rest : List Char) :
    closingFrom width opening closing (span width front) 0 0 (front ++ opening :: rest) =
      .ok ((Selector.cutBalanced opening closing 1 rest).map fun parts ↦
        span width (front ++ opening :: parts.1.dropLast)) := by
  have hopen : closingFrom width opening closing (span width front) (span width front) 0
      (opening :: rest) = closingFrom width opening closing (span width front)
        (span width front + width opening) 1 rest := by
    rw [closingFrom]
    simp
  rw [closingFrom_skip hwidth 0 (Nat.zero_add _).le, Nat.zero_add, hopen,
    closingFrom_opened hne (Nat.le_add_right _ _)]
  simp only [span_append, span_cons, Nat.add_assoc]

theorem closingByte_group (hne : opening ≠ closing) (front rest : List Char) :
    closingByte opening closing (span Char.utf8Size front) (front ++ opening :: rest) =
      .ok ((Selector.cutBalanced opening closing 1 rest).map fun parts ↦
        span Char.utf8Size (front ++ opening :: parts.1.dropLast)) :=
  closingFrom_group Char.utf8Size_pos hne front rest

-- A walk that starts elsewhere may have a fault.
example : closingByte '(' ')' 0 [')'] = .error .belowZero := rfl

theorem closingChar_group (front rest : List Char) :
    closingChar front.length (front ++ '(' :: rest) =
      .ok ((Query.closing? 1 rest).map (front.length + 1 + ·)) := by
  have hne : '(' ≠ ')' := by decide
  have hwalk := @closingFrom_group (fun _ ↦ 1) _ _ (fun _ ↦ Nat.one_pos) hne front rest
  rw [span_one] at hwalk
  rw [closingChar, hwalk, closing?_eq_cutBalanced, Option.map_map]
  refine congrArg (fun measure ↦ Except.ok (Option.map measure _)) (funext fun parts ↦ ?_)
  simp only [span_one, List.length_append, List.length_cons, Function.comp_apply]
  omega

/-- From a parenthesis on, the two scanners find the same one. What stands before it has as many
bytes as the one position says, and as many characters as the other. -/
theorem exists_closing (front rest : List Char) :
    ∃ close?, closingChar front.length (front ++ '(' :: rest) = .ok close? ∧
      closingByte '(' ')' (span Char.utf8Size front) (front ++ '(' :: rest) =
        .ok (close?.map fun close ↦
          span Char.utf8Size ((front ++ '(' :: rest).take close)) := by
  refine ⟨_, closingChar_group front rest, ?_⟩
  rw [closingByte_group (by decide), closing?_eq_cutBalanced, Option.map_map, Option.map_map]
  cases hcut : Selector.cutBalanced '(' ')' 1 rest with
  | none => rfl
  | some parts =>
    obtain ⟨inside, hinside, hrest⟩ := exists_of_cutBalanced (by decide) hcut
    have htake : (front ++ '(' :: rest).take (front.length + 1 + inside.length) =
        front ++ '(' :: inside := by
      rw [hrest, hinside, Nat.add_assoc]
      simp [List.take_append, Nat.add_comm 1]
    simp [hinside, htake]

end Scanner

/-! ### The query at the start of a component -/

namespace Selector

variable {component key rest : List Char} {inside? : Option (List Char)}

theorem cutKey_filter_eq (text : List Char) :
    cutKey ('?' :: '(' :: text) = (cutBalanced '(' ')' 1 text).map (behind ['?', '(']) := by
  rw [cutKey, cutBalanced_open (by decide), Option.map_map]
  rfl

theorem cutKey_native_eq (text : List Char) :
    cutKey ('?' :: '\x7b' :: text) =
      (cutBalanced '\x7b' '\x7d' 1 text).map (behind ['?', '\x7b']) := by
  rw [cutKey, cutBalanced_open (by decide), Option.map_map]
  rfl

/-- The parts of a component are all of it. -/
theorem append_of_cutKey (hcut : cutKey component = some (key, rest)) :
    component = key ++ rest := by
  have hquery : ∀ {opening closing : Char} {front text : List Char}, opening ≠ closing →
      (cutBalanced opening closing 1 text).map (behind front) = some (key, rest) →
        front ++ text = key ++ rest := by
    intro opening closing front text hne hmap
    obtain ⟨parts, hparts, hbehind⟩ := Option.map_eq_some_iff.mp hmap
    obtain ⟨-, -, rfl⟩ := Scanner.exists_of_cutBalanced hne hparts
    obtain ⟨rfl, rfl⟩ := Prod.mk.inj hbehind
    exact (List.append_assoc _ _ _).symm
  by_cases hstart : startsQuery component = true
  · unfold startsQuery at hstart
    split at hstart
    · exact hquery (by decide) ((cutKey_filter_eq _).symm.trans hcut)
    · exact hquery (by decide) ((cutKey_native_eq _).symm.trans hcut)
    · cases hstart
  · rw [Bool.not_eq_true] at hstart
    rw [cutKey_of_not_startsQuery hstart] at hcut
    cases hcut
    exact List.takeWhile_append_dropWhile.symm

/-- A filter over keys is cut off at the parenthesis that closes its first one. -/
theorem exists_of_cutKey_filter {text : List Char}
    (hcut : cutKey ('?' :: '(' :: text) = some (key, rest)) :
    ∃ inside, Query.Balanced inside ∧ key = '?' :: '(' :: (inside ++ [')']) ∧
      text = inside ++ ')' :: rest := by
  cases hclose : Query.closing? 1 text with
  | none =>
    rw [Scanner.closing?_eq_cutBalanced, Option.map_eq_none_iff] at hclose
    rw [cutKey_filter_eq, hclose] at hcut
    cases hcut
  | some close =>
    obtain ⟨inside, after, hinside, rfl, -⟩ := Query.exists_of_closing? hclose
    have hkey := cutKey_filter hinside after
    rw [List.cons_append, List.cons_append, List.append_assoc, List.singleton_append, hcut] at hkey
    cases hkey
    exact ⟨inside, hinside, rfl, rfl⟩

theorem exists_cutKey_of_splitComponent (hsplit : splitComponent component = .ok (key, inside?)) :
    ∃ rest, cutKey component = some (key, rest) := by
  unfold splitComponent at hsplit
  split at hsplit
  · cases hsplit
  · rename_i front rest hcut
    refine ⟨rest, ?_⟩
    obtain rfl : front = key := by
      split_ifs at hsplit
      · exact (Prod.mk.inj (Except.ok.inj hsplit)).1
      · split at hsplit
        · cases hsplit
        · exact (Prod.mk.inj (Except.ok.inj hsplit)).1
    exact hcut

/-- Whether `key` is what a text begins with up to where its first parenthesis is closed: it is
balanced, and whatever else the text begins with, if it holds a parenthesis and as many closing as
opening ones, is at least as long. -/
structure ShortestBalanced (key text : List Char) : Prop where
  starts : key <+: text
  opens : '(' ∈ key
  balanced : Query.Balanced key
  shortest : ∀ front, front <+: text → '(' ∈ front → front.count '(' = front.count ')' →
    key.length ≤ front.length

theorem shortestBalanced_filter {inside : List Char} (hinside : Query.Balanced inside)
    (rest : List Char) :
    ShortestBalanced ('?' :: '(' :: (inside ++ [')'])) ('?' :: '(' :: (inside ++ ')' :: rest)) where
  starts := ⟨rest, by simp⟩
  opens := by simp
  balanced := (Query.Balanced.other (by decide) (by decide)).append (.group hinside)
  shortest front hfront hopen hcount := by
    by_contra hshort
    rw [Nat.not_le] at hshort
    -- A shorter one ends inside the group, where no more is closed than was opened.
    match front with
    | [] => cases hopen
    | [c] =>
      obtain ⟨rfl, -⟩ := List.cons_prefix_cons.mp hfront
      exact absurd (List.mem_singleton.mp hopen) (by decide)
    | c :: d :: front =>
      obtain ⟨rfl, htail⟩ := List.cons_prefix_cons.mp hfront
      obtain ⟨rfl, hwithin⟩ := List.cons_prefix_cons.mp htail
      have hlength : front.length ≤ inside.length := by
        simp only [List.length_cons, List.length_append, List.length_nil] at hshort
        omega
      have hle := hinside.count_le
        (List.prefix_of_prefix_length_le hwithin (List.prefix_append inside _) hlength)
      simp at hcount
      omega

/-- A component that starts like a filter over keys is that filter, with the rest behind it. -/
theorem exists_of_splitComponent_filter (hsplit : splitComponent component = .ok (key, inside?))
    (hfilter : ['?', '('] <+: component) :
    ∃ inside rest, Query.Balanced inside ∧ key = '?' :: '(' :: (inside ++ [')']) ∧
      component = '?' :: '(' :: (inside ++ ')' :: rest) := by
  obtain ⟨text, rfl⟩ := hfilter
  obtain ⟨rest, hcut⟩ := exists_cutKey_of_splitComponent hsplit
  obtain ⟨inside, hinside, rfl, rfl⟩ := exists_of_cutKey_filter hcut
  exact ⟨inside, rest, hinside, rfl, rfl⟩

/-- The query at the start of a component ends where its first parenthesis is closed. -/
theorem shortestBalanced_of_splitComponent
    (hsplit : splitComponent component = .ok (key, inside?)) (hfilter : ['?', '('] <+: component) :
    ShortestBalanced key component := by
  obtain ⟨inside, rest, hinside, rfl, rfl⟩ := exists_of_splitComponent_filter hsplit hfilter
  exact shortestBalanced_filter hinside rest

/-- The query at the start of a component is never refused for a parenthesis. -/
theorem parse_key_ne_unmatched (hsplit : splitComponent component = .ok (key, inside?))
    (hfilter : ['?', '('] <+: component) (position : Nat) :
    Query.parse (String.ofList key) ≠ .error (.unmatchedParenthesis position) := by
  obtain ⟨inside, rest, hinside, rfl, -⟩ := exists_of_splitComponent_filter hsplit hfilter
  rw [Query.parse, String.toList_ofList, Query.parseChars_filter, ne_eq, Except.map_eq_error_iff]
  intro hread
  obtain ⟨front, hfront, hdangles, -⟩ := Query.faultAt_of_parseGroup hread
  exact hinside.not_unmatched _ (hdangles.unmatched hfront)

end Selector

end DocTree
