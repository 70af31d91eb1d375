import DocTree.Format.Reader
import DocTree.Proofs.Outcome

/-!
# Texts in JSON Lines one after another

Two texts in JSON Lines with a line feed between them are one text in JSON Lines, which has the
lines of both (`Json.splitLines_lineFeed`). Its elements are those of the first and then those of
the second; its first bad line is that of the first text, or else that of the second one, counted on
from the lines of the first (`Json.parseLines_lineFeed`). A text with nothing but blank lines holds
no elements, and its lines count all the same (`parseJsonLines_lineFeed`).
-/

set_option autoImplicit false
set_option relaxedAutoImplicit false

namespace DocTree

namespace Json

/-! ### The lines of both texts -/

theorem splitLines_ne_nil (text : List Char) : splitLines text ≠ [] := by
  cases text with
  | nil => exact List.cons_ne_nil _ _
  | cons c rest =>
    rw [splitLines]
    by_cases hc : c = '\n'
    · rw [if_pos hc]
      exact List.cons_ne_nil _ _
    · rw [if_neg hc]
      split <;> exact List.cons_ne_nil _ _

/-- A line feed splits a text wherever it stands. -/
theorem splitLines_lineFeed (front rest : List Char) :
    splitLines (front ++ '\n' :: rest) = splitLines front ++ splitLines rest := by
  induction front with
  | nil => rfl
  | cons c front ih =>
    rw [List.cons_append, splitLines, splitLines, ih]
    by_cases hc : c = '\n'
    · rw [if_pos hc, if_pos hc, List.cons_append]
    · rw [if_neg hc, if_neg hc]
      cases hfront : splitLines front with
      | nil => exact absurd hfront (splitLines_ne_nil front)
      | cons line lines => rfl

/-- A text has one line more than line feeds. -/
theorem length_splitLines (text : List Char) :
    (splitLines text).length = text.count '\n' + 1 := by
  induction text with
  | nil => rfl
  | cons c rest ih =>
    rw [splitLines]
    by_cases hc : c = '\n'
    · rw [if_pos hc, hc, List.count_cons_self, List.length_cons, ih]
    · rw [if_neg hc, List.count_cons_of_ne hc]
      cases hrest : splitLines rest with
      | nil => exact absurd hrest (splitLines_ne_nil rest)
      | cons line lines =>
        rw [hrest] at ih
        exact ih

/-! ### Lines are read one after another -/

/-- A bad line is found wherever counting starts. -/
theorem parseLinesFrom_add (number offset : Nat) (lines : List (List Char)) :
    parseLinesFrom (number + offset) lines =
      (parseLinesFrom number lines).mapError (· + offset) := by
  induction lines generalizing number with
  | nil => rfl
  | cons line lines ih =>
    have hnext := ih (number + 1)
    rw [Nat.add_right_comm] at hnext
    rw [parseLinesFrom, parseLinesFrom, hnext]
    by_cases hblank : isBlankLine line = true
    · rw [if_pos hblank, if_pos hblank]
    · rw [if_neg hblank, if_neg hblank]
      cases parseChars? line with
      | none => rfl
      | some value => cases parseLinesFrom (number + 1) lines <;> rfl

theorem parseLinesFrom_append (lines more : List (List Char)) (number : Nat) :
    parseLinesFrom number (lines ++ more) =
      (parseLinesFrom number lines).bind fun items ↦
        (parseLinesFrom (number + lines.length) more).map (items ++ ·) := by
  induction lines generalizing number with
  | nil =>
    cases hmore : parseLinesFrom number more <;>
      simp [parseLinesFrom, Except.bind, Except.map, hmore]
  | cons line lines ih =>
    have hlength : number + (line :: lines).length = number + 1 + lines.length := by
      rw [List.length_cons]
      omega
    rw [List.cons_append, parseLinesFrom, parseLinesFrom, ih, hlength]
    by_cases hblank : isBlankLine line = true
    · rw [if_pos hblank, if_pos hblank]
    · rw [if_neg hblank, if_neg hblank]
      cases parseChars? line with
      | none => rfl
      | some value =>
        cases parseLinesFrom (number + 1) lines with
        | error bad => rfl
        | ok items => cases parseLinesFrom (number + 1 + lines.length) more <;> rfl

/-- Only blank lines hold no elements. -/
theorem parseLinesFrom_eq_ok_nil_iff {number : Nat} {lines : List (List Char)} :
    parseLinesFrom number lines = .ok [] ↔ ∀ line ∈ lines, isBlankLine line = true := by
  induction lines generalizing number with
  | nil => simp [parseLinesFrom]
  | cons line lines ih =>
    rw [parseLinesFrom, List.forall_mem_cons]
    by_cases hblank : isBlankLine line = true
    · rw [if_pos hblank, ih]
      exact (and_iff_right hblank).symm
    · rw [if_neg hblank]
      refine iff_of_false (fun hread ↦ ?_) fun hall ↦ hblank hall.1
      cases hvalue : parseChars? line with
      | none => simp [hvalue] at hread
      | some value =>
        rw [hvalue] at hread
        obtain ⟨items, -, hnil⟩ := Except.map_eq_ok_iff.mp hread
        cases hnil

/-- The elements of two texts with a line feed between them are those of the first and then those of
the second. The first bad line is one of the first text if that has any, and lines of the second one
are counted on. -/
theorem parseLines_lineFeed (first second : String) :
    parseLines (first ++ "\n" ++ second) =
      (parseLines first).bind fun items ↦
        ((parseLines second).mapError (· + (first.toList.count '\n' + 1))).map (items ++ ·) := by
  have hchars : (first ++ "\n" ++ second).toList = first.toList ++ '\n' :: second.toList := by
    simp
  rw [parseLines, hchars, splitLines_lineFeed, parseLinesFrom_append, length_splitLines,
    parseLinesFrom_add]
  rfl

/-- Whether there is nothing on the lines of a text but white space. -/
def BlankLines (text : String) : Prop :=
  ∀ line ∈ splitLines text.toList, isBlankLine line = true

theorem parseLines_eq_ok_nil_iff {text : String} : parseLines text = .ok [] ↔ BlankLines text :=
  parseLinesFrom_eq_ok_nil_iff

end Json

/-! ### What is read of a text -/

variable {text : String} {number : Nat}

theorem parseJsonLines_eq_ok_iff {value : Value} :
    parseJsonLines text = .ok value ↔
      ∃ items, Json.parseLines text = .ok items ∧ items ≠ [] ∧ value = .array items := by
  unfold parseJsonLines
  split
  · rename_i hread
    simp [hread]
  · rename_i hread
    simp [hread]
  · rename_i items hne hread
    simp only [hread, Except.ok.injEq, exists_eq_left']
    exact ⟨fun hvalue ↦ ⟨hne, hvalue.symm⟩, fun hvalue ↦ hvalue.2.symm⟩

theorem parseJsonLines_eq_jsonLine_iff :
    parseJsonLines text = .error (.jsonLine number) ↔ Json.parseLines text = .error number := by
  unfold parseJsonLines
  split <;> rename_i hread <;> simp [hread]

theorem parseJsonLines_eq_noLines_iff :
    parseJsonLines text = .error .noLines ↔ Json.BlankLines text := by
  rw [← Json.parseLines_eq_ok_nil_iff]
  unfold parseJsonLines
  split
  · rename_i hread
    simp [hread]
  · rename_i hread
    simp [hread]
  · rename_i items hne hread
    rw [hread, Except.ok.injEq]
    exact iff_of_false (fun heq ↦ nomatch heq) hne

/-- Two texts in JSON Lines with a line feed between them are read as one text: as the elements of
both, where a text with blank lines only has none. A bad line of the first text keeps its number,
and one of the second is counted on behind the lines of the first, which are one more than its line
feeds. Every text is read as an array or up to a bad line, unless it has blank lines only. -/
theorem parseJsonLines_lineFeed (first second : String) :
    (∀ items others, parseJsonLines first = .ok (.array items) →
      parseJsonLines second = .ok (.array others) →
        parseJsonLines (first ++ "\n" ++ second) = .ok (.array (items ++ others))) ∧
    (∀ read, parseJsonLines first = .ok read → Json.BlankLines second →
      parseJsonLines (first ++ "\n" ++ second) = .ok read) ∧
    (∀ read, Json.BlankLines first → parseJsonLines second = .ok read →
      parseJsonLines (first ++ "\n" ++ second) = .ok read) ∧
    (∀ number, (∃ read, parseJsonLines first = .ok read) ∨ Json.BlankLines first →
      parseJsonLines second = .error (.jsonLine number) →
        parseJsonLines (first ++ "\n" ++ second) =
          .error (.jsonLine (number + 1 + first.toList.count '\n'))) ∧
    (∀ number, parseJsonLines first = .error (.jsonLine number) →
      parseJsonLines (first ++ "\n" ++ second) = .error (.jsonLine number)) ∧
    ∀ text, (∃ items, parseJsonLines text = .ok (.array items)) ∨
      (∃ number, parseJsonLines text = .error (.jsonLine number)) ∨
        parseJsonLines text = .error .noLines ∧ Json.BlankLines text := by
  have hwhole := Json.parseLines_lineFeed first second
  refine ⟨?_, ?_, ?_, ?_, ?_, ?_⟩
  · intro items others hfirst hsecond
    obtain ⟨_, hitems, hne, ⟨⟩⟩ := parseJsonLines_eq_ok_iff.mp hfirst
    obtain ⟨_, hothers, -, ⟨⟩⟩ := parseJsonLines_eq_ok_iff.mp hsecond
    rw [hitems, hothers] at hwhole
    exact parseJsonLines_eq_ok_iff.mpr
      ⟨items ++ others, hwhole, List.append_ne_nil_of_left_ne_nil hne others, rfl⟩
  · intro read hfirst hblank
    obtain ⟨items, hitems, hne, rfl⟩ := parseJsonLines_eq_ok_iff.mp hfirst
    rw [hitems, Json.parseLines_eq_ok_nil_iff.mpr hblank] at hwhole
    refine parseJsonLines_eq_ok_iff.mpr ⟨items, hwhole.trans ?_, hne, rfl⟩
    exact congrArg Except.ok (List.append_nil items)
  · intro read hblank hsecond
    obtain ⟨items, hitems, hne, rfl⟩ := parseJsonLines_eq_ok_iff.mp hsecond
    rw [hitems, Json.parseLines_eq_ok_nil_iff.mpr hblank] at hwhole
    exact parseJsonLines_eq_ok_iff.mpr ⟨items, hwhole, hne, rfl⟩
  · intro number hfirst hsecond
    obtain ⟨items, hitems⟩ : ∃ items, Json.parseLines first = .ok items := by
      rcases hfirst with ⟨read, hread⟩ | hblank
      · obtain ⟨items, hitems, -⟩ := parseJsonLines_eq_ok_iff.mp hread
        exact ⟨items, hitems⟩
      · exact ⟨[], Json.parseLines_eq_ok_nil_iff.mpr hblank⟩
    rw [hitems, parseJsonLines_eq_jsonLine_iff.mp hsecond] at hwhole
    rw [parseJsonLines_eq_jsonLine_iff, hwhole, Nat.add_assoc, Nat.add_comm 1]
    rfl
  · intro number hfirst
    rw [parseJsonLines_eq_jsonLine_iff.mp hfirst] at hwhole
    exact parseJsonLines_eq_jsonLine_iff.mpr hwhole
  · intro text
    cases hread : Json.parseLines text with
    | error number => exact .inr (.inl ⟨number, parseJsonLines_eq_jsonLine_iff.mpr hread⟩)
    | ok items =>
      cases items with
      | nil =>
        have hblank := Json.parseLines_eq_ok_nil_iff.mp hread
        exact .inr (.inr ⟨parseJsonLines_eq_noLines_iff.mpr hblank, hblank⟩)
      | cons item items =>
        exact .inl ⟨item :: items,
          parseJsonLines_eq_ok_iff.mpr ⟨_, hread, List.cons_ne_nil item items, rfl⟩⟩

/-- Blank lines hold no element and are counted, and a line may end with a carriage return. -/
theorem parseJsonLines_lineFeed_letters :
    parseJsonLines "[1]\r\n\n" = .ok (.array [.array [.int 1]]) ∧
      parseJsonLines " \n\"ü\"" = .ok (.array [.string "ü"]) ∧
        parseJsonLines "\n\"ü\n" = .error (.jsonLine 2) ∧
          parseJsonLines ("[1]\r\n\n" ++ "\n" ++ " \n\"ü\"") =
            .ok (.array [.array [.int 1], .string "ü"]) ∧
          parseJsonLines ("[1]\r\n\n" ++ "\n" ++ "\n\"ü\n") = .error (.jsonLine 5) := by
  have hfirst : parseJsonLines "[1]\r\n\n" = .ok (.array [.array [.int 1]]) := by rfl
  have hsecond : parseJsonLines " \n\"ü\"" = .ok (.array [.string "ü"]) := by rfl
  have hbad : parseJsonLines "\n\"ü\n" = .error (.jsonLine 2) := by rfl
  have hfeeds : "[1]\r\n\n".toList.count '\n' = 2 := by decide
  obtain ⟨hjoined, -⟩ := parseJsonLines_lineFeed "[1]\r\n\n" " \n\"ü\""
  refine ⟨hfirst, hsecond, hbad, hjoined _ _ hfirst hsecond, ?_⟩
  have hwhole := (parseJsonLines_lineFeed "[1]\r\n\n" "\n\"ü\n").2.2.2.1 2 (.inl ⟨_, hfirst⟩) hbad
  rw [hwhole, hfeeds]

end DocTree
