import DocTree.Proofs.Selector.Scanners

/-!
# Reading with every counter and every cut checked

Queries and selectors are read here once more, with positions in a text that stays whole: a group is
the piece between two positions in characters, and a component is cut at a position in bytes. Every
counter and every cut is checked, so that a run may stop with a fault as well as with an error. It
never does: a checked run is the run without checks, with each error marked as a refusal
(`Query.Checked.parse_eq`, `Selector.Checked.parse_eq`). The reason is the same everywhere. A cut is
made at what a walk from an opening bracket has found, and such a walk stays inside the text
(`Scanner.closingFrom_group`). What the two scanners have in common is put together with this in
`Selector.scanners_agree_without_fault`.
-/

set_option autoImplicit false
set_option relaxedAutoImplicit false

namespace DocTree

namespace Scanner

/-- Why a checked run has no result: it has a fault, or what it reads is refused. -/
inductive Stopped (ε : Type) where
  | fault (cause : Fault)
  | refused (error : ε)

/-- A refusal with its error wrapped; a fault stays what it is. -/
def Stopped.map {ε η : Type} (wrap : ε → η) : Stopped ε → Stopped η
  | .fault cause => .fault cause
  | .refused error => .refused (wrap error)

theorem mapError_refused {ε η α : Type} (run : Except ε α) (wrap : ε → η) :
    (run.mapError Stopped.refused).mapError (Stopped.map wrap) =
      (run.mapError wrap).mapError .refused := by
  cases run <;> rfl

/-- The two parts of a text at a position in bytes. -/
def cutAt : Nat → List Char → Except Fault (List Char × List Char)
  | 0, text => .ok ([], text)
  | _ + 1, [] => .error .outOfBounds
  | position + 1, c :: rest =>
    if c.utf8Size ≤ position + 1 then
      (cutAt (position + 1 - c.utf8Size) rest).map (Selector.behind [c])
    else .error .insideCharacter

/-- Where a part of a text ends, no character is cut. -/
theorem cutAt_span (front rest : List Char) :
    cutAt (span Char.utf8Size front) (front ++ rest) = .ok (front, rest) := by
  induction front with
  | nil => rw [span_nil, List.nil_append, cutAt]
  | cons c front ih =>
    obtain ⟨before, hbefore⟩ := Nat.exists_eq_add_one.mpr
      (Nat.lt_add_right (span Char.utf8Size front) c.utf8Size_pos)
    rw [span_cons, List.cons_append, hbefore, cutAt, ← hbefore,
      if_pos (Nat.le_add_right _ _), Nat.add_sub_cancel_left, ih]
    rfl

example : cutAt 1 ['ü'] = .error .insideCharacter := rfl

end Scanner

open Scanner

/-! ### Queries -/

namespace Query.Checked

/-- Passes over a group from a position in it on. The group begins at `offset` of its query. -/
def scan (inner : Nat → List Char → Except (Stopped QueryError) Node) (offset : Nat)
    (text : List Char) (position : Nat) (state : Scan) : Except (Stopped QueryError) Scan :=
  if hposition : position < text.length then
    let c := text[position]
    if c = '(' then
      match closingChar position text with
      | .error fault => .error (.fault fault)
      | .ok none => .error (.refused (.unmatchedParenthesis (offset + position)))
      | .ok (some close) =>
        if hinside : position + 1 ≤ close ∧ close ≤ text.length then
          match inner (offset + position + 1) ((text.take close).drop (position + 1)) with
          | .error stopped => .error stopped
          | .ok child =>
            scan inner offset text (close + 1) { state with nodes := state.nodes ++ [child] }
        else .error (.fault .outOfBounds)
    else if c = ')' then .error (.refused (.unmatchedParenthesis (offset + position)))
    else if c = '&' ∨ c = '|' then
      match state.connect (if c = '&' then .all else .any) with
      | .error error => .error (.refused error)
      | .ok state => scan inner offset text (position + 1) state
    else scan inner offset text (position + 1) { state with text := state.text ++ [c] }
  else state.flush.mapError .refused
termination_by text.length - position
decreasing_by all_goals omega

/-- Reads the inside of a group that may hold groups `levels - 1` deep. -/
def parseGroup (levels offset : Nat) (text : List Char) : Except (Stopped QueryError) Node :=
  match levels with
  | 0 => .error (.refused (.nestingTooDeep maxGroupDepth))
  | levels + 1 =>
    (scan (parseGroup levels) offset text 0 {}).bind fun state ↦ state.node.mapError .refused

/-- Reads the text of a query. Only a filter is taken apart by positions. -/
def parseChars (text : List Char) : Except (Stopped QueryError) Query :=
  match Text.trim text with
  | '?' :: '(' :: rest =>
    match dropLast? ')' rest with
    | none => .error (.refused (.unmatchedParenthesis 1))
    | some inside => (parseGroup (maxGroupDepth + 1) 2 inside).map .node
  | _ => (Query.parseChars text).mapError .refused

/-- Reads a query. -/
def parse (text : String) : Except (Stopped QueryError) Query := parseChars text.toList

variable {inner : Nat → List Char → Except QueryError Node}
  {checked : Nat → List Char → Except (Stopped QueryError) Node}

/-- A group in a text is the piece between its parentheses. -/
theorem take_drop_group (front inside rest : List Char) :
    ((front ++ '(' :: (inside ++ ')' :: rest)).take (front.length + 1 + inside.length)).drop
      (front.length + 1) = inside := by
  have htext : front ++ '(' :: (inside ++ ')' :: rest) =
      (front ++ ['(']) ++ (inside ++ ')' :: rest) := by
    simp
  have hlength : front.length + 1 = (front ++ ['(']).length := by simp
  rw [htext, hlength, ← List.append_assoc, ← List.length_append, List.take_left, List.drop_left]

theorem getElem_front (front : List Char) (c : Char) (rest : List Char)
    (h : front.length < (front ++ c :: rest).length) :
    (front ++ c :: rest)[front.length] = c := by
  simp

/-- A group is found and taken out of a text without a fault. -/
theorem scan_open (offset : Nat) (front rest : List Char) (state : Scan) :
    scan checked offset (front ++ '(' :: rest) front.length state =
      match closing? 1 rest with
      | none => .error (.refused (.unmatchedParenthesis (offset + front.length)))
      | some close =>
        (checked (offset + front.length + 1) (rest.take close)).bind fun child ↦
          scan checked offset (front ++ '(' :: rest) (front.length + close + 2)
            { state with nodes := state.nodes ++ [child] } := by
  rw [scan, dif_pos (by simp)]
  simp only [getElem_front, if_true, closingChar_group]
  cases hclose : closing? 1 rest with
  | none => rfl
  | some close =>
    obtain ⟨inside, after, -, rfl, rfl⟩ := exists_of_closing? hclose
    have hpiece : front.length + 1 ≤ front.length + 1 + inside.length ∧
        front.length + 1 + inside.length ≤ (front ++ '(' :: (inside ++ ')' :: after)).length := by
      simp only [List.length_append, List.length_cons]
      omega
    have hafter : front.length + 1 + inside.length + 1 = front.length + inside.length + 2 := by
      omega
    simp only [Option.map_some, dif_pos hpiece, take_drop_group, List.take_left, hafter]
    cases checked (offset + front.length + 1) inside <;> rfl

/-- A checked pass is the pass without checks, if their inner readers are. What was passed over
stays in front of the text. -/
theorem scan_eq (hinner : ∀ position inside, checked position inside =
      (inner position inside).mapError .refused)
    {offset position : Nat} {front : List Char} (hposition : position = offset + front.length)
    (text : List Char) (state : Scan) :
    scan checked offset (front ++ text) front.length state =
      (Query.scan inner position state text).mapError .refused := by
  fun_induction Query.scan inner position state text generalizing front with
  | case1 position state => rw [scan, dif_neg (by simp)]
  | case2 position state rest hclose =>
    rw [scan_open, hclose, hposition]
    rfl
  | case3 position state rest close hclose error hchild =>
    rw [scan_open, hclose, ← hposition]
    simp only [hinner, hchild]
    rfl
  | case4 position state rest close hclose child hchild ih =>
    rw [scan_open, hclose, ← hposition]
    simp only [hinner, hchild]
    obtain ⟨inside, after, -, rfl, rfl⟩ := exists_of_closing? hclose
    -- Behind the group, the whole group is what was passed over.
    have hread := @ih (front ++ '(' :: (inside ++ [')'])) (by simp [hposition]; omega)
    simpa [Except.mapError, Except.bind, drop_closing, Nat.add_assoc] using hread
  | case5 position state rest hclosing =>
    rw [scan, dif_pos (by simp), hposition]
    simp only [getElem_front, hclosing, if_false, if_true]
    rfl
  | case6 position state c rest hopen hclosing hsign error hconnect =>
    simp only [dite_eq_ite] at hconnect
    rw [scan, dif_pos (by simp)]
    simp only [getElem_front, hopen, hclosing, hsign, if_false, if_true, hconnect]
    rfl
  | case7 position state c rest hopen hclosing hsign next hconnect ih =>
    simp only [dite_eq_ite] at hconnect
    rw [scan, dif_pos (by simp)]
    simp only [getElem_front, hopen, hclosing, hsign, if_false, if_true, hconnect]
    have hread := @ih (front ++ [c]) (by simp [hposition, Nat.add_assoc])
    simpa using hread
  | case8 position state c rest hopen hclosing hsign ih =>
    rw [scan, dif_pos (by simp)]
    simp only [getElem_front, hopen, hclosing, hsign, if_false]
    have hread := @ih (front ++ [c]) (by simp [hposition, Nat.add_assoc])
    simpa using hread

theorem parseGroup_eq (levels offset : Nat) (text : List Char) :
    parseGroup levels offset text =
      (Query.parseGroup levels offset text).mapError .refused := by
  induction levels generalizing offset text with
  | zero => rfl
  | succ levels ih =>
    have hscan : scan (parseGroup levels) offset text 0 {} =
        (Query.scan (Query.parseGroup levels) offset {} text).mapError .refused :=
      @scan_eq _ _ ih offset offset [] rfl text {}
    rw [parseGroup, hscan, parseGroup_succ, Except.mapError_bind]

theorem parseChars_eq (text : List Char) :
    parseChars text = (Query.parseChars text).mapError .refused := by
  unfold parseChars
  split
  · rename_i rest htrim
    rw [Query.parseChars]
    simp only [htrim]
    cases dropLast? ')' rest with
    | none => rfl
    | some inside => simp only [parseGroup_eq, Except.mapError_map]
  · rfl

/-- A query is read without a fault. -/
theorem parse_eq (text : String) : parse text = (Query.parse text).mapError .refused :=
  parseChars_eq text.toList

end Query.Checked

/-! ### Selectors -/

namespace Selector.Checked

/-- Where the query at the start of a component ends, in bytes. -/
def queryEnd (opening closing : Char) (component : List Char) :
    Except (Stopped ComponentFault) Nat :=
  match closingByte opening closing 1 component with
  | .error fault => .error (.fault fault)
  | .ok none => .error (.refused .openKeyQuery)
  | .ok (some close) => .ok (close + 1)

/-- Where the key part of a component ends, in bytes. -/
def keyEnd (component : List Char) : Except (Stopped ComponentFault) Nat :=
  match component with
  | '?' :: '(' :: _ => queryEnd '(' ')' component
  | '?' :: '\x7b' :: _ => queryEnd '\x7b' '\x7d' component
  | _ => .ok (span Char.utf8Size (component.takeWhile (· ≠ '[')))

/-- The key part of a component and the text in its brackets, if it has any. -/
def splitComponent (component : List Char) :
    Except (Stopped ComponentFault) (List Char × Option (List Char)) :=
  match keyEnd component with
  | .error stopped => .error stopped
  | .ok position =>
    match cutAt position component with
    | .error fault => .error (.fault fault)
    | .ok (key, rest) =>
      if !startsQuery key && key.contains ']' then .error (.refused .bracketInKey)
      else if rest.isEmpty then .ok (key, none)
      else
        match inBrackets? rest with
        | none => .error (.refused .noBrackets)
        | some inside => .ok (key, some inside)

/-- Reads a query inside a component. -/
def queryIn (component text : List Char) : Except (Stopped SelectorError) Query :=
  (Query.Checked.parseChars text).mapError (Stopped.map (.query (String.ofList component)))

/-- The filters for the key part of a component. Only a query is taken apart by positions. -/
def keyFilters (component key : List Char) : Except (Stopped SelectorError) (List Filter) :=
  if startsQuery key then (queryIn component key).map ([.keyQuery ·])
  else (Selector.keyFilters component key).mapError .refused

/-- The filters for the brackets of a component, if it has any. -/
def bracketFilters (component : List Char) :
    Option (List Char) → Except (Stopped SelectorError) (List Filter)
  | none => .ok []
  | some inside =>
    if startsQuery (Text.trim inside) then
      (queryIn component (Text.trim inside)).map ([.elementQuery ·])
    else (Selector.bracketFilters component (some inside)).mapError .refused

/-- Reads a component. -/
def parseComponent (component : List Char) : Except (Stopped SelectorError) (List Filter) :=
  ((splitComponent component).mapError
      (Stopped.map (.invalidComponent (String.ofList component)))).bind fun parts ↦
    (keyFilters component parts.1).bind fun keys ↦
      (bracketFilters component parts.2).map (keys ++ ·)

/-- Reads components one after another. -/
def parseComponents : List (List Char) → Except (Stopped SelectorError) Selector
  | [] => .ok []
  | component :: rest =>
    (if component.isEmpty then .ok [] else parseComponent component).bind fun filters ↦
      (parseComponents rest).map (filters ++ ·)

/-- Reads a selector. -/
def parse (text : String) : Except (Stopped SelectorError) Selector :=
  parseComponents (splitAtSlashes text.toList)

/-! ### Cutting a component -/

theorem queryEnd_eq {opening closing : Char} (hne : opening ≠ closing)
    (hwidth : closing.utf8Size = 1) (text : List Char) :
    queryEnd opening closing ('?' :: opening :: text) =
      match (cutBalanced opening closing 1 text).map (behind ['?', opening]) with
      | none => .error (.refused .openKeyQuery)
      | some parts => .ok (span Char.utf8Size parts.1) := by
  have hwalk := closingByte_group hne ['?'] text
  have hstart : span Char.utf8Size ['?'] = 1 := rfl
  rw [hstart, List.singleton_append] at hwalk
  rw [queryEnd, hwalk]
  cases hcut : cutBalanced opening closing 1 text with
  | none => rfl
  | some parts =>
    obtain ⟨inside, hinside, -⟩ := exists_of_cutBalanced hne hcut
    simp [behind, hinside, hwidth, Nat.add_assoc]

/-- The end of a key part is that of what is cut off. -/
theorem keyEnd_eq (component : List Char) :
    keyEnd component =
      match cutKey component with
      | none => .error (.refused .openKeyQuery)
      | some parts => .ok (span Char.utf8Size parts.1) := by
  unfold keyEnd
  split
  · rename_i text
    rw [queryEnd_eq (by decide) rfl, cutKey_filter_eq]
  · rename_i text
    rw [queryEnd_eq (by decide) rfl, cutKey_native_eq]
  · rename_i hfilter hnative
    have hstart : startsQuery component = false :=
      startsQuery_eq_false (fun ⟨text, htext⟩ ↦ hfilter text htext.symm)
        fun ⟨text, htext⟩ ↦ hnative text htext.symm
    rw [cutKey_of_not_startsQuery hstart]

/-- A component is cut between two characters, or refused. -/
theorem splitComponent_eq (component : List Char) :
    splitComponent component = (Selector.splitComponent component).mapError .refused := by
  rw [splitComponent, keyEnd_eq, Selector.splitComponent]
  cases hcut : cutKey component with
  | none => rfl
  | some parts =>
    obtain ⟨key, rest⟩ := parts
    obtain rfl := append_of_cutKey hcut
    simp only [cutAt_span]
    split_ifs with hkey hrest
    · rfl
    · rfl
    · cases inBrackets? rest <;> rfl

theorem queryIn_eq (component text : List Char) :
    queryIn component text = (Selector.queryIn component text).mapError .refused := by
  rw [queryIn, Query.Checked.parseChars_eq, mapError_refused, Selector.queryIn]

theorem keyFilters_eq (component key : List Char) :
    keyFilters component key = (Selector.keyFilters component key).mapError .refused := by
  unfold keyFilters
  split_ifs with hquery
  · have hne : key.isEmpty = false := by
      cases key with
      | nil => cases hquery
      | cons c key => rfl
    rw [queryIn_eq, Selector.keyFilters, hne, keyFilter, if_pos hquery]
    cases Selector.queryIn component key <;> rfl
  · rfl

theorem bracketFilters_eq (component : List Char) (inside? : Option (List Char)) :
    bracketFilters component inside? =
      (Selector.bracketFilters component inside?).mapError .refused := by
  cases inside? with
  | none => rfl
  | some inside =>
    rw [bracketFilters]
    split_ifs with hquery
    · rw [queryIn_eq, Selector.bracketFilters, bracketFilter]
      simp only [hquery, if_true]
      cases Selector.queryIn component (Text.trim inside) <;> rfl
    · rfl

theorem parseComponent_eq (component : List Char) :
    parseComponent component = (Selector.parseComponent component).mapError .refused := by
  rw [parseComponent, Selector.parseComponent_eq, Except.mapError_bind, splitComponent_eq,
    mapError_refused]
  simp only [Except.mapError_bind, Except.mapError_map, keyFilters_eq, bracketFilters_eq]

theorem parseComponents_eq (components : List (List Char)) :
    parseComponents components = (Selector.parseComponents components).mapError .refused := by
  induction components with
  | nil => rfl
  | cons component rest ih =>
    have hfilters : (if component.isEmpty then .ok [] else parseComponent component) =
        (componentFilters component).mapError Stopped.refused := by
      rw [componentFilters, parseComponent_eq]
      cases component.isEmpty <;> rfl
    rw [parseComponents, hfilters, ih, parseComponents_cons, Except.mapError_bind]
    simp only [Except.mapError_map]

/-- A selector is read without a fault. -/
theorem parse_eq (text : String) : parse text = (Selector.parse text).mapError .refused :=
  parseComponents_eq (splitAtSlashes text.toList)

end Selector.Checked

/-- Neither scanner has a fault, and the two agree.

A component is refused, or cut behind a number of whole characters. A filter over keys at its start
is cut off where its first parenthesis is closed, and is never refused for a parenthesis. From any
parenthesis on, the two scanners find the same one, at the position in bytes of the character whose
position in characters is found. Queries and selectors are read with checks as they are without, so
that no counter goes below zero and no cut is out of bounds. -/
theorem Selector.scanners_agree_without_fault :
    (∀ component, Checked.splitComponent component =
        (splitComponent component).mapError .refused) ∧
      (∀ component key inside?, splitComponent component = .ok (key, inside?) →
        ∃ rest, component = key ++ rest ∧
          Checked.keyEnd component = .ok (span Char.utf8Size key)) ∧
      (∀ component key inside?, splitComponent component = .ok (key, inside?) →
        ['?', '('] <+: component → ShortestBalanced key component ∧
          ∀ position, Query.parse (String.ofList key) ≠ .error (.unmatchedParenthesis position)) ∧
      (∀ front rest, ∃ close?, closingChar front.length (front ++ '(' :: rest) = .ok close? ∧
        closingByte '(' ')' (span Char.utf8Size front) (front ++ '(' :: rest) =
          .ok (close?.map fun close ↦
            span Char.utf8Size ((front ++ '(' :: rest).take close))) ∧
      (∀ text, Query.Checked.parse text = (Query.parse text).mapError .refused) ∧
        ∀ text, Checked.parse text = (parse text).mapError .refused := by
  refine ⟨Checked.splitComponent_eq, fun component key inside? hsplit ↦ ?_,
    fun component key inside? hsplit hfilter ↦ ?_, exists_closing, Query.Checked.parse_eq,
    Checked.parse_eq⟩
  · obtain ⟨rest, hcut⟩ := exists_cutKey_of_splitComponent hsplit
    exact ⟨rest, append_of_cutKey hcut, by rw [Checked.keyEnd_eq, hcut]⟩
  · exact ⟨shortestBalanced_of_splitComponent hsplit hfilter,
      parse_key_ne_unmatched hsplit hfilter⟩

/-- The parenthesis that closes the query is character 7 and byte 8. -/
theorem Selector.scanners_agree_without_fault_letters :
    splitComponent "?((@=ü))[0]".toList = .ok ("?((@=ü))".toList, some ['0']) ∧
      ['?', '('] <+: "?((@=ü))[0]".toList ∧
      ShortestBalanced "?((@=ü))".toList "?((@=ü))[0]".toList ∧
      Checked.keyEnd "?((@=ü))[0]".toList = .ok 9 ∧
      closingChar 1 "?((@=ü))[0]".toList = .ok (some 7) ∧
      closingByte '(' ')' 1 "?((@=ü))[0]".toList = .ok (some 8) := by
  have hsplit : splitComponent "?((@=ü))[0]".toList = .ok ("?((@=ü))".toList, some ['0']) := by
    with_unfolding_all rfl
  have hfilter : ['?', '('] <+: "?((@=ü))[0]".toList := by decide
  obtain ⟨-, hcut, hkey, hagree, -, -⟩ := scanners_agree_without_fault
  obtain ⟨rest, -, hend⟩ := hcut _ _ _ hsplit
  obtain ⟨close?, hchar, hbyte⟩ := hagree ['?'] "(@=ü))[0]".toList
  have hclose : closingChar 1 "?((@=ü))[0]".toList = .ok (some 7) := by with_unfolding_all rfl
  obtain rfl := Except.ok.inj (hclose.symm.trans hchar)
  exact ⟨hsplit, hfilter, (hkey _ _ _ hsplit hfilter).1, hend, hchar, hbyte⟩

end DocTree
