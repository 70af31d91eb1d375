import DocTree.Proofs.Decimal
import DocTree.Proofs.Text.Trim

/-!
# Ranges as they are written

A bound is written without points and without white space, so that the two points between the bounds
are the only ones in the text of a range and split it where it was put together. Reading the text of
a range gives back the range, whichever of its bounds are missing (`Range.parse_render`).
-/

set_option autoImplicit false
set_option relaxedAutoImplicit false

namespace DocTree.Range

/-! ### Splitting at the points -/

theorem splitAtDots_cons {c : Char} (hc : c ≠ '.') (rest : List Char) :
    splitAtDots (c :: rest) =
      match splitAtDots rest with
      | [] => [[c]]
      | piece :: pieces => (c :: piece) :: pieces := by
  conv_lhs => unfold splitAtDots
  split
  · rename_i heq
    cases heq
  · rename_i heq
    exact absurd (List.cons.inj heq).1 hc
  · rename_i heq
    cases heq
    rfl

theorem splitAtDots_of_forall_ne {piece : List Char} (hpiece : ∀ c ∈ piece, c ≠ '.') :
    splitAtDots piece = [piece] := by
  induction piece with
  | nil => simp [splitAtDots]
  | cons c piece ih =>
    obtain ⟨hc, hrest⟩ := List.forall_mem_cons.mp hpiece
    rw [splitAtDots_cons hc, ih hrest]

theorem splitAtDots_append {piece : List Char} (hpiece : ∀ c ∈ piece, c ≠ '.')
    (rest : List Char) : splitAtDots (piece ++ '.' :: '.' :: rest) = piece :: splitAtDots rest := by
  induction piece with
  | nil => simp [splitAtDots]
  | cons c piece ih =>
    obtain ⟨hc, hrest⟩ := List.forall_mem_cons.mp hpiece
    rw [List.cons_append, splitAtDots_cons hc, ih hrest]

theorem hasDots_append (piece rest : List Char) : hasDots (piece ++ '.' :: '.' :: rest) = true := by
  fun_induction hasDots piece with
  | case1 => simp [hasDots]
  | case2 => simp [hasDots]
  | case3 c piece hdots ih =>
    rw [List.cons_append]
    unfold hasDots
    split
    · rename_i heq
      cases heq
    · rfl
    · rename_i heq
      cases heq
      exact ih

theorem hasDots_of_infix {text : List Char} (hdots : ['.', '.'] <:+: text) :
    hasDots text = true := by
  obtain ⟨front, back, rfl⟩ := hdots
  rw [List.append_assoc]
  exact hasDots_append front back

theorem hasDots_of_forall_ne {text : List Char} (htext : ∀ c ∈ text, c ≠ '.') :
    hasDots text = false := by
  fun_induction hasDots text with
  | case1 => rfl
  | case2 => exact absurd rfl (htext '.' List.mem_cons_self)
  | case3 c rest hdots ih => exact ih fun d hd ↦ htext d (List.mem_cons_of_mem c hd)

theorem hasDots_of_digits {text : List Char} (hdigits : ∀ c ∈ text, c.isDigit = true) :
    hasDots text = false := by
  refine hasDots_of_forall_ne fun c hc ↦ ?_
  rintro rfl
  exact absurd (hdigits '.' hc) (by decide)

/-! ### Bounds -/

theorem renderBound_chars {bound : Option Int64} {c : Char} (hmem : c ∈ renderBound bound) :
    c ≠ '.' ∧ c ≠ '?' ∧ Text.isBlank c = false := by
  cases bound with
  | none => cases hmem
  | some number =>
    rcases Decimal.isDigit_or_minus_of_mem_repr hmem with hdigit | rfl
    · refine ⟨?_, ?_, Text.isBlank_of_isDigit hdigit⟩ <;> rintro rfl <;>
        exact absurd hdigit (by decide)
    · decide

theorem render_chars {range : Range} {c : Char} (hmem : c ∈ range.render) :
    c ≠ '?' ∧ Text.isBlank c = false := by
  simp only [render, List.mem_append, List.mem_cons, List.not_mem_nil, or_false] at hmem
  rcases hmem with (hstart | rfl | rfl) | hstop
  · exact (renderBound_chars hstart).2
  · decide
  · decide
  · exact (renderBound_chars hstop).2

theorem trim_render (range : Range) : Text.trim range.render = range.render :=
  Text.trim_eq_self_iff.mpr (Text.trimmed_of_forall fun _ hmem ↦ (render_chars hmem).2)

theorem hasDots_render (range : Range) : hasDots range.render = true := by
  rw [render, List.append_assoc]
  exact hasDots_append _ _

theorem bound?_renderBound (bound : Option Int64) : bound? (renderBound bound) = some bound := by
  have htrim : Text.trim (renderBound bound) = renderBound bound :=
    Text.trim_eq_self_iff.mpr (Text.trimmed_of_forall fun c hmem ↦ (renderBound_chars hmem).2.2)
  cases bound with
  | none => rfl
  | some number =>
    have hne : number.toInt.repr.toList ≠ [] := by
      intro hnil
      have hread := Decimal.signedInt?_repr number.toInt
      rw [hnil] at hread
      cases hread
    rw [renderBound] at htrim ⊢
    simp [bound?, htrim, hne, int64OfText?_repr]

/-- Reading the text of a range gives back the range. -/
theorem parse_render (range : Range) : parse range.render = .ok range := by
  have hrender : range.render =
      renderBound range.start ++ '.' :: '.' :: renderBound range.stop := by
    simp [render]
  have hpieces : splitAtDots range.render = [renderBound range.start, renderBound range.stop] := by
    rw [hrender, splitAtDots_append fun c hmem ↦ (renderBound_chars hmem).1,
      splitAtDots_of_forall_ne fun c hmem ↦ (renderBound_chars hmem).1]
  have hempty : range.render.isEmpty = false := by
    simp [hrender]
  simp only [parse, trim_render, hempty, hasDots_render, hpieces, bound?_renderBound, if_true]
  rfl

end DocTree.Range
