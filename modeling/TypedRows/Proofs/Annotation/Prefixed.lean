import TypedRows.Proofs.Annotation.RoundTrip

namespace TypedRows.ColumnAnnotation

open Text

namespace Spelling

variable {p rest : List Char}

-- The first letter of the opening is found nowhere else in it.
theorem not_isPrefixOf_append (hn : p ≠ []) (h : ¬opening <:+: p) :
    ¬opening.isPrefixOf (p ++ (opening ++ rest)) := by
  intro ho
  have ho : opening <+: p ++ (opening ++ rest) := List.isPrefixOf_iff_prefix.mp ho
  rcases List.prefix_or_prefix_of_prefix ho (List.prefix_append p _) with hp | ⟨y, hy⟩
  case inl => exact h hp.isInfix
  case inr =>
    obtain ⟨x, p, rfl⟩ := List.exists_cons_of_ne_nil hn
    have ho : (x :: p) ++ y <+: (x :: p) ++ (opening ++ rest) := by
      rw [hy]
      exact ho
    have hs : y <+: opening ++ rest := (List.prefix_append_right_inj _).mp ho
    have ht : p ++ y = "olumn \"".toList := (List.cons.inj hy).2
    cases y
    case nil =>
      rw [List.append_nil] at hy
      exact h (hy ▸ List.infix_rfl)
    case cons c y =>
      have hc : c = 'c' := (List.cons_prefix_cons.mp hs).1
      have hm : 'c' ∈ "olumn \"".toList := by rw [← ht, hc]; simp
      exact absurd hm (by decide)

theorem first?_append (h : ¬opening <:+: p) (rest : List Char) :
    first? (p ++ (opening ++ rest)) = first? (opening ++ rest) := by
  induction p
  case nil => rfl
  case cons c p hi =>
    have hs : atStart? (c :: p ++ (opening ++ rest)) = none := by
      rw [atStart?_eq, afterOpening?, if_neg (not_isPrefixOf_append (List.cons_ne_nil c p) h)]
      rfl
    have hf : first? (c :: p ++ (opening ++ rest)) =
        (atStart? (c :: p ++ (opening ++ rest))).or (first? (p ++ (opening ++ rest))) := rfl
    rw [hf, hs, hi (mt List.infix_cons h), Option.none_or]

theorem first?_opening {s : Spelling} (h : named? rest = some s) :
    first? (opening ++ rest) = some s := by
  have hf : first? (opening ++ rest) =
      ((afterOpening? (opening ++ rest)).bind named?).or (first? ("olumn \"".toList ++ rest)) := by
    rw [← atStart?_eq]
    rfl
  have ha : afterOpening? (opening ++ rest) = some rest := by
    have hp : opening.isPrefixOf (opening ++ rest) :=
      List.isPrefixOf_iff_prefix.mpr (List.prefix_append opening rest)
    rw [afterOpening?, if_pos hp, List.drop_left]
  rw [hf, ha, Option.bind_some, h, Option.some_or]

end Spelling

section Found

open Spelling

variable (a : ColumnAnnotation) {p s : String}

theorem renderChars_eq (tail : List Char) :
    a.renderChars ++ tail =
      opening ++ (Escape.commentChars a.column.toList ++ '\x22' :: (a.afterName ++ tail)) := by
  simp [renderChars, afterName, flagsText]

theorem named?_renderChars {tail : List Char} (hs : EndsComment tail) :
    ∃ s, named? (Escape.commentChars a.column.toList ++ '\x22' :: (a.afterName ++ tail)) = some s ∧
      s.read? = some a := by
  have hc : Closed (Escape.commentChars a.column.toList) := .commentChars _
  have ht := a.typed?_afterName hs (Escape.commentChars a.column.toList)
  rw [Escape.unescapeChars_commentChars, String.ofList_toList] at ht
  obtain ⟨s, ht, hr⟩ := Option.bind_eq_some_iff.mp ht
  refine ⟨s, ?_, hr⟩
  rw [named?, hc.quotedName_append, Option.bind_some]
  exact ht

-- An annotation is the first one of its line if none begins before it.
theorem find?_behind (hp : ¬"column \"".toList <:+: p.toList) (hs : s = "" ∨ s = " */") :
    find? (p ++ a.render ++ s) = some a := by
  have he : EndsComment s.toList := by
    rcases hs with rfl | rfl
    case inl => exact .inl rfl
    case inr => exact .inr rfl
  have hl : (p ++ a.render ++ s).toList = p.toList ++ (a.renderChars ++ s.toList) := by
    simp [render]
  obtain ⟨found, hn, hr⟩ := a.named?_renderChars he
  rw [find?, hl, a.renderChars_eq, first?_append hp, first?_opening hn, Option.bind_some, hr]

-- Behind a text that all but begins an annotation, for a name with all that is escaped.
theorem find?_behind_escapes :
    let a : ColumnAnnotation := ⟨"\\\"*/\n", .decimal 65535 0, true, true, false⟩
    ¬"column \"".toList <:+: "// \"column\" column ".toList ∧
      find? ("// \"column\" column " ++ a.render ++ " */") = some a :=
  have hp : ¬"column \"".toList <:+: "// \"column\" column ".toList := by
    simp [List.infix_cons_iff]
  ⟨hp, find?_behind _ hp (.inr rfl)⟩

end Found
end TypedRows.ColumnAnnotation
