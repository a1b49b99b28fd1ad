import Mathlib.Algebra.Ring.Parity
import TypedRows.Proofs.Annotation.RoundTrip

namespace TypedRows

open Text

namespace Text.Escape

-- How many backslashes a text ends with.
def backslashRun (cs : List Char) : Nat :=
  (cs.reverse.takeWhile (· = '\\')).length

def QuotesEscaped (cs : List Char) : Prop :=
  ∀ before after, cs = before ++ '\x22' :: after → Odd (backslashRun before)

theorem backslashRun_concat (cs : List Char) (c : Char) :
    backslashRun (cs ++ [c]) = if c = '\\' then backslashRun cs + 1 else 0 := by
  rw [backslashRun, List.reverse_append, List.reverse_singleton, List.singleton_append,
    List.takeWhile_cons]
  split_ifs with hb hc <;> simp_all [backslashRun]

end Text.Escape

namespace ColumnAnnotation.Spelling

open Escape

-- Pieces are gone through from the left. Where one begins, the run before it is even: a plain
-- character ends every run, and an escape adds two backslashes or ends the run with its letter.
theorem Closed.odd_backslashRun {cs front before after : List Char} (h : Closed cs)
    (hf : Even (backslashRun front)) (hc : cs = before ++ '\x22' :: after) :
    Odd (backslashRun (front ++ before)) := by
  induction h generalizing front before
  case nil => simp at hc
  case plain c cs hn _ hi =>
    rcases before with _ | ⟨d, before⟩
    case nil =>
      obtain ⟨rfl, -⟩ := List.cons.inj hc
      exact absurd List.mem_cons_self hn
    case cons =>
      obtain ⟨rfl, he⟩ := List.cons.inj hc
      have hb : c ≠ '\\' := by rintro rfl; simp at hn
      have hr : Even (backslashRun (front ++ [c])) := by
        rw [backslashRun_concat, if_neg hb]
        exact Even.zero
      rw [List.append_cons]
      exact hi hr he
  case escape c cs _ _ hi =>
    have hb : backslashRun (front ++ ['\\']) = backslashRun front + 1 := by
      rw [backslashRun_concat, if_pos rfl]
    rcases before with _ | ⟨d, _ | ⟨e, before⟩⟩
    case nil => exact absurd (List.cons.inj hc).1 (by decide)
    case cons.nil =>
      obtain ⟨rfl, -⟩ := List.cons.inj hc
      rw [hb]
      exact hf.add_one
    case cons.cons =>
      obtain ⟨rfl, hd⟩ := List.cons.inj hc
      obtain ⟨rfl, he⟩ := List.cons.inj hd
      have hr : Even (backslashRun (front ++ ['\\'] ++ [c])) := by
        rw [backslashRun_concat, hb]
        split_ifs
        case pos => exact hf.add_one.add_one
        case neg => exact Even.zero
      rw [List.append_cons, List.append_cons]
      exact hi hr he

theorem Closed.quotesEscaped {cs : List Char} (h : Closed cs) : QuotesEscaped cs := by
  have hf : Even (backslashRun []) := Even.zero
  exact fun before after hc => h.odd_backslashRun hf hc

end ColumnAnnotation.Spelling

namespace Text.Escape

-- What comment texts are for: they are read back, and they end neither the line nor the block nor
-- the quotes in which they stand.
theorem comment_reads_back (text : String) :
    unescape (comment text) = text ∧
    '\n' ∉ (comment text).toList ∧ '\r' ∉ (comment text).toList ∧
    ¬['*', '/'] <:+: (comment text).toList ∧ QuotesEscaped (comment text).toList := by
  have hc : ColumnAnnotation.Spelling.Closed (commentChars text.toList) := .commentChars _
  obtain ⟨hn, hr⟩ := hc.no_lineBreak
  rw [unescape, comment, String.toList_ofList, unescapeChars_commentChars, String.ofList_toList]
  exact ⟨rfl, hn, hr, not_close_guardClose _, hc.quotesEscaped⟩

end Text.Escape
end TypedRows
