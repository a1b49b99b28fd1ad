import TypedRows.Layout.Basic
import TypedRows.Proofs.Annotation.RoundTrip
import TypedRows.Proofs.Text.Lines

namespace TypedRows.ColumnAnnotation

open Text Spelling

-- What is found in a line of a layout, which is several lines of its unit if it holds line feeds.
def found (line : String) : List ColumnAnnotation :=
  ((splitAtChar '\n' line.toList).map chomp).filterMap fun cs => find? (String.ofList cs)

-- What is found in a text, line by line.
def foundIn (text : String) : List ColumnAnnotation :=
  (lines text.toList).filterMap fun cs => find? (String.ofList cs)

theorem foundIn_text (ls : Layout.Lines) : foundIn ls.text = ls.flatMap found := by
  have ht : ls.text.toList = (ls.map String.toList).flatMap (· ++ ['\n']) := by
    simp [Layout.Lines.text, String.toList_join, List.flatMap_map]
  rw [foundIn, ht, lines_flatMap_append, List.filterMap_flatMap, List.flatMap_map]
  rfl

namespace Spelling

theorem inQuotes_no_lineBreak {p : List Char} {ps : List (List Char)} (hp : Closed p)
    (hps : ∀ q ∈ ps, Closed q) : '\n' ∉ inQuotes p ps ∧ '\r' ∉ inQuotes p ps := by
  induction ps generalizing p
  case nil => exact hp.no_lineBreak
  case cons q qs hi =>
    have ⟨hq, hqs⟩ := List.forall_mem_cons.mp hps
    simp [inQuotes, hp.no_lineBreak, hi hq hqs]

end Spelling

variable {line : String} {p : List Char} {ps : List (List Char)}

theorem found_inQuotes (h : line.toList = inQuotes p ps) (hp : Closed p) (hps : ∀ q ∈ ps, Closed q) :
    found line = ((firstIn? p ps).bind read?).toList := by
  have ⟨hn, hr⟩ := inQuotes_no_lineBreak hp hps
  rw [found, h, splitAtChar_of_not_mem hn, List.map_singleton, chomp_of_not_mem hr]
  simp only [List.filterMap_cons, List.filterMap_nil, find?, String.toList_ofList,
    first?_inQuotes hp hps]
  cases (firstIn? p ps).bind read? <;> rfl

section Texts

-- Texts that hold no quote without a backslash before it, and no line break.
def Quoteless (s : String) : Prop :=
  Closed s.toList

variable {l : Language} {a b s x : String}

theorem Quoteless.append (ha : Quoteless a) (hb : Quoteless b) : Quoteless (a ++ b) := by
  rw [Quoteless, String.toList_append]
  exact Closed.append ha hb

theorem Quoteless.of_check (h : Closed.check s.toList) : Quoteless s :=
  Closed.of_check h

theorem Quoteless.comment (s : String) : Quoteless (Escape.comment s) := by
  rw [Quoteless, Escape.comment, String.toList_ofList]
  exact Closed.commentChars s.toList

theorem found_quoteless (h : Quoteless line) : found line = [] := by
  have hi : line.toList = inQuotes line.toList [] := rfl
  rw [found_inQuotes hi h (by simp), firstIn?]
  rfl

-- A single text in quotes is no annotation, since no type follows it.
theorem found_quoted (ha : Quoteless a) (hx : Quoteless x) (hs : Quoteless s)
    (hn : s.toList.head? ≠ some ' ') : found (a ++ "\"" ++ x ++ "\"" ++ s) = [] := by
  have h : (a ++ "\"" ++ x ++ "\"" ++ s).toList = inQuotes a.toList [x.toList, s.toList] := by
    simp [inQuotes]
  have hn : (inQuotes s.toList []).head? ≠ some ' ' := hn
  have hf : firstIn? a.toList [x.toList, s.toList] = none := firstIn?_of_head hn a.toList
  rw [found_inQuotes h ha (by simpa using ⟨hx, hs⟩), hf]
  rfl

theorem stringLiteral_eq (hl : l ≠ .php) (x : String) :
    l.stringLiteral x = "\"" ++ Escape.quoted x ++ "\"" := by
  apply String.toList_injective
  rw [Language.stringLiteral, String.toList_ofList]
  cases l
  case php => contradiction
  all_goals simp [Language.literalChars, Escape.quoted]

theorem found_stringLiteral (hl : l ≠ .php) (ha : Quoteless a) (hs : Quoteless s)
    (hn : s.toList.head? ≠ some ' ') (x : String) : found (a ++ l.stringLiteral x ++ s) = [] := by
  have hx : Quoteless (Escape.quoted x) := by
    rw [Quoteless, Escape.quoted, String.toList_ofList]
    exact Closed.quotedChars x.toList
  rw [stringLiteral_eq hl, ← String.append_assoc, ← String.append_assoc]
  exact found_quoted ha hx hs hn

theorem found_render (ha : Quoteless a) (c : ColumnAnnotation) {s : String}
    (hs : EndsComment s.toList) : found (a ++ c.render ++ s) = [c] := by
  have hw : Closed word := .of_check rfl
  have hc : Closed (Escape.commentChars c.column.toList) := .commentChars _
  have hn : Closed (c.afterName ++ s.toList) := c.closed_afterName hs
  have h : (a ++ c.render ++ s).toList = inQuotes (a.toList ++ word)
      [Escape.commentChars c.column.toList, c.afterName ++ s.toList] := by
    rw [← c.renderChars_append]
    simp [render]
  rw [found_inQuotes h (Closed.append ha hw) (by simp [hc, hn]),
    c.firstIn?_renderChars (List.suffix_append a.toList word) hs]
  rfl

theorem found_render_end (ha : Quoteless a) (c : ColumnAnnotation) : found (a ++ c.render) = [c] := by
  have h : found (a ++ c.render ++ "") = [c] := found_render ha c (.inl rfl)
  rwa [String.append_empty] at h

theorem found_stringLiteral_end (hl : l ≠ .php) (ha : Quoteless a) (x : String) :
    found (a ++ l.stringLiteral x) = [] := by
  have h : found (a ++ l.stringLiteral x ++ "") = [] :=
    found_stringLiteral hl ha (.of_check rfl) (by decide) x
  rwa [String.append_empty] at h

end Texts

end TypedRows.ColumnAnnotation
