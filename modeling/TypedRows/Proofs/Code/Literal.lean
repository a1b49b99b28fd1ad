import TypedRows.Layout.Go
import TypedRows.Proofs.Annotation.Line
import TypedRows.Proofs.Code.Reading

namespace TypedRows

open Text

namespace Code

-- How a literal is spelled between its quotes.
structure Quoting where
  quote : Char
  -- Characters after a backslash, and what the two stand for.
  escapes : List (Char × Char)
  -- Whether a backslash stands for itself in front of any other character.
  lenient : Bool := false
  -- What has no place in a literal.
  excluded : List Char := []

namespace Quoting

variable (x : Quoting)

-- The text up to the first quote without a backslash, and what follows the quote.
def text? : List Char → Option (List Char × List Char)
  | [] => none
  | c :: cs =>
    if c = x.quote then some ([], cs)
    else if c = '\\' then
      match cs with
      | [] => none
      | e :: rest =>
        match x.escapes.lookup e with
        | some a => (text? rest).map fun (text, rest) => (a :: text, rest)
        | none =>
          if x.lenient then (text? (e :: rest)).map fun (text, rest) => ('\\' :: text, rest)
          else none
    else if x.excluded.contains c then none
    else (text? cs).map fun (text, rest) => (c :: text, rest)

-- The text of the literal that starts here, and what follows it.
def literal? : List Char → Option (List Char × List Char)
  | [] => none
  | c :: cs => if c = x.quote then x.text? cs else none

end Quoting

-- A text between two such quotes. Carriage returns in it are passed over.
def rawText? (quote : Char) : List Char → Option (List Char × List Char)
  | [] => none
  | c :: cs =>
    if c = quote then some ([], cs)
    else (rawText? quote cs).map fun (text, rest) => (if c = '\r' then text else c :: text, rest)

namespace Quoting

variable {x : Quoting} {c e : Char} {cs rest text : List Char}

theorem text?_plain (hq : c ≠ x.quote) (hb : c ≠ '\\') (he : c ∉ x.excluded) :
    x.text? (c :: cs) = (x.text? cs).map fun (text, rest) => (c :: text, rest) := by
  rw [text?.eq_def]
  dsimp only
  rw [if_neg hq, if_neg hb, if_neg (mt List.contains_iff_mem.mp he)]

theorem text?_escaped (hq : x.quote ≠ '\\') (he : x.escapes.lookup e = some c) :
    x.text? ('\\' :: e :: rest) = (x.text? rest).map fun (text, rest) => (c :: text, rest) := by
  rw [text?, if_neg hq.symm, if_pos rfl]
  simp only [he]

theorem text?_quote (rest : List Char) : x.text? (x.quote :: rest) = some ([], rest) := by
  rw [text?.eq_def]
  exact if_pos rfl

end Quoting

theorem rawText?_append {quote : Char} {cs : List Char} (hq : quote ∉ cs) (hr : '\r' ∉ cs)
    (rest : List Char) : rawText? quote (cs ++ quote :: rest) = some (cs, rest) := by
  induction cs
  case nil => exact if_pos rfl
  case cons c cs hi =>
    simp only [List.mem_cons, not_or] at hq hr
    rw [List.cons_append, rawText?, if_neg (Ne.symm hq.1), hi hq.2 hr.2]
    simp [Ne.symm hr.1]

end Code

open Code

namespace Language

-- The escapes are the ones that layouts write. Line breaks that end a literal are excluded from it.
def quoting : Language → Quoting
  | go => { quote := '\x22', escapes := doubleQuoted, excluded := ['\n'] }
  | rust => { quote := '\x22', escapes := doubleQuoted, excluded := ['\r'] }
  | typescript | python => { quote := '\x22', escapes := doubleQuoted, excluded := ['\n', '\r'] }
  | php => { quote := '\x27', escapes := [('\\', '\\'), ('\x27', '\x27')], lenient := true }
where
  doubleQuoted : List (Char × Char) :=
    [('\\', '\\'), ('\x22', '\x22'), ('n', '\n'), ('r', '\r'), ('t', '\t')]

-- The text of the literal that starts here, and what follows it.
def readLiteral? (l : Language) (cs : List Char) : Option (String × List Char) :=
  (l.quoting.literal? cs).map fun (text, rest) => (String.ofList text, rest)

variable (l : Language)

-- A character is spelled as itself, if it is neither special nor excluded, or as an escape of it.
theorem literalChar_spells (c : Char) :
    (l.literalChar c = [c] ∧ c ≠ l.quoting.quote ∧ c ≠ '\\' ∧ c ∉ l.quoting.excluded) ∨
      ∃ e, l.literalChar c = ['\\', e] ∧ l.quoting.escapes.lookup e = some c := by
  have hd : (Escape.quotedChar c = [c] ∧ c ≠ '\x22' ∧ c ≠ '\\' ∧ c ≠ '\n' ∧ c ≠ '\r') ∨
      ∃ e, Escape.quotedChar c = ['\\', e] ∧ quoting.doubleQuoted.lookup e = some c := by
    rcases Escape.quotedChar_cases c with ⟨hc, hx⟩ | ⟨_, e, he, hx, hu⟩
    case inl =>
      simp only [List.mem_cons, List.not_mem_nil, or_false, not_or] at hc
      exact .inl ⟨hx, hc.2.1, hc.1, hc.2.2.1, hc.2.2.2.1⟩
    case inr =>
      refine .inr ⟨e, hx, ?_⟩
      rw [← hu]
      simp only [List.mem_cons, List.not_mem_nil, or_false] at he
      rcases he with rfl | rfl | rfl | rfl | rfl <;> rfl
  cases l
  case php =>
    by_cases hc : c = '\\' ∨ c = '\x27'
    case pos =>
      refine .inr ⟨c, by simp [literalChar, hc], ?_⟩
      rcases hc with rfl | rfl <;> rfl
    case neg =>
      have hn := not_or.mp hc
      exact .inl ⟨by simp [literalChar, hc], hn.2, hn.1, List.not_mem_nil⟩
  all_goals
    rcases hd with ⟨hx, hq, hb, hn, hr⟩ | hd
    case inl => exact .inl ⟨hx, hq, hb, by simp [quoting, hn, hr]⟩
    case inr => exact .inr hd

theorem quote_ne_backslash : l.quoting.quote ≠ '\\' := by
  cases l <;> decide

theorem text?_literalChar (c : Char) (cs : List Char) :
    l.quoting.text? (l.literalChar c ++ cs) =
      (l.quoting.text? cs).map fun (text, rest) => (c :: text, rest) := by
  rcases l.literalChar_spells c with ⟨hx, hq, hb, he⟩ | ⟨e, hx, he⟩
  case inl => rw [hx]; exact Quoting.text?_plain hq hb he
  case inr => rw [hx]; exact Quoting.text?_escaped l.quote_ne_backslash he

theorem text?_spelled (cs rest : List Char) :
    l.quoting.text? (cs.flatMap l.literalChar ++ l.quoting.quote :: rest) = some (cs, rest) := by
  induction cs
  case nil => exact Quoting.text?_quote rest
  case cons c cs hi =>
    rw [List.flatMap_cons, List.append_assoc, text?_literalChar, hi]
    rfl

example : php.quoting.text? ['a', '\\', '\x27', 'b', '\\', '\\', 'c', '\x27', ';'] =
    some (['a', '\x27', 'b', '\\', 'c'], [';']) := by decide

-- A literal ends where it was ended, whatever follows it.
theorem readLiteral?_append (value : String) (rest : List Char) :
    l.readLiteral? ((l.stringLiteral value).toList ++ rest) = some (value, rest) := by
  have hq : l.quote = l.quoting.quote := by cases l <;> rfl
  have ht : l.quoting.literal? ((l.stringLiteral value).toList ++ rest) =
      some (value.toList, rest) := by
    rw [stringLiteral_eq_spelled, spelled, String.toList_ofList, hq, List.cons_append,
      List.cons_append, List.append_assoc, Quoting.literal?, if_pos rfl]
    exact l.text?_spelled value.toList rest
  simp [readLiteral?, ht]

end Language

namespace Layout.Go

-- A raw string starts with a backquote; other strings are spelled as literals.
def readString? : List Char → Option (String × List Char)
  | '\x60' :: cs => (rawText? '\x60' cs).map fun (text, rest) => (String.ofList text, rest)
  | cs => Language.go.readLiteral? cs

-- What the tag of a field for this column holds.
def tagText (column : String) : String :=
  "db:" ++ Language.go.stringLiteral column

theorem tag_eq (column : String) :
    tag column =
      if (tagText column).toList.contains '\x60' then Language.go.stringLiteral (tagText column)
      else "\x60" ++ tagText column ++ "\x60" := by
  have ht : "db:\"" ++ Escape.quoted column ++ "\"" = tagText column := by
    apply String.toList_injective
    simp [tagText, ColumnAnnotation.stringLiteral_eq]
  rw [tag, ht]

theorem return_not_mem_tagText (column : String) : '\r' ∉ (tagText column).toList := by
  have hc := ColumnAnnotation.Spelling.Closed.quotedChars column.toList
  have hq : '\r' ∉ Escape.quotedChars column.toList := hc.no_lineBreak.2
  rw [tagText, ColumnAnnotation.stringLiteral_eq Language.noConfusion]
  simpa [Escape.quoted] using hq

-- A tag as it is written: a raw string, or a literal where the text holds a backquote.
structure TagOf (column tag : String) : Prop where
  form : (∃ inner, '\x60' ∉ inner ∧ tag.toList = '\x60' :: inner ++ ['\x60']) ∨
    tag.toList.head? = some '\x22'
  value : ∃ value : String, Language.go.readLiteral? value.toList = some (column, []) ∧
    ∀ rest, readString? (tag.toList ++ rest) = some ("db:" ++ value, rest)

theorem tag_tagOf (column : String) : TagOf column (tag column) := by
  have hv : Language.go.readLiteral? (Language.go.stringLiteral column).toList =
      some (column, []) := by
    simpa using Language.go.readLiteral?_append column []
  rw [tag_eq]
  split_ifs with hb
  case pos =>
    have hh : (Language.go.stringLiteral (tagText column)).toList.head? = some '\x22' := by
      rw [Language.stringLiteral_eq_spelled]
      rfl
    refine ⟨.inr hh, _, hv, fun rest => ?_⟩
    obtain ⟨cs, hs⟩ := List.head?_eq_some_iff.mp hh
    have hr := Language.go.readLiteral?_append (tagText column) rest
    rw [hs] at hr ⊢
    exact hr
  case neg =>
    have hb : '\x60' ∉ (tagText column).toList := mt List.contains_iff_mem.mpr hb
    have ht : ("\x60" ++ tagText column ++ "\x60").toList =
        '\x60' :: (tagText column).toList ++ ['\x60'] := by simp
    refine ⟨.inl ⟨_, hb, ht⟩, _, hv, fun rest => ?_⟩
    have hr := rawText?_append hb (return_not_mem_tagText column) rest
    rw [ht, List.cons_append, List.cons_append, List.append_assoc, readString?,
      List.singleton_append, hr]
    simp only [Option.map_some, String.ofList_toList, tagText]

end Layout.Go

-- A literal is read as its text, and a tag as a key with the column as its value.
theorem Code.literals_read_back :
    (∀ (l : Language) (value : String) (rest : List Char),
      l.readLiteral? ((l.stringLiteral value).toList ++ rest) = some (value, rest)) ∧
    ∀ column : String, Layout.Go.TagOf column (Layout.Go.tag column) :=
  ⟨Language.readLiteral?_append, Layout.Go.tag_tagOf⟩

end TypedRows
