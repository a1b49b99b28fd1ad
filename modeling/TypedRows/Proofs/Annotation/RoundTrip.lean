import TypedRows.Proofs.Annotation.Scan
import TypedRows.Proofs.Schema.CanonicalType
import TypedRows.Proofs.Text.Escape

namespace TypedRows.ColumnAnnotation

open Text

namespace Spelling

section Pieces

variable {cs : List Char}

theorem Closed.quotedChar (c : Char) : Closed (Escape.quotedChar c) := by
  rcases Escape.quotedChar_cases c with ⟨hc, hx⟩ | ⟨_, x, hc, hx, _⟩
  case inl =>
    have hp : c ∉ ['\x22', '\\', '\n', '\r'] := by simp_all
    exact hx ▸ Closed.nil.plain hp
  case inr =>
    have he : x ∉ ['\n', '\r'] := by
      rintro hm
      simp only [List.mem_cons, List.not_mem_nil, or_false] at hm
      rcases hm with rfl | rfl <;> simp at hc
    exact hx ▸ Closed.nil.escape he

theorem Closed.quotedChars (cs : List Char) : Closed (Escape.quotedChars cs) := by
  induction cs
  case nil => exact .nil
  case cons c cs hi => exact (Closed.quotedChar c).append hi

theorem Closed.commentChars (cs : List Char) : Closed (Escape.commentChars cs) := by
  fun_induction Escape.guardClose cs
  case case1 cs hi => exact (hi.escape (by decide)).plain (by decide)
  case case2 c cs hn hi =>
    have h : c = '*' → cs.head? ≠ some '/' := by
      intro hc hs
      obtain ⟨rest, rfl⟩ := List.head?_eq_some_iff.mp hs
      exact hn rest hc rfl
    exact Escape.commentChars_cons h ▸ (Closed.quotedChar c).append hi
  case case3 => exact .nil

end Pieces

section Types

-- Texts of types: a name, and arguments in parentheses or none.
def IsType (cs : List Char) : Prop :=
  ∃ letters arguments, cs = letters ++ arguments ∧ letters ≠ [] ∧ (∀ c ∈ letters, isSmall c) ∧
    (arguments = [] ∨
      ∃ inner, arguments = '(' :: inner ++ [')'] ∧ inner ≠ [] ∧ ∀ c ∈ inner, isArgumentChar c)

theorem isType_withArguments {name : String} {ns : List Nat} (hl : name.toList ≠ [])
    (hs : ∀ c ∈ name.toList, isSmall c) (hn : ns ≠ []) :
    IsType (CanonicalType.withArguments name ns).toList := by
  rw [CanonicalType.toList_withArguments, List.append_assoc]
  refine ⟨_, _, rfl, hl, hs, .inr ⟨_, rfl, ?_, ?_⟩⟩
  case refine_1 =>
    cases ns
    case nil => contradiction
    case cons n ns => cases ns <;> simp [List.intercalate_cons_cons, Nat.toDigits_ne_nil]
  case refine_2 =>
    clear hn
    have hd : ∀ n, ∀ c ∈ Nat.toDigits 10 n, isArgumentChar c := by
      intro n c hc
      simp [isArgumentChar, isDigit_of_mem hc]
    induction ns
    case nil => simp
    case cons n ns hi =>
      cases ns
      case nil => simpa using hd n
      case cons m ns =>
        simp only [List.map_cons] at hi ⊢
        rw [List.intercalate_cons_cons, List.append_assoc]
        exact List.forall_mem_append.mpr ⟨hd n, List.forall_mem_cons.mpr ⟨rfl, hi⟩⟩

theorem isType_of_letters {cs : List Char} (hn : cs ≠ []) (hs : ∀ c ∈ cs, isSmall c) : IsType cs :=
  ⟨cs, [], (List.append_nil cs).symm, hn, hs, .inl rfl⟩

theorem isType_render (k : CanonicalType) : IsType k.render.toList := by
  cases k
  case integer => exact isType_withArguments (by decide) (List.all_eq_true.mp rfl) (by simp)
  case float => exact isType_withArguments (by decide) (List.all_eq_true.mp rfl) (by simp)
  case decimal => exact isType_withArguments (by decide) (List.all_eq_true.mp rfl) (by simp)
  case text length =>
    cases length
    case none => exact isType_of_letters (by decide) (List.all_eq_true.mp rfl)
    case some => exact isType_withArguments (by decide) (List.all_eq_true.mp rfl) (by simp)
  case binary length =>
    cases length
    case none => exact isType_of_letters (by decide) (List.all_eq_true.mp rfl)
    case some => exact isType_withArguments (by decide) (List.all_eq_true.mp rfl) (by simp)
  all_goals exact isType_of_letters (by decide) (List.all_eq_true.mp rfl)

theorem typeArguments_parenthesized {inner tail : List Char} (hn : inner ≠ [])
    (hi : ∀ c ∈ inner, isArgumentChar c) :
    typeArguments ('(' :: inner ++ [')'] ++ tail) = ('(' :: inner ++ [')'], tail) := by
  obtain ⟨a, as, rfl⟩ := List.exists_cons_of_ne_nil hn
  have hp : ∀ c ∈ (')' :: tail).head?, isArgumentChar c = false := fun _ hc =>
    Option.some_inj.mp hc ▸ rfl
  have ht : (a :: as ++ ')' :: tail).takeWhile isArgumentChar = a :: as :=
    takeWhile_append_of_head hi hp
  have hd : (a :: as ++ ')' :: tail).dropWhile isArgumentChar = ')' :: tail :=
    dropWhile_append_of_head hi hp
  have he : '(' :: (a :: as) ++ [')'] ++ tail = '(' :: (a :: as ++ ')' :: tail) := by simp
  simp only [he, typeArguments, ht, hd]

theorem typeArguments_of_ne {cs : List Char} (h : cs.head? ≠ some '(') :
    typeArguments cs = ([], cs) := by
  unfold typeArguments
  split
  case h_1 => exact (h rfl).elim
  case h_2 => rfl

-- A type goes no further than the blank after it.
theorem typed?_of_isType {cs tail : List Char} (h : IsType cs) (ht : ∀ c ∈ tail.head?, c = ' ')
    (name : List Char) : typed? name (' ' :: cs ++ tail) = some ⟨name, cs, leadingFlags tail⟩ := by
  obtain ⟨letters, arguments, rfl, hn, hs, ha⟩ := h
  have hh : ∀ c ∈ (arguments ++ tail).head?, isSmall c = false := by
    rcases ha with rfl | ⟨inner, rfl, _, _⟩
    · intro c hc
      rw [ht c hc]
      rfl
    · simp [isSmall]
  have ht' : (letters ++ arguments ++ tail).takeWhile isSmall = letters := by
    rw [List.append_assoc, takeWhile_append_of_head hs hh]
  have hd : (letters ++ arguments ++ tail).dropWhile isSmall = arguments ++ tail := by
    rw [List.append_assoc, dropWhile_append_of_head hs hh]
  have hg : typeArguments (arguments ++ tail) = (arguments, tail) := by
    rcases ha with rfl | ⟨inner, rfl, hi, hp⟩
    · apply typeArguments_of_ne
      intro hc
      exact absurd (ht '(' hc) (by decide)
    · exact typeArguments_parenthesized hi hp
  have he : letters.isEmpty = false := by simpa using hn
  rw [List.cons_append, typed?]
  dsimp only
  rw [ht', hd, hg, he]
  rfl

theorem Closed.of_isType {cs : List Char} (h : IsType cs) : Closed cs := by
  obtain ⟨letters, arguments, rfl, _, hs, ha⟩ := h
  apply Closed.append
  case ha =>
    apply Closed.of_forall
    intro c hc hm
    have hc := hs c hc
    simp only [List.mem_cons, List.not_mem_nil, or_false] at hm
    rcases hm with rfl | rfl | rfl | rfl <;> simp [Spelling.isSmall] at hc
  case hb =>
    rcases ha with rfl | ⟨inner, rfl, _, hp⟩
    case inl => exact .nil
    case inr =>
      have hi : Closed inner := by
        apply Closed.of_forall
        intro c hc hm
        have hc := hp c hc
        simp only [List.mem_cons, List.not_mem_nil, or_false] at hm
        rcases hm with rfl | rfl | rfl | rfl <;> simp [isArgumentChar] at hc
      exact (hi.append (Closed.nil.plain (by decide))).plain (by decide)

end Types

end Spelling

section Found

variable (a : ColumnAnnotation) {s : List Char}

def flagsText : List Char :=
  a.flags.flatMap fun f => ' ' :: f.toList

-- What a line may hold after an annotation: nothing, or the end of a comment.
def EndsComment (s : List Char) : Prop :=
  s = [] ∨ s = " */".toList

def afterName : List Char :=
  ' ' :: a.canonical.render.toList ++ a.flagsText

theorem renderChars_append (p s : List Char) :
    p ++ a.renderChars ++ s = Spelling.inQuotes (p ++ Spelling.word)
      [Escape.commentChars a.column.toList, a.afterName ++ s] := by
  have ho : opening = Spelling.word ++ ['\x22'] := rfl
  simp [renderChars, ho, Spelling.inQuotes, afterName, flagsText]

theorem head?_flagsText (hs : EndsComment s) : ∀ c ∈ (a.flagsText ++ s).head?, c = ' ' := by
  unfold flagsText flags
  rcases hs with rfl | rfl <;> cases a.primaryKey <;> cases a.notNull <;> cases a.autoIncrement <;>
    rintro _ ⟨⟩ <;> rfl

theorem leadingFlags_flagsText (hs : EndsComment s) :
    Spelling.leadingFlags (a.flagsText ++ s) = a.flags.map String.toList := by
  unfold flagsText flags
  rcases hs with rfl | rfl <;> cases a.primaryKey <;> cases a.notNull <;> cases a.autoIncrement <;>
    decide

theorem mem_flags :
    (a.flags.map String.toList).contains "primary_key".toList = a.primaryKey ∧
      (a.flags.map String.toList).contains "not_null".toList = a.notNull ∧
      (a.flags.map String.toList).contains "auto_increment".toList = a.autoIncrement := by
  unfold flags
  cases a.primaryKey <;> cases a.notNull <;> cases a.autoIncrement <;> decide

theorem typed?_afterName (hs : EndsComment s) (name : List Char) :
    (Spelling.typed? name (a.afterName ++ s)).bind Spelling.read? =
      some { a with column := String.ofList (Escape.unescapeChars name) } := by
  have ⟨hp, hn, hi⟩ := a.mem_flags
  rw [afterName, List.append_assoc,
    Spelling.typed?_of_isType (Spelling.isType_render a.canonical) (a.head?_flagsText hs),
    a.leadingFlags_flagsText hs, Option.bind_some, Spelling.read?, CanonicalType.ofChars?_render]
  simp only [Option.map_some, hp, hn, hi]

theorem closed_afterName (hs : EndsComment s) : Spelling.Closed (a.afterName ++ s) := by
  have hf : Spelling.Closed (a.flagsText ++ s) := by
    apply Spelling.Closed.of_check
    unfold flagsText flags
    rcases hs with rfl | rfl <;> cases a.primaryKey <;> cases a.notNull <;>
      cases a.autoIncrement <;> decide
  have ht : Spelling.IsType a.canonical.render.toList := Spelling.isType_render a.canonical
  rw [afterName, List.append_assoc]
  exact ((Spelling.Closed.of_isType ht).plain (by decide)).append hf

-- An annotation is read where a piece ends with the word in front of its name.
theorem firstIn?_renderChars {p : List Char} (hp : Spelling.word <:+ p) (hs : EndsComment s) :
    (Spelling.firstIn? p [Escape.commentChars a.column.toList, a.afterName ++ s]).bind
      Spelling.read? = some a := by
  rw [Spelling.firstIn?, if_pos hp, Spelling.inQuotes, Spelling.firstIn?, Option.or_none,
    a.typed?_afterName hs, Escape.unescapeChars_commentChars, String.ofList_toList]

end Found
end TypedRows.ColumnAnnotation
