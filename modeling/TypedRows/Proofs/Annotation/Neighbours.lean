import Mathlib.Tactic.SplitIfs
import TypedRows.Proofs.Annotation.Line

namespace TypedRows.ColumnAnnotation

open Text Spelling

-- The type that a name spells after a blank, if it begins so.
def spelledType? : List Char → Option (List Char)
  | ' ' :: cs =>
    let letters := cs.takeWhile isSmall
    if letters.isEmpty then none
    else some (letters ++ (typeArguments (cs.dropWhile isSmall)).1)
  | _ => none

-- The type between the first two neighbours that look like the text around the name of a column.
-- The comma between them stands in quotes, as it were, and passes for the name.
def neighbourType? : List (List Char) → Option (List Char)
  | a :: b :: names =>
    (if word <:+ a then spelledType? b else none).or (neighbourType? (b :: names))
  | _ => none

-- Lists of names in which no annotation is read, since what looks like one has no type.
def NamesPlain (names : List String) : Prop :=
  (neighbourType? (names.map String.toList)).bind CanonicalType.ofChars? = none

instance : DecidablePred NamesPlain :=
  fun _ => inferInstanceAs (Decidable (_ = none))

section Escaped

theorem word_suffix_quotedChars {cs : List Char} :
    word <:+ Escape.quotedChars cs ↔ word <:+ cs := by
  induction cs
  case nil => rfl
  case cons c cs hi =>
    rw [Escape.quotedChars_cons, List.suffix_cons_iff]
    rcases Escape.quotedChar_cases c with ⟨_, hx⟩ | ⟨hc, x, hm, hx, _⟩
    case inl =>
      have hw : word = c :: Escape.quotedChars cs ↔ word = c :: cs := by
        constructor
        case mp =>
          intro h
          have hq : Escape.quotedChars cs = "olumn ".toList := (List.cons.inj h).2.symm
          have hcs : cs = "olumn ".toList := by
            rw [← Escape.unescapeChars_quotedChars cs, hq]
            rfl
          rwa [hcs, ← hq]
        case mpr =>
          intro h
          have hcs : cs = "olumn ".toList := (List.cons.inj h).2.symm
          rwa [hcs] at h ⊢
      rw [hx, List.singleton_append, List.suffix_cons_iff, hw, hi]
    case inr =>
      have hb : word ≠ '\\' :: x :: Escape.quotedChars cs := by
        intro h
        exact absurd (List.cons.inj h).1 (by decide)
      have hn : word ≠ x :: Escape.quotedChars cs := by
        intro h
        rw [← (List.cons.inj h).1] at hm
        exact absurd hm (by decide)
      have hr : word ≠ c :: cs := by
        intro h
        rw [← (List.cons.inj h).1] at hc
        exact absurd hc (by decide)
      rw [hx, List.cons_append, List.singleton_append, List.suffix_cons_iff, List.suffix_cons_iff, hi]
      simp [hb, hn, hr]

variable {p : Char → Bool} (hp : ∀ c ∈ ['\\', '\x22', '\n', '\r', '\t'], p c = false)

include hp

theorem takeWhile_quotedChars (cs rest : List Char) :
    (Escape.quotedChars cs ++ '\x22' :: rest).takeWhile p = cs.takeWhile p := by
  induction cs
  case nil => exact List.takeWhile_cons_of_neg (by simp [hp])
  case cons c cs hi =>
    rw [Escape.quotedChars_cons]
    rcases Escape.quotedChar_cases c with ⟨_, hx⟩ | ⟨hc, x, _, hx, _⟩
    case inl => cases hc : p c <;> simp [hx, hc, hi]
    case inr => simp [hx, hp c hc, hp '\\']

theorem dropWhile_quotedChars (cs rest : List Char) :
    (Escape.quotedChars cs ++ '\x22' :: rest).dropWhile p =
      Escape.quotedChars (cs.dropWhile p) ++ '\x22' :: rest := by
  induction cs
  case nil => exact List.dropWhile_cons_of_neg (by simp [hp])
  case cons c cs hi =>
    rw [Escape.quotedChars_cons]
    rcases Escape.quotedChar_cases c with ⟨_, hx⟩ | ⟨hc, x, _, hx, _⟩
    case inl => cases hc : p c <;> simp [hx, hc, hi, Escape.quotedChars_cons]
    case inr => simp [hx, hp c hc, hp '\\', Escape.quotedChars_cons]

omit hp

theorem head?_quotedChars_append {c : Char} (hc : c ∉ ['\\', '\x22', '\n', '\r', '\t'])
    (cs rest : List Char) :
    (Escape.quotedChars cs ++ '\x22' :: rest).head? = some c ↔ cs.head? = some c := by
  have hb : '\\' ≠ c ∧ '\x22' ≠ c := by
    constructor <;> (rintro rfl; simp at hc)
  cases cs
  case nil => simp [Escape.quotedChars, hb.2]
  case cons x cs =>
    rw [Escape.quotedChars_cons]
    rcases Escape.quotedChar_cases x with ⟨_, hx⟩ | ⟨hm, y, _, hx, _⟩
    case inl => simp [hx]
    case inr =>
      have hn : x ≠ c := by
        rintro rfl
        exact hc hm
      simp [hx, hb.1, hn]

theorem typeArguments_parenthesis (inner : List Char) :
    (typeArguments ('(' :: inner)).1 =
      if inner.takeWhile isArgumentChar ≠ [] ∧ (inner.dropWhile isArgumentChar).head? = some ')' then
        '(' :: inner.takeWhile isArgumentChar ++ [')']
      else [] := by
  rw [typeArguments]
  split
  case h_1 ht hd => simp [ht, hd]
  case h_2 hn =>
    rw [if_neg]
    rintro ⟨ht, hd⟩
    obtain ⟨a, as, ht⟩ := List.exists_cons_of_ne_nil ht
    obtain ⟨rest, hd⟩ := List.head?_eq_some_iff.mp hd
    exact hn a as rest ht hd

theorem typeArguments_quotedChars (cs rest : List Char) :
    (typeArguments (Escape.quotedChars cs ++ '\x22' :: rest)).1 = (typeArguments cs).1 := by
  have hp : ∀ c ∈ ['\\', '\x22', '\n', '\r', '\t'], isArgumentChar c = false := by
      simp [isArgumentChar]
  by_cases hc : cs.head? = some '('
  case pos =>
    obtain ⟨inner, rfl⟩ := List.head?_eq_some_iff.mp hc
    have hq : Escape.quotedChars ('(' :: inner) = '(' :: Escape.quotedChars inner := rfl
    have hh := head?_quotedChars_append (by decide : ')' ∉ _) (inner.dropWhile isArgumentChar) rest
    rw [hq, List.cons_append, typeArguments_parenthesis, typeArguments_parenthesis,
      takeWhile_quotedChars hp, dropWhile_quotedChars hp]
    simp only [hh]
  case neg =>
    have hq : (Escape.quotedChars cs ++ '\x22' :: rest).head? ≠ some '(' :=
      mt (head?_quotedChars_append (by decide) cs rest).mp hc
    rw [typeArguments_of_ne hq, typeArguments_of_ne hc]

theorem typed?_quotedChars (name cs rest : List Char) :
    (typed? name (Escape.quotedChars cs ++ '\x22' :: rest)).map Spelling.type =
      spelledType? cs := by
  have hp : ∀ c ∈ ['\\', '\x22', '\n', '\r', '\t'], isSmall c = false := by simp [isSmall]
  by_cases hc : cs.head? = some ' '
  case pos =>
    obtain ⟨cs, rfl⟩ := List.head?_eq_some_iff.mp hc
    have hq : Escape.quotedChars (' ' :: cs) = ' ' :: Escape.quotedChars cs := rfl
    rw [hq, List.cons_append, typed?, spelledType?]
    dsimp only
    rw [takeWhile_quotedChars hp, dropWhile_quotedChars hp]
    split_ifs
    case pos => rfl
    case neg =>
      rw [← typeArguments_quotedChars (cs.dropWhile isSmall) rest]
      rfl
  case neg =>
    have hq : (Escape.quotedChars cs ++ '\x22' :: rest).head? ≠ some ' ' :=
      mt (head?_quotedChars_append (by decide) cs rest).mp hc
    have hs : spelledType? cs = none := by
      unfold spelledType?
      split
      case h_1 => exact (hc rfl).elim
      case h_2 => rfl
    rw [typed?_eq_none hq, hs]
    rfl

end Escaped

section Lists

-- What follows the first quote of a list of names, after its first name.
def namePieces (tail : List Char) : List (List Char) → List (List Char)
  | [] => [tail]
  | name :: names => ", ".toList :: Escape.quotedChars name :: namePieces tail names

variable {l : Language} {tail : List Char}

theorem toList_stringLiteral (hl : l ≠ .php) (s : String) :
    (l.stringLiteral s).toList = '\x22' :: Escape.quotedChars s.toList ++ ['\x22'] := by
  simp [stringLiteral_eq hl, Escape.quoted]

theorem inQuotes_names (hl : l ≠ .php) (p : List Char) (name : String) (names : List String) :
    p ++ (Layout.commaSeparated ((name :: names).map l.stringLiteral)).toList ++ tail =
      inQuotes p (Escape.quotedChars name.toList :: namePieces tail (names.map String.toList)) := by
  induction names generalizing p name
  case nil => simp [Layout.commaSeparated, toList_stringLiteral hl, inQuotes, namePieces]
  case cons other names hi =>
    have hs : Layout.commaSeparated ((name :: other :: names).map l.stringLiteral) =
        l.stringLiteral name ++ ", " ++
          Layout.commaSeparated ((other :: names).map l.stringLiteral) := by
      simp [Layout.commaSeparated]
    have hr : inQuotes p (Escape.quotedChars name.toList ::
          namePieces tail ((other :: names).map String.toList)) =
        p ++ '\x22' :: (Escape.quotedChars name.toList ++ '\x22' :: inQuotes ", ".toList
          (Escape.quotedChars other.toList :: namePieces tail (names.map String.toList))) := rfl
    rw [hs, hr, ← hi ", ".toList other]
    simp [toList_stringLiteral hl]

theorem closed_namePieces (ht : Closed tail) (names : List (List Char)) :
    ∀ q ∈ namePieces tail names, Closed q := by
  induction names
  case nil => simpa [namePieces] using ht
  case cons name names hi =>
    have hc : Closed ", ".toList := .of_check rfl
    have hn : Closed (Escape.quotedChars name) := .quotedChars name
    exact List.forall_mem_cons.mpr ⟨hc, List.forall_mem_cons.mpr ⟨hn, hi⟩⟩

theorem firstIn?_namePieces (ht : tail.head? ≠ some ' ') (p name : List Char)
    (names : List (List Char)) :
    firstIn? p (Escape.quotedChars name :: namePieces tail names) =
      firstIn? (Escape.quotedChars name) (namePieces tail names) := by
  cases names
  case nil =>
    have ht : (inQuotes tail []).head? ≠ some ' ' := ht
    exact firstIn?_of_head ht p
  case cons other names => exact firstIn?_of_head (by simp [inQuotes]) p

theorem firstIn?_cons_namePieces (ht : tail.head? ≠ some ' ') (name other : List Char)
    (names : List (List Char)) :
    firstIn? (Escape.quotedChars name) (namePieces tail (other :: names)) =
      (if word <:+ name then
        typed? ", ".toList (inQuotes (Escape.quotedChars other) (namePieces tail names)) else none).or
        (firstIn? (Escape.quotedChars other) (namePieces tail names)) := by
  rw [namePieces, firstIn?_cons_cons, firstIn?_namePieces ht]
  simp only [word_suffix_quotedChars]

theorem firstIn?_type (ht : tail.head? ≠ some ' ') (name : List Char) (names : List (List Char)) :
    (firstIn? (Escape.quotedChars name) (namePieces tail names)).map Spelling.type =
      neighbourType? (name :: names) := by
  induction names generalizing name
  case nil => rfl
  case cons other names hi =>
    have hs : (typed? ", ".toList (inQuotes (Escape.quotedChars other)
        (namePieces tail names))).map Spelling.type = spelledType? other := by
      cases names <;> exact typed?_quotedChars ..
    rw [firstIn?_cons_namePieces ht, Option.map_or, hi, neighbourType?]
    split_ifs
    case pos => rw [hs]
    case neg => rfl

-- The comma between two names passes for the name of a column.
theorem firstIn?_column {name : List Char} {names : List (List Char)} {s : Spelling}
    (ht : tail.head? ≠ some ' ')
    (h : firstIn? (Escape.quotedChars name) (namePieces tail names) = some s) :
    s.column = ", ".toList := by
  induction names generalizing name
  case nil => cases h
  case cons other names hi =>
    rw [firstIn?_cons_namePieces ht] at h
    rcases Option.or_eq_some_iff.mp h with h | ⟨_, h⟩
    case inl =>
      split_ifs at h
      exact typed?_column h
    case inr => exact hi h

section Found

variable {a s : String} (hl : l ≠ .php) (ha : Quoteless a) (hs : Quoteless s)
  (hn : s.toList.head? ≠ some ' ') (names : List String)

include hl ha hs hn

theorem found_names :
    found (a ++ Layout.commaSeparated (names.map l.stringLiteral) ++ s) =
      match names.map String.toList with
      | [] => []
      | name :: names =>
        ((firstIn? (Escape.quotedChars name) (namePieces s.toList names)).bind read?).toList := by
  cases names
  case nil =>
    have hc : Quoteless (Layout.commaSeparated []) := .of_check rfl
    exact found_quoteless ((ha.append hc).append hs)
  case cons name names =>
    have h : (a ++ Layout.commaSeparated ((name :: names).map l.stringLiteral) ++ s).toList =
        inQuotes a.toList (Escape.quotedChars name.toList ::
          namePieces s.toList (names.map String.toList)) := by
      rw [← inQuotes_names hl, String.toList_append, String.toList_append]
    have hc : ∀ q ∈ Escape.quotedChars name.toList ::
        namePieces s.toList (names.map String.toList), Closed q :=
      List.forall_mem_cons.mpr ⟨.quotedChars _, closed_namePieces hs _⟩
    rw [found_inQuotes h ha hc, firstIn?_namePieces hn]
    rfl

theorem found_names_eq_nil_iff :
    found (a ++ Layout.commaSeparated (names.map l.stringLiteral) ++ s) = [] ↔
      NamesPlain names := by
  rw [found_names hl ha hs hn, NamesPlain]
  cases names
  case nil => simp [neighbourType?]
  case cons name names =>
    rw [List.map_cons, ← firstIn?_type hn]
    dsimp only
    cases firstIn? (Escape.quotedChars name.toList) (namePieces s.toList (names.map String.toList))
    case none => simp
    case some s => simp [read?]

theorem found_names_column :
    ∀ c ∈ found (a ++ Layout.commaSeparated (names.map l.stringLiteral) ++ s),
      c.column = ", " := by
  rw [found_names hl ha hs hn]
  cases names
  case nil => simp
  case cons name names =>
    intro c hc
    obtain ⟨x, hx, hr⟩ := Option.bind_eq_some_iff.mp (Option.mem_toList.mp hc)
    obtain ⟨k, _, rfl⟩ := Option.map_eq_some_iff.mp hr
    have hc : x.column = ", ".toList := firstIn?_column hn hx
    simp only [hc]
    rfl

end Found

end Lists

end TypedRows.ColumnAnnotation
