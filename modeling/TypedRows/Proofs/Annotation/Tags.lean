import TypedRows.Proofs.Annotation.Layouts

namespace TypedRows.Layout.Go

open Text ColumnAnnotation

variable {m : TableModel}

-- Names with which the tag of a field passes for the beginning of an annotation: the name in the
-- tag ends with the word in front of one, and the name in the annotation begins with a type.
def Misleading (name : String) : Prop :=
  '\x60' ∉ name.toList ∧ Spelling.word <:+ name.toList ∧ (spelledType? name.toList).isSome

instance : DecidablePred Misleading :=
  fun _ => inferInstanceAs (Decidable (_ ∧ _ ∧ _))

theorem closed_blanks (n : Nat) : Spelling.Closed (List.replicate n ' ') := by
  apply Spelling.Closed.of_forall
  intro c hc
  rw [List.eq_of_mem_replicate hc]
  decide

theorem padRight_quoteless {s : String} (h : Quoteless s) (width : Nat) :
    Quoteless (padRight width s) := by
  apply h.append
  rw [Quoteless, String.toList_ofList]
  exact closed_blanks _

theorem importLines_found (m : TableModel) : (importLines (imports m)).flatMap found = [] := by
  unfold imports
  split_ifs <;> decide

theorem constantLines_found (h : Writable m) : (constantLines m).flatMap found = [] := by
  apply List.flatMap_eq_nil_iff.mpr
  intro line hl
  obtain ⟨q, hq, rfl⟩ := List.mem_map.mp hl
  obtain ⟨p, hp, rfl⟩ := List.mem_map.mp hq
  have hn : Quoteless (m.typeName ++ Casing.pascal.apply p.1) :=
    h.typeName.append (casing_quoteless hp .pascal)
  exact found_stringLiteral_end (by decide)
    (((Quoteless.of_check rfl).append (padRight_quoteless hn _)).append
      (.of_check rfl)) p.2

theorem isSome_typed?_guardClose (name cs rest : List Char) :
    (Spelling.typed? name (Escape.guardClose cs ++ rest)).isSome =
      (Spelling.typed? name (cs ++ rest)).isSome := by
  by_cases hc : cs.head? = some ' '
  case pos =>
    obtain ⟨cs, rfl⟩ := List.head?_eq_some_iff.mp hc
    have hg : Escape.guardClose (' ' :: cs) = ' ' :: Escape.guardClose cs := by
      rw [Escape.guardClose_cons fun h => absurd h (by decide)]
    rw [hg, List.cons_append, List.cons_append, Spelling.isSome_typed?, Spelling.isSome_typed?,
      List.head?_append, List.head?_append, Escape.head?_guardClose]
  case neg =>
    cases cs
    case nil => rfl
    case cons c cs =>
      have hg : (Escape.guardClose (c :: cs) ++ rest).head? ≠ some ' ' := by
        rw [List.head?_append, Escape.head?_guardClose]
        exact hc
      have hr : (c :: cs ++ rest).head? ≠ some ' ' := hc
      rw [Spelling.typed?_eq_none hg, Spelling.typed?_eq_none hr]

-- The name in an annotation passes for a type where the column's own name does.
theorem isSome_typed?_commentChars (name cs rest : List Char) :
    (Spelling.typed? name (Escape.commentChars cs ++ '\x22' :: rest)).isSome =
      (spelledType? cs).isSome := by
  rw [Escape.commentChars, isSome_typed?_guardClose, ← typed?_quotedChars name cs rest,
    Option.isSome_map]

section Fields

variable {p : String} (hp : Quoteless p) (n : Nat) (a : ColumnAnnotation)

-- What stands between a tag and the name in the annotation after it.
def gap (n : Nat) : List Char :=
  List.replicate n ' ' ++ " // ".toList ++ Spelling.word

theorem closed_gap (n : Nat) : Spelling.Closed (gap n) :=
  ((closed_blanks n).append (.of_check rfl)).append (.of_check rfl)

theorem typed?_gap (name rest : List Char) : Spelling.typed? name (gap n ++ rest) = none := by
  rw [← Option.not_isSome_iff_eq_none]
  cases n
  case zero => simp [gap, Spelling.isSome_typed?, Spelling.isSmall]
  case succ n =>
    have hs : gap (n + 1) ++ rest = ' ' :: (gap n ++ rest) := rfl
    rw [hs, Spelling.isSome_typed?]
    cases n <;> simp [gap, List.replicate_succ, Spelling.isSmall]

theorem word_suffix_gap (p : List Char) : Spelling.word <:+ p ++ gap n :=
  (List.suffix_append _ Spelling.word).trans (List.suffix_append p _)

theorem toList_gap_render : (String.ofList (List.replicate n ' ') ++ " // " ++ a.render).toList =
    Spelling.inQuotes (gap n) [Escape.commentChars a.column.toList, a.afterName] := by
  have h := a.renderChars_append (List.replicate n ' ' ++ " // ".toList) []
  simp only [List.append_nil] at h
  rw [gap, ← h]
  simp [render]

theorem closed_pieces {q r : List Char} (hq : Spelling.Closed q) (hr : Spelling.Closed r) :
    ∀ x ∈ [q, r, Escape.commentChars a.column.toList, a.afterName], Spelling.Closed x := by
  have ha : Spelling.Closed (a.afterName ++ []) := a.closed_afterName (.inl rfl)
  rw [List.append_nil] at ha
  simpa using ⟨hq, hr, .commentChars _, ha⟩

theorem firstIn?_gap (p : List Char) : (Spelling.firstIn? (p ++ gap n)
    [Escape.commentChars a.column.toList, a.afterName]).bind Spelling.read? = some a := by
  simpa using a.firstIn?_renderChars (word_suffix_gap n p) (.inl rfl)

include hp

theorem found_rawTag (column : String) :
    found (p ++ ("\x60" ++ ("db:\"" ++ Escape.quoted column ++ "\"") ++ "\x60") ++
        (String.ofList (List.replicate n ' ') ++ " // " ++ a.render)) =
      (((if Spelling.word <:+ column.toList then Spelling.typed? ('\x60' :: gap n)
          (Escape.commentChars a.column.toList ++ '\x22' :: a.afterName) else none).or
        (Spelling.firstIn? ('\x60' :: gap n)
          [Escape.commentChars a.column.toList, a.afterName])).bind Spelling.read?).toList := by
  have hq : Quoteless (p ++ "\x60db:") := hp.append (.of_check rfl)
  have hc := closed_pieces a (.quotedChars column.toList)
    ((closed_gap n).plain (by decide : '\x60' ∉ _))
  have h : (p ++ ("\x60" ++ ("db:\"" ++ Escape.quoted column ++ "\"") ++ "\x60") ++
        (String.ofList (List.replicate n ' ') ++ " // " ++ a.render)).toList =
      Spelling.inQuotes (p ++ "\x60db:").toList [Escape.quotedChars column.toList, '\x60' :: gap n,
        Escape.commentChars a.column.toList, a.afterName] := by
    rw [String.toList_append, toList_gap_render]
    simp [Spelling.inQuotes, Escape.quoted]
  rw [found_inQuotes h hq hc, Spelling.firstIn?_of_head (by simp [Spelling.inQuotes]),
    Spelling.firstIn?_cons_cons]
  simp only [word_suffix_quotedChars]
  rfl

-- A tag in quotes ends with a quote of its own, so that no name follows it.
theorem found_literalTag {text : String} (ht : text.toList.getLast? = some '\x22') :
    found (p ++ Language.go.stringLiteral text ++
      (String.ofList (List.replicate n ' ') ++ " // " ++ a.render)) = [a] := by
  have hc := closed_pieces a (.quotedChars text.toList) (closed_gap n)
  have h : (p ++ Language.go.stringLiteral text ++
        (String.ofList (List.replicate n ' ') ++ " // " ++ a.render)).toList =
      Spelling.inQuotes p.toList [Escape.quotedChars text.toList, gap n,
        Escape.commentChars a.column.toList, a.afterName] := by
    rw [String.toList_append, toList_gap_render]
    simp [Spelling.inQuotes, toList_stringLiteral]
  have hn : ¬Spelling.word <:+ text.toList := by
    rintro ⟨front, hf⟩
    have hw : Spelling.word.getLast?.or front.getLast? = some ' ' := rfl
    rw [← hf, List.getLast?_append, hw] at ht
    exact absurd ht (by decide)
  have hg : Spelling.typed? (Escape.quotedChars text.toList) (Spelling.inQuotes (gap n)
      [Escape.commentChars a.column.toList, a.afterName]) = none := typed?_gap ..
  have hs : ¬Spelling.word <:+ Escape.quotedChars text.toList := mt word_suffix_quotedChars.mp hn
  rw [found_inQuotes h hp hc, Spelling.firstIn?_cons_cons, hg, ite_self, Option.none_or,
    Spelling.firstIn?_of_not_suffix hs]
  exact congrArg Option.toList (firstIn?_gap n a [])

end Fields

theorem tag_of_mem {column : String} (h : '\x60' ∈ column.toList) :
    ∃ text : String, text.toList.getLast? = some '\x22' ∧
      tag column = Language.go.stringLiteral text := by
  have hm : '\x60' ∈ ("db:\"" ++ Escape.quoted column ++ "\"").toList := by
    simp [Escape.quoted, Escape.mem_quotedChars (by decide : '\x60' ∉ _), h]
  refine ⟨_, ?_, if_pos (List.contains_iff_mem.mpr hm)⟩
  rw [String.toList_append, List.getLast?_append]
  rfl

theorem tag_of_not_mem {column : String} (h : '\x60' ∉ column.toList) :
    tag column = "\x60" ++ ("db:\"" ++ Escape.quoted column ++ "\"") ++ "\x60" := by
  have hm : '\x60' ∉ ("db:\"" ++ Escape.quoted column ++ "\"").toList := by
    simp [Escape.quoted, Escape.mem_quotedChars (by decide : '\x60' ∉ _), h]
  exact if_neg (mt List.contains_iff_mem.mp hm)

section FieldLines

variable {f : FieldModel} (hn : Quoteless f.name) (ht : Quoteless f.typeToken)
  (hc : f.annotation.column = f.column) (i j k : Nat)

include hn ht

theorem fieldLine_eq : ∃ p n, Quoteless p ∧ fieldLine i j k f =
    p ++ tag f.column ++ (String.ofList (List.replicate n ' ') ++ " // " ++ f.annotation.render) := by
  refine ⟨"\t" ++ padRight i f.name ++ " " ++ padRight j f.typeToken ++ " ",
    k - (tag f.column).length, ?_, ?_⟩
  case refine_1 =>
    exact ((((Quoteless.of_check rfl).append (padRight_quoteless hn i)).append
      (.of_check rfl)).append (padRight_quoteless ht j)).append (.of_check rfl)
  case refine_2 => simp [fieldLine, padRight, String.append_assoc]

include hc

theorem fieldLine_found (hm : ¬Misleading f.column) :
    found (fieldLine i j k f) = [ f.annotation] := by
  obtain ⟨p, n, hp, hl⟩ := fieldLine_eq hn ht i j k
  by_cases hb : '\x60' ∈ f.column.toList
  case pos =>
    obtain ⟨text, hx, hg⟩ := tag_of_mem hb
    rw [hl, hg, found_literalTag hp n f.annotation hx]
  case neg =>
    have hs : (if Spelling.word <:+ f.column.toList then Spelling.typed? ('\x60' :: gap n)
        (Escape.commentChars f.annotation.column.toList ++ '\x22' :: f.annotation.afterName)
          else none) = none := by
      split_ifs with hw
      · rw [← Option.not_isSome_iff_eq_none, isSome_typed?_commentChars, hc]
        exact fun hs => hm ⟨hb, hw, hs⟩
      · rfl
    rw [hl, tag_of_not_mem hb, found_rawTag hp, hs, Option.none_or]
    exact congrArg Option.toList (firstIn?_gap n f.annotation ['\x60'])

-- The backquote that ends the tag is taken for the beginning of a name.
theorem fieldLine_column (hm : Misleading f.column) :
    ∀ a ∈ found (fieldLine i j k f), a.column.toList.head? = some '\x60' := by
  obtain ⟨p, n, hp, hl⟩ := fieldLine_eq hn ht i j k
  obtain ⟨hb, hw, hs⟩ := hm
  rw [← hc, ← isSome_typed?_commentChars ('\x60' :: gap n) _ f.annotation.afterName] at hs
  obtain ⟨s, hs⟩ := Option.isSome_iff_exists.mp hs
  rw [hl, tag_of_not_mem hb, found_rawTag hp, if_pos hw, hs, Option.some_or, Option.bind_some]
  intro a ha
  obtain ⟨k, _, rfl⟩ := Option.map_eq_some_iff.mp (Option.mem_toList.mp ha)
  rw [String.toList_ofList, Spelling.typed?_column hs]
  rfl

end FieldLines

theorem fieldLines_found (h : Writable m) (hm : ∀ f ∈ m.fields, ¬Misleading f.column) :
    (fieldLines m).flatMap found = m.fields.map FieldModel.annotation := by
  rw [fieldLines, List.map_eq_flatMap]
  apply flatMap_fields
  intro f hf
  rw [List.flatMap_singleton]
  exact fieldLine_found (h.fieldName f hf) (h.typeToken f hf) (h.column f hf) _ _ _ (hm f hf)

-- The annotation of a misleading name is found nowhere.
theorem not_misleading {keys : List ColumnAnnotation} (h : Writable m)
    (hk : ∀ a ∈ keys, a.column = ", ")
    (ha : (fieldLines m).flatMap found ++ keys = m.fields.map FieldModel.annotation) :
    ∀ f ∈ m.fields, ¬Misleading f.column := by
  intro f hf hm
  obtain ⟨hb, hw, hs⟩ := hm
  have hc : f.annotation.column = f.column := h.column f hf
  have hx : f.annotation ∈ (fieldLines m).flatMap found ++ keys :=
    ha ▸ List.mem_map_of_mem hf
  rcases List.mem_append.mp hx with hx | hx
  case inr =>
    rw [← hc, hk _ hx] at hw
    exact absurd hw (by decide)
  case inl =>
    obtain ⟨line, hl, hx⟩ := List.mem_flatMap.mp hx
    obtain ⟨g, hg, rfl⟩ := List.mem_map.mp hl
    have hn : Quoteless g.name := h.fieldName g hg
    have ht : Quoteless g.typeToken := h.typeToken g hg
    by_cases hg' : Misleading g.column
    case pos =>
      have hh := fieldLine_column hn ht (h.column g hg) _ _ _ hg' _ hx
      rw [hc] at hh
      exact hb (List.mem_of_mem_head? hh)
    case neg =>
      rw [fieldLine_found hn ht (h.column g hg) _ _ _ hg', List.mem_singleton] at hx
      rw [← h.column g hg, ← hx, hc] at hg'
      exact hg' ⟨hb, hw, hs⟩

theorem unit_found (h : Writable m) :
    (unit m).flatMap found = m.fields.map FieldModel.annotation ↔
      NamesPlain m.primaryKey ∧ ∀ f ∈ m.fields, ¬Misleading f.column := by
  have ht : Quoteless m.typeName := h.typeName
  have hc : Quoteless (commentName m) := commentName_quoteless m
  have hp : Quoteless ("var " ++ m.typeName ++ "PrimaryKey = []string\x7b") :=
    ((Quoteless.of_check rfl).append ht).append (.of_check rfl)
  have hk : found ("var " ++ m.typeName ++ "PrimaryKey = []string\x7b" ++
      commaSeparated (keyLiterals .go m) ++ "\x7d") = [] ↔ NamesPlain m.primaryKey :=
    found_names_eq_nil_iff (by decide) hp (.of_check rfl) (by decide) _
  have hkc : ∀ a ∈ found ("var " ++ m.typeName ++ "PrimaryKey = []string\x7b" ++
      commaSeparated (keyLiterals .go m) ++ "\x7d"), a.column = ", " :=
    found_names_column (by decide) hp (.of_check rfl) (by decide) _
  have hq : Quoteless ("const " ++ m.typeName ++ "Table = ") :=
    ((Quoteless.of_check rfl).append ht).append (.of_check rfl)
  have hl : found ("const " ++ m.typeName ++ "Table = " ++ Language.go.stringLiteral m.table) = [] :=
    found_stringLiteral_end (by decide) hq _
  have hu : (unit m).flatMap found = (fieldLines m).flatMap found ++
      found ("var " ++ m.typeName ++ "PrimaryKey = []string\x7b" ++
        commaSeparated (keyLiterals .go m) ++ "\x7d") := by
    simp (disch := first | assumption | decide) only [unit, List.flatMap_append, List.flatMap_cons,
      List.flatMap_nil, importLines_found, constantLines_found h, hl, found_fixed, found_around,
      found_between, List.nil_append, List.append_nil]
  rw [← hk, hu]
  constructor
  case mp =>
    intro ha
    have hm := not_misleading h hkc ha
    have hf := fieldLines_found h hm
    rw [hf, List.append_right_eq_self] at ha
    exact ⟨ha, hm⟩
  case mpr =>
    rintro ⟨hn, hm⟩
    rw [hn, fieldLines_found h hm, List.append_nil]

end TypedRows.Layout.Go
