import TypedRows.Proofs.Calendar.Pattern
import TypedRows.Proofs.Csv.Literal

namespace TypedRows.Csv

open Text

variable {v whole fraction : List Char} {bits : Nat}

theorem tail_subset_of_isSign {sign : List Char} (h : IsSign sign) (rest : List Char) :
    (sign ++ rest).tail ⊆ rest := by
  simp only [IsSign, List.mem_cons, List.not_mem_nil, or_false] at h
  rcases h with rfl | rfl | rfl
  case inl => exact (List.tail_suffix rest).subset
  case inr.inl => exact List.Subset.refl rest
  case inr.inr => exact List.Subset.refl rest

theorem DecimalLiteral.mem_tail (h : DecimalLiteral v whole fraction) :
    ∀ c ∈ v.tail, c = '.' ∨ isDecimalDigit c := by
  intro c hc
  rcases h with ⟨hs, hw, hf, _⟩ | ⟨hs, hw, _, hp⟩
  case pointed =>
    rw [List.append_assoc] at hc
    have hc := tail_subset_of_isSign hs _ hc
    simp only [List.mem_append, List.mem_cons] at hc
    rcases hc with hc | rfl | hc
    case inl => exact .inr (hw c hc)
    case inr.inl => exact .inl rfl
    case inr.inr => exact .inr (hf c hc)
  case whole =>
    rw [List.append_assoc] at hc
    rcases List.mem_append.mp (tail_subset_of_isSign hs _ hc) with hc | hc
    case inl => exact .inr (hw c hc)
    case inr =>
      simp only [List.mem_cons, List.not_mem_nil, or_false] at hp
      rcases hp with rfl | rfl
      case inl => contradiction
      case inr => exact .inl (List.mem_singleton.mp hc)

theorem IsDecimal.not_dated (h : IsDecimal v) :
    ¬(Calendar.isDateText v ∨ Calendar.isDateTimeText v) := by
  intro ht
  obtain ⟨whole, fraction, h⟩ := h
  obtain ⟨c, hc, hm⟩ := Calendar.exists_mark ht
  have hd := h.mem_tail c hc
  rcases hm with rfl | rfl <;> revert hd <;> decide

theorem isDecimalDigit_of_isDigit {c : Char} (h : c.isDigit) : isDecimalDigit c := by
  have hn := toNat_of_isDigit h
  have ha : c.toNat < 0x80 := by omega
  rwa [isDecimalDigit, if_pos ha]

-- An integer is a decimal of its own digits.
theorem IntegerLiteral.decimalLiteral {n : Int} (h : IntegerLiteral v n) :
    ∃ digits, DecimalLiteral v digits [] := by
  cases h
  case positive sign digits hs hd hn =>
    have hs : IsSign sign := by
      simp only [List.mem_cons, List.not_mem_nil, or_false] at hs
      rcases hs with rfl | rfl
      case inl => exact .head _
      case inr => exact .tail _ (.head _)
    have hd : ∀ c ∈ digits, isDecimalDigit c := fun c hc => isDecimalDigit_of_isDigit (hd c hc)
    exact ⟨digits, List.append_nil (sign ++ digits) ▸ .whole hs hd hn (.head _)⟩
  case negative digits hd hn =>
    have hs : IsSign ['-'] := .tail _ (.tail _ (.head _))
    have hd : ∀ c ∈ digits, isDecimalDigit c := fun c hc => isDecimalDigit_of_isDigit (hd c hc)
    exact ⟨digits, List.append_nil ('-' :: digits) ▸ .whole hs hd hn (.head _)⟩

theorem IsInteger.isDecimal (h : IsInteger bits v) : IsDecimal v := by
  obtain ⟨n, hl, -⟩ := h
  obtain ⟨digits, hd⟩ := hl.decimalLiteral
  exact ⟨digits, [], hd⟩

theorem CellShape.decimal_of_integer {n : Int} (h : (ofChars v).integer = some n) :
    ∃ whole, (ofChars v).decimal = some ⟨whole, 0⟩ := by
  have hl : IntegerLiteral v n := (integer64?_eq_some_iff.mp h).1
  obtain ⟨digits, hd⟩ := hl.decimalLiteral
  exact ⟨_, ofChars?_eq_some_iff.mpr ⟨digits, [], hd, rfl⟩⟩

theorem CellShape.isDecimal_of_decimal {s : DecimalShape} (h : (ofChars v).decimal = some s) :
    IsDecimal v := by
  obtain ⟨whole, fraction, hl, -⟩ := ofChars?_eq_some_iff.mp h
  exact ⟨whole, fraction, hl⟩

-- What one cell is told to be fits together, whatever stands in it.
theorem CellShape.ofChars_consistent (cs : List Char) :
    (∀ s, (ofChars cs).decimal = some s →
      (ofChars cs).date = false ∧ (ofChars cs).dateTime = false) ∧
    ((ofChars cs).date → (ofChars cs).dateTime = false) ∧
    ∀ n, (ofChars cs).integer = some n → ∃ whole, (ofChars cs).decimal = some ⟨whole, 0⟩ := by
  refine ⟨fun s hs => ?_, fun hd => ?_, fun n => decimal_of_integer⟩
  case refine_1 =>
    have hn := (isDecimal_of_decimal hs).not_dated
    rw [not_or] at hn
    exact ⟨Bool.eq_false_iff.mpr hn.1, Bool.eq_false_iff.mpr hn.2⟩
  case refine_2 => exact Bool.eq_false_iff.mpr (Calendar.not_isDateTimeText hd)

end TypedRows.Csv
