import TypedRows.Text.Blank

namespace TypedRows.Text

-- What stands before a line feed, without a carriage return at its end.
def chomp (cs : List Char) : List Char :=
  if cs.getLast? = some '\r' then cs.dropLast else cs

def lines (cs : List Char) : List (List Char) :=
  let pieces := splitAtChar '\n' cs
  pieces.dropLast.map chomp ++ pieces.getLast?.toList.filter (!·.isEmpty)

theorem chomp_of_not_mem {cs : List Char} (h : '\r' ∉ cs) : chomp cs = cs := by
  unfold chomp
  split
  case isTrue hl => exact (h (List.mem_of_getLast? hl)).elim
  case isFalse => rfl

variable {sep : Char}

theorem splitAtChar_append (a b : List Char) :
    splitAtChar sep (a ++ sep :: b) = splitAtChar sep a ++ splitAtChar sep b := by
  induction a
  case nil => simp [splitAtChar]
  case cons c a hi =>
    rw [List.cons_append, splitAtChar, splitAtChar, hi]
    split
    case isTrue => rfl
    case isFalse =>
      cases ha : splitAtChar sep a
      case nil => exact (splitAtChar_ne_nil sep a ha).elim
      case cons => rfl

theorem splitAtChar_of_not_mem {a : List Char} (h : sep ∉ a) : splitAtChar sep a = [a] := by
  induction a
  case nil => rfl
  case cons c a hi =>
    simp only [List.mem_cons, not_or] at h
    rw [splitAtChar, if_neg (Ne.symm h.1), hi h.2]

theorem splitAtChar_intercalate {pieces : List (List Char)} (hn : pieces ≠ [])
    (h : ∀ p ∈ pieces, sep ∉ p) : splitAtChar sep ([sep].intercalate pieces) = pieces := by
  induction pieces
  case nil => contradiction
  case cons p pieces hi =>
    obtain ⟨hp, h⟩ := List.forall_mem_cons.mp h
    rcases pieces with _ | ⟨q, pieces⟩
    case nil => simp [splitAtChar_of_not_mem hp]
    case cons =>
      rw [List.intercalate_cons_cons, List.append_assoc, List.singleton_append, splitAtChar_append,
        splitAtChar_of_not_mem hp, hi (List.cons_ne_nil q pieces) h]
      rfl

theorem intercalate_splitAtChar (cs : List Char) :
    [sep].intercalate (splitAtChar sep cs) = cs := by
  induction cs
  case nil => rfl
  case cons c cs hi =>
    obtain ⟨w, ws, hs⟩ := List.exists_cons_of_ne_nil (splitAtChar_ne_nil sep cs)
    rw [splitAtChar]
    rw [hs] at hi ⊢
    split
    case isTrue hc => rw [List.intercalate_cons_cons, hi, hc]; rfl
    case isFalse =>
      cases ws
      case nil => simpa using hi
      case cons => rw [List.intercalate_cons_cons] at hi ⊢; rw [← hi]; rfl

-- The first piece is where the text begins; the other ones are somewhere in it.
theorem splitAtChar_pieces (cs : List Char) :
    (∀ p ∈ (splitAtChar sep cs).head?, p <+: cs) ∧ ∀ p ∈ splitAtChar sep cs, p <:+: cs := by
  induction cs
  case nil => simp [splitAtChar]
  case cons c cs hi =>
    obtain ⟨hh, hm⟩ := hi
    rw [splitAtChar]
    split
    case isTrue =>
      have hc : ∀ p ∈ splitAtChar sep cs, p <:+: c :: cs := fun p hp => List.infix_cons (hm p hp)
      simpa using hc
    case isFalse =>
      cases hs : splitAtChar sep cs
      case nil => exact (splitAtChar_ne_nil sep cs hs).elim
      case cons w ws =>
        have hw : c :: w <+: c :: cs := List.cons_prefix_cons.mpr ⟨rfl, hh w (by simp [hs])⟩
        have hc : ∀ p ∈ ws, p <:+: c :: cs := by
          intro p hp
          exact List.infix_cons (hm p (hs ▸ List.mem_cons_of_mem w hp))
        constructor
        case left => simpa using hw
        case right => exact List.forall_mem_cons.mpr ⟨hw.isInfix, hc⟩

-- Each line that was ended gives its own lines, of which there are several if it holds line feeds.
theorem lines_flatMap_append (ls : List (List Char)) :
    lines (ls.flatMap (· ++ ['\n'])) = ls.flatMap fun l => (splitAtChar '\n' l).map chomp := by
  have hs : splitAtChar '\n' (ls.flatMap (· ++ ['\n'])) = ls.flatMap (splitAtChar '\n') ++ [[]] := by
    induction ls
    case nil => rfl
    case cons l ls hi =>
      rw [List.flatMap_cons, List.append_assoc, List.singleton_append, splitAtChar_append, hi]
      simp
  rw [lines, hs]
  simp [List.map_flatMap]

end TypedRows.Text
