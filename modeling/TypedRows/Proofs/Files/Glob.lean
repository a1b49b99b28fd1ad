import Mathlib.Tactic.SplitIfs
import TypedRows.Files.Glob

namespace TypedRows.Glob

variable {atStart : Bool} {position length fuel : Nat} {c : Char} {cs rest body : List Char}
  {p : GlobPiece} {fault : GlobFault}

section Rest

theorem classBody?_rest (h : classBody? cs = some (body, rest)) : rest.length < cs.length := by
  unfold classBody? at h
  split at h
  case h_1 => contradiction
  case h_2 c cs =>
    have hs := (List.dropWhile_sublist (l := cs) (· ≠ ']')).length_le
    split at h
    case h_1 => contradiction
    case h_2 hd =>
      cases h
      rw [hd, List.length_cons] at hs
      rw [List.length_cons]
      omega

theorem charClass?_rest (h : charClass? cs = some (p, rest)) : rest.length < cs.length := by
  unfold charClass? at h
  split at h
  all_goals
    obtain ⟨⟨body, tail⟩, hb, he⟩ := Option.map_eq_some_iff.mp h
    cases he
    have := classBody?_rest hb
  case h_1 => exact Nat.lt_succ_of_lt this
  case h_2 => exact this

theorem directories_rest {tail : List Char} (h : directories atStart position rest = .ok tail) :
    tail.length ≤ rest.length := by
  unfold directories at h
  split_ifs at h
  split at h
  case h_1 => cases h; exact Nat.le_refl _
  case h_2 =>
    split_ifs at h
    cases h
    exact Nat.le_succ _

theorem stars_rest (h : stars atStart position cs = .ok (p, rest)) : rest.length ≤ cs.length := by
  have hs := (List.dropWhile_sublist (l := cs) (· = '*')).length_le
  unfold stars at h
  dsimp only at h
  split at h
  case h_1 => cases h; exact hs
  case h_2 =>
    cases hd : directories atStart position (cs.dropWhile (· = '*'))
    case error => rw [hd] at h; contradiction
    case ok tail =>
      rw [hd] at h
      cases h
      exact Nat.le_trans (directories_rest hd) hs
  case h_3 => contradiction

theorem piece_rest (h : piece atStart position c cs = .ok (p, rest)) :
    rest.length ≤ cs.length := by
  unfold piece at h
  split at h
  case h_1 => cases h; exact Nat.le_refl _
  case h_2 => exact stars_rest h
  case h_3 =>
    cases hc : charClass? cs
    case none => rw [hc] at h; contradiction
    case some r =>
      rw [hc] at h
      cases h
      exact Nat.le_of_lt (charClass?_rest hc)
  case h_4 => cases h; exact Nat.le_refl _

theorem readWithin_cons : readWithin length atStart (fuel + 1) (c :: cs) =
    (piece atStart (length - (cs.length + 1)) c cs).bind fun r =>
      (readWithin length (endsPart r.1) fuel r.2).map (r.1 :: ·) := by
  rw [readWithin]
  cases piece atStart (length - (cs.length + 1)) c cs
  case error => rfl
  case ok r =>
    cases h : readWithin length (endsPart r.1) fuel r.2 <;>
      simp [bind, Except.bind, pure, Except.pure, Except.map, h]

-- The reader is done before its fuel is used up.
theorem readWithin_fuel (h : cs.length ≤ fuel) :
    readWithin length atStart (fuel + 1) cs = readWithin length atStart fuel cs := by
  induction fuel generalizing atStart cs
  case zero =>
    cases cs
    case nil => rfl
    case cons => contradiction
  case succ fuel hi =>
    cases cs
    case nil => rfl
    case cons c cs =>
      rw [readWithin_cons, readWithin_cons]
      cases hp : piece atStart (length - (cs.length + 1)) c cs
      case error => rfl
      case ok r =>
        have hr : r.2.length ≤ fuel :=
          Nat.le_trans (piece_rest hp) (Nat.le_of_succ_le_succ h)
        exact congrArg (·.map (r.1 :: ·)) (hi hr)

end Rest

section Faults

theorem directories_error (h : directories atStart position rest = .error fault) :
    fault.position < position + 2 + rest.length := by
  unfold directories at h
  split_ifs at h
  case pos =>
    split at h
    case h_1 => contradiction
    case h_2 =>
      split_ifs at h
      cases h
      rw [List.length_cons]
      dsimp only
      omega
  case neg =>
    cases h
    dsimp only
    omega

theorem stars_error (h : stars atStart position cs = .error fault) :
    fault.position < position + 1 + cs.length := by
  have hs : (cs.takeWhile (· = '*')).length + (cs.dropWhile (· = '*')).length = cs.length := by
    rw [← List.length_append, List.takeWhile_append_dropWhile]
  unfold stars at h
  dsimp only at h
  split at h
  case h_1 => contradiction
  case h_2 hn =>
    cases hd : directories atStart position (cs.dropWhile (· = '*'))
    case ok => rw [hd] at h; contradiction
    case error =>
      rw [hd] at h
      cases h
      have := directories_error hd
      omega
  case h_3 hz ho =>
    cases h
    have : 1 < (cs.takeWhile (· = '*')).length := Nat.one_lt_iff_ne_zero_and_ne_one.mpr ⟨hz, ho⟩
    dsimp only
    omega

theorem piece_error (h : piece atStart position c cs = .error fault) :
    fault.position < position + 1 + cs.length := by
  unfold piece at h
  split at h
  case h_1 => contradiction
  case h_2 => exact stars_error h
  case h_3 =>
    cases hc : charClass? cs
    case none =>
      rw [hc] at h
      cases h
      dsimp only
      omega
    case some => rw [hc] at h; contradiction
  case h_4 => contradiction

theorem readWithin_error (hl : cs.length ≤ length)
    (h : readWithin length atStart fuel cs = .error fault) : fault.position < length := by
  induction fuel generalizing atStart cs
  case zero => contradiction
  case succ fuel hi =>
    cases cs
    case nil => contradiction
    case cons c cs =>
      rw [List.length_cons] at hl
      rw [readWithin_cons] at h
      cases hp : piece atStart (length - (cs.length + 1)) c cs
      case error =>
        rw [hp] at h
        cases h
        have := piece_error hp
        omega
      case ok r =>
        rw [hp] at h
        have hr := piece_rest hp
        cases ht : readWithin length (endsPart r.1) fuel r.2
        case error =>
          simp only [Except.bind, ht, Except.map] at h
          cases h
          exact hi (by omega) ht
        case ok => simp [Except.bind, ht, Except.map] at h

-- A fault tells of a character that is there.
theorem ofText_error {text : String} (h : ofText text = .error fault) :
    fault.position < text.length := by
  rw [← String.length_toList]
  exact readWithin_error (Nat.le_refl _) h

end Faults

end TypedRows.Glob
