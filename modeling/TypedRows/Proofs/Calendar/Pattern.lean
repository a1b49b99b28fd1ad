import Mathlib.Data.List.Infix
import Mathlib.Data.List.TakeWhile
import Mathlib.Tactic.SplitIfs
import TypedRows.Calendar.Pattern

namespace TypedRows.Calendar

open Text Item Pattern

-- A text and what is left of it behind characters of a class.
inductive Passes (p : Char → Bool) : List Char → List Char → Prop
  | done {cs : List Char} : Passes p cs cs
  | pass {c : Char} {cs rest : List Char} (hc : p c) (h : Passes p cs rest) :
    Passes p (c :: cs) rest

namespace Passes

variable {p q : Char → Bool} {cs mid rest : List Char}

theorem trans (h : Passes p cs mid) (h' : Passes p mid rest) : Passes p cs rest := by
  induction h
  case done => exact h'
  case pass hc _ hi => exact .pass hc (hi h')

theorem mono (hp : ∀ c, p c → q c) (h : Passes p cs rest) : Passes q cs rest := by
  induction h
  case done => exact .done
  case pass hc _ hi => exact .pass (hp _ hc) hi

theorem suffix (h : Passes p cs rest) : rest <:+ cs := by
  induction h
  case done => exact List.suffix_refl _
  case pass hi => exact hi.trans (List.suffix_cons _ _)

theorem forall_mem (h : Passes p cs []) : ∀ c ∈ cs, p c := by
  generalize hr : ([] : List Char) = rest at h
  induction h
  case done => simp [← hr]
  case pass hc _ hi => exact List.forall_mem_cons.mpr ⟨hc, hi hr⟩

theorem dropWhile (p : Char → Bool) (cs : List Char) : Passes p cs (cs.dropWhile p) := by
  induction cs
  case nil => exact .done
  case cons c cs hi =>
    rw [List.dropWhile_cons]
    split_ifs with hc
    case pos => exact .pass hc hi
    case neg => exact .done

theorem drop {n : Nat} (h : ∀ c ∈ cs.take n, p c) : Passes p cs (cs.drop n) := by
  induction n generalizing cs
  case zero => exact .done
  case succ n hi =>
    cases cs
    case nil => exact .done
    case cons c cs =>
      have ⟨hc, hcs⟩ := List.forall_mem_cons.mp h
      exact .pass hc (hi hcs)

end Passes

-- What an item can take from a text.
def Item.takes (item : Item) (c : Char) : Bool :=
  match item with
  | loose part => isBlank c || c.isDigit || (part = .year && (c = '+' || c = '-'))
  | exact _ => c.isDigit
  | oneOf marks => marks.contains c
  | blanks => isBlank c
  | fraction => c = '.' || c.isDigit
  | zone => c.isDigit || ['Z', 'z', '+', '-', '\u2212', ':'].contains c

variable {r : Reading} {x : Reading × List Char} {p items : Pattern} {item : Item} {c : Char}
  {cs rest : List Char}

section Characters

variable {part : Part} {n width : Nat}

theorem Item.takes_digit (h : c.isDigit) :
    (∀ part, (Item.loose part).takes c) ∧ Item.fraction.takes c ∧ Item.zone.takes c := by
  simp [takes, h]

theorem digits?_passes (h : digits? cs = some (n, rest)) : Passes Char.isDigit cs rest := by
  unfold digits? at h
  split at h
  case h_1 => contradiction
  case h_2 =>
    obtain ⟨_, rfl⟩ := Prod.mk.inj (Option.some.inj h)
    exact .dropWhile _ _

theorem atMost?_passes (h : atMost? width cs = some (n, rest)) : Passes Char.isDigit cs rest := by
  unfold atMost? at h
  split at h
  case h_1 => contradiction
  case h_2 =>
    obtain ⟨_, rfl⟩ := Prod.mk.inj (Option.some.inj h)
    have hp : (cs.take width).takeWhile Char.isDigit <+: cs :=
      (List.takeWhile_prefix _).trans (List.take_prefix _ _)
    apply Passes.drop
    rw [← List.prefix_iff_eq_take.mp hp]
    exact fun c hc => List.mem_takeWhile_imp hc

theorem exactly?_passes (h : exactly? width cs = some (n, rest)) : Passes Char.isDigit cs rest := by
  unfold exactly? at h
  dsimp only at h
  split_ifs at h with hd
  obtain ⟨_, rfl⟩ := Prod.mk.inj (Option.some.inj h)
  exact .drop (List.all_eq_true.mp (Bool.and_eq_true_iff.mp hd).2)

theorem setPart?_rest (h : setPart? r part (n, rest) = some x) : x.2 = rest := by
  rw [setPart?] at h
  split_ifs at h
  rw [← Option.some.inj h]

theorem loose?_passes (h : loose? r part cs = some x) : Passes (Item.loose part).takes cs x.2 := by
  unfold loose? at h
  split at h
  case h_1 =>
    obtain ⟨⟨n, rest⟩, hn, rfl⟩ := Option.map_eq_some_iff.mp h
    exact .pass rfl ((digits?_passes hn).mono fun _ h => (takes_digit h).1 _)
  case h_2 =>
    obtain ⟨⟨n, rest⟩, hn, rfl⟩ := Option.map_eq_some_iff.mp h
    exact .pass rfl ((digits?_passes hn).mono fun _ h => (takes_digit h).1 _)
  case h_3 =>
    obtain ⟨⟨n, rest⟩, hn, hs⟩ := Option.bind_eq_some_iff.mp h
    exact setPart?_rest hs ▸ (atMost?_passes hn).mono fun _ h => (takes_digit h).1 _

theorem fraction?_passes (h : fraction? cs = some rest) : Passes Item.fraction.takes cs rest := by
  unfold fraction? at h
  split at h
  case h_1 =>
    obtain ⟨⟨n, rest⟩, hn, rfl⟩ := Option.map_eq_some_iff.mp h
    exact .pass rfl ((digits?_passes hn).mono fun _ h => (takes_digit h).2.1)
  case h_2 => exact Option.some.inj h ▸ .done

theorem zone?_passes (h : zone? cs = some rest) : Passes Item.zone.takes cs rest := by
  unfold zone? at h
  split at h
  case h_1 => contradiction
  case h_2 c cs =>
    split_ifs at h with hz hs
    case pos =>
      simp only [Bool.or_eq_true, decide_eq_true_eq] at hz
      have hc : Item.zone.takes c := by rcases hz with rfl | rfl <;> rfl
      exact Option.some.inj h ▸ .pass hc .done
    case pos =>
      simp only [Bool.or_eq_true, decide_eq_true_eq] at hs
      have hc : Item.zone.takes c := by rcases hs with (rfl | rfl) | rfl <;> rfl
      split at h
      case h_1 hours cs hh =>
        split at h
        case h_1 minutes rest hm =>
          split_ifs at h
          obtain rfl := Option.some.inj h
          have hr : Passes Item.zone.takes (':' :: cs) rest :=
            .pass rfl ((exactly?_passes hm).mono fun _ h => (takes_digit h).2.2)
          exact .pass hc (((exactly?_passes hh).mono fun _ h => (takes_digit h).2.2).trans hr)
        case h_2 => contradiction
      case h_2 => contradiction

-- An item takes nothing but what is its own.
theorem Item.read?_passes (h : item.read? r cs = some x) : Passes item.takes cs x.2 := by
  unfold Item.read? at h
  split at h
  case h_1 part =>
    have hb : ∀ c, isBlank c → (Item.loose part).takes c := by simp +contextual [takes]
    exact ((Passes.dropWhile isBlank cs).mono hb).trans (loose?_passes h)
  case h_2 =>
    obtain ⟨⟨n, rest⟩, hn, hs⟩ := Option.bind_eq_some_iff.mp h
    exact setPart?_rest hs ▸ exactly?_passes hn
  case h_3 =>
    split at h
    case h_1 =>
      split_ifs at h with hc
      obtain rfl := Option.some.inj h
      exact .pass hc .done
    case h_2 => contradiction
  case h_4 =>
    obtain rfl := Option.some.inj h
    exact .dropWhile _ _
  case h_5 =>
    obtain ⟨rest, hf, rfl⟩ := Option.map_eq_some_iff.mp h
    exact fraction?_passes hf
  case h_6 =>
    obtain ⟨rest, hz, rfl⟩ := Option.map_eq_some_iff.mp h
    exact zone?_passes hz

theorem Pattern.read?_passes (h : p.read? r cs = some x) :
    Passes (fun c => p.any (·.takes c)) cs x.2 := by
  induction p generalizing r cs
  case nil =>
    rw [Pattern.read?] at h
    exact Option.some.inj h ▸ .done
  case cons item items hi =>
    rw [Pattern.read?] at h
    split at h
    case h_1 => contradiction
    case h_2 r rest hr =>
      have ht : Passes item.takes cs rest := Item.read?_passes hr
      exact (ht.mono (by simp +contextual)).trans ((hi h).mono (by simp +contextual))

-- A mark that a pattern asks for stands in every text that it reads.
theorem Pattern.mark_mem (hm : .oneOf [c] ∈ p) (h : p.read? r cs = some x) : c ∈ cs := by
  induction p generalizing r cs
  case nil => contradiction
  case cons item items hi =>
    rw [Pattern.read?] at h
    split at h
    case h_1 => contradiction
    case h_2 r rest hr =>
      rcases List.mem_cons.mp hm with rfl | hm
      case inl =>
        unfold Item.read? at hr
        dsimp only at hr
        split at hr
        case h_1 d rest =>
          split_ifs at hr with hd
          have hd : d = c := by simpa using hd
          exact hd ▸ List.mem_cons_self
        case h_2 => contradiction
      case inr => exact (Item.read?_passes hr).suffix.subset (hi hm h)

theorem Pattern.exists_read? (h : p.admits cs) : ∃ r, p.read? {} cs = some (r, []) := by
  unfold Pattern.admits at h
  split at h
  case h_1 r hr => exact ⟨r, hr⟩
  case h_2 => contradiction

end Characters

section Year

theorem drop_suffix_tail {n : Nat} (h : 0 < n) (cs : List Char) : cs.drop n <:+ cs.tail := by
  obtain ⟨m, rfl⟩ := Nat.exists_eq_add_of_lt h
  rw [Nat.zero_add, ← List.drop_one, Nat.add_comm, ← List.drop_drop]
  exact List.drop_suffix _ _

theorem trimStart_tail_suffix (cs : List Char) : (trimStart cs).tail <:+ cs.tail := by
  cases cs
  case nil => exact List.suffix_refl _
  case cons c cs =>
    rw [trimStart, List.dropWhile_cons]
    split_ifs
    case pos => exact (List.tail_suffix _).trans (List.dropWhile_suffix _)
    case neg => exact List.suffix_refl _

theorem loose?_year_suffix (h : loose? r .year cs = some x) : x.2 <:+ cs.tail := by
  unfold loose? at h
  split at h
  case h_1 =>
    obtain ⟨⟨n, rest⟩, hd, rfl⟩ := Option.map_eq_some_iff.mp h
    exact (digits?_passes hd).suffix
  case h_2 =>
    obtain ⟨⟨n, rest⟩, hd, rfl⟩ := Option.map_eq_some_iff.mp h
    exact (digits?_passes hd).suffix
  case h_3 =>
    obtain ⟨⟨n, rest⟩, hd, hs⟩ := Option.bind_eq_some_iff.mp h
    rw [setPart?_rest hs]
    unfold atMost? at hd
    split at hd
    case h_1 => contradiction
    case h_2 hn =>
      obtain ⟨_, rfl⟩ := Prod.mk.inj (Option.some.inj hd)
      exact drop_suffix_tail (List.length_pos_iff.mpr hn) _

-- A year takes a character at least.
theorem year_suffix (hi : item = .loose .year ∨ item = .exact .year)
    (h : item.read? r cs = some x) : x.2 <:+ cs.tail := by
  rcases hi with rfl | rfl
  case inl => exact (loose?_year_suffix h).trans (trimStart_tail_suffix cs)
  case inr =>
    obtain ⟨⟨n, rest⟩, hd, hs⟩ := Option.bind_eq_some_iff.mp h
    rw [setPart?_rest hs]
    unfold exactly? at hd
    dsimp only at hd
    split_ifs at hd
    obtain ⟨_, rfl⟩ := Prod.mk.inj (Option.some.inj hd)
    exact drop_suffix_tail (by decide) cs

-- What parts the year from the month stands behind the first character.
theorem mark_mem_tail (hi : item = .loose .year ∨ item = .exact .year)
    (h : Pattern.read? r cs (item :: .oneOf [c] :: items) = some x) : c ∈ cs.tail := by
  rw [Pattern.read?] at h
  split at h
  case h_1 => contradiction
  case h_2 hy => exact (year_suffix hi hy).subset (Pattern.mark_mem List.mem_cons_self h)

theorem exists_year_mark {p : Pattern} (h : p ∈ dates ++ dateTimes) :
    ∃ item c items, p = item :: .oneOf [c] :: items ∧ (item = .loose .year ∨ item = .exact .year) ∧
      (c = '-' ∨ c = '/') := by
  simp only [dates, dateTimes, date, timeStamp, List.cons_append, List.nil_append, List.mem_cons,
    List.not_mem_nil, or_false] at h
  rcases h with rfl | rfl | rfl | rfl | rfl | rfl | rfl | rfl <;>
    exact ⟨_, _, _, rfl, by simp, by simp⟩

theorem exists_mark (h : isDateText cs ∨ isDateTimeText cs) : ∃ c ∈ cs.tail, c = '-' ∨ c = '/' := by
  have hp : ∃ p ∈ dates ++ dateTimes, p.admits cs := by
    simp only [isDateText, isDateTimeText, List.any_eq_true] at h
    rcases h with ⟨p, hp, ha⟩ | ⟨p, hp, ha⟩
    case inl => exact ⟨p, List.mem_append_left _ hp, ha⟩
    case inr => exact ⟨p, List.mem_append_right _ hp, ha⟩
  obtain ⟨p, hp, ha⟩ := hp
  obtain ⟨item, c, items, rfl, hi, hc⟩ := exists_year_mark hp
  obtain ⟨r, hr⟩ := Pattern.exists_read? ha
  exact ⟨c, mark_mem_tail hi hr, hc⟩

end Year

section Colon

theorem colon_not_mem (h : isDateText cs) : ':' ∉ cs := by
  intro hm
  obtain ⟨p, hp, ha⟩ := List.any_eq_true.mp h
  have hc : p.any (·.takes ':') = false := by
    simp only [dates, List.mem_cons, List.not_mem_nil, or_false] at hp
    rcases hp with rfl | rfl <;> decide
  obtain ⟨r, hr⟩ := Pattern.exists_read? ha
  exact Bool.eq_false_iff.mp hc ((Pattern.read?_passes hr).forall_mem ':' hm)

theorem colon_mem (h : isDateTimeText cs) : ':' ∈ cs := by
  obtain ⟨p, hp, ha⟩ := List.any_eq_true.mp h
  have hc : .oneOf [':'] ∈ p := by
    simp only [dateTimes, List.mem_cons, List.not_mem_nil, or_false] at hp
    rcases hp with rfl | rfl | rfl | rfl | rfl | rfl <;> decide
  obtain ⟨r, hr⟩ := Pattern.exists_read? ha
  exact Pattern.mark_mem hc hr

-- No text is both, however loosely its parts are written.
theorem not_isDateTimeText (h : isDateText cs) : ¬isDateTimeText cs :=
  fun ht => colon_not_mem h (colon_mem ht)

example : isDateText "+2024- 2-29".toList ∧ isDateTimeText "2024-2-2923:59".toList := by
  decide +kernel

end Colon

end TypedRows.Calendar
