import Mathlib.Tactic.SplitIfs
import TypedRows.Ddl.Script

namespace TypedRows.Ddl.Script

namespace Reader

variable {d : Dialect} {r : Reader}

section Places

theorem takeChar_code (h : r.place = .code) (c : Char) : r.takeChar d c = r.atCode d c := by
  simp only [takeChar, h]

theorem takeChar_hyphen (h : r.place = .hyphen) (c : Char) :
    r.takeChar d c =
      if c = '-' then { r with place := .lineComment } else r.settle.atCode d c := by
  simp only [takeChar, h]

theorem takeChar_slash (h : r.place = .slash) (c : Char) :
    r.takeChar d c = if c = '*' then r.keep c .blockComment else r.settle.atCode d c := by
  simp only [takeChar, h]

theorem takeChar_quoted {q : Char} (h : r.place = .quoted q) (c : Char) :
    r.takeChar d c = r.atQuoted q c := by
  simp only [takeChar, h]

theorem takeChar_escaped (h : r.place = .escaped) (c : Char) :
    r.takeChar d c = r.keep c (.quoted '\x27') := by
  simp only [takeChar, h]

theorem takeChar_quoteSeen {q : Char} (h : r.place = .quoteSeen q) (c : Char) :
    r.takeChar d c = if c = q then r.keep c (.quoted q) else r.atCode d c := by
  simp only [takeChar, h]

theorem takeChar_lineComment (h : r.place = .lineComment) (c : Char) :
    r.takeChar d c = if c = '\n' then r.keep c .code else r := by
  simp only [takeChar, h]

theorem takeChar_blockComment (h : r.place = .blockComment) (c : Char) :
    r.takeChar d c = r.keep c (if c = '*' then .starSeen else .blockComment) := by
  simp only [takeChar, h]

theorem takeChar_starSeen (h : r.place = .starSeen) (c : Char) :
    r.takeChar d c =
      r.keep c (if c = '/' then .code else if c = '*' then .starSeen else .blockComment) := by
  simp only [takeChar, h]

end Places

section Lines

@[simp]
theorem touch_line : r.touch.line = r.line := rfl

@[simp]
theorem keep_line (c : Char) (p : Place) : (r.keep c p).line = r.line := rfl

@[simp]
theorem endStatement_line : r.endStatement.line = r.line := rfl

@[simp]
theorem settle_line : r.settle.line = r.line := by
  unfold settle
  split <;> rfl

@[simp]
theorem atCode_line (c : Char) : (r.atCode d c).line = r.line := by
  unfold atCode
  split_ifs <;> simp

@[simp]
theorem atQuoted_line (q c : Char) : (r.atQuoted q c).line = r.line := by
  unfold atQuoted
  split_ifs <;> rfl

@[simp]
theorem takeChar_line (c : Char) : (r.takeChar d c).line = r.line := by
  cases h : r.place
  case code => simp [takeChar_code h]
  case hyphen => rw [takeChar_hyphen h]; split_ifs <;> simp
  case slash => rw [takeChar_slash h]; split_ifs <;> simp
  case quoted => simp [takeChar_quoted h]
  case escaped => simp [takeChar_escaped h]
  case quoteSeen => rw [takeChar_quoteSeen h]; split_ifs <;> simp
  case lineComment => rw [takeChar_lineComment h]; split_ifs <;> simp
  case blockComment => simp [takeChar_blockComment h]
  case starSeen => simp [takeChar_starSeen h]

-- No branch of the reader loses a line break, not even one after a backslash.
theorem step_line (c : Char) : (r.step d c).line = r.line + [c].count '\n' := by
  unfold step
  split_ifs with h
  case pos => simp [h]
  case neg => simp [h]

theorem run_nil : r.run d [] = r := rfl

theorem run_cons (c : Char) (cs : List Char) : r.run d (c :: cs) = (r.step d c).run d cs := rfl

theorem run_append (a b : List Char) : r.run d (a ++ b) = (r.run d a).run d b :=
  List.foldl_append

theorem run_line (cs : List Char) : (r.run d cs).line = r.line + cs.count '\n' := by
  induction cs generalizing r
  case nil => rfl
  case cons c cs hi =>
    have hc : (c :: cs).count '\n' = [c].count '\n' + cs.count '\n' := by
      rw [← List.singleton_append, List.count_append]
    rw [run_cons, hi, step_line, hc, Nat.add_assoc]

end Lines

end Reader

-- The quote that has to close the text in which the reader stands.
def Place.quote? : Place → Option Char
  | quoted q | quoteSeen q => some q
  | escaped => some '\x27'
  | code | hyphen | slash | lineComment | blockComment | starSeen => none

namespace Reader

variable {d : Dialect} {r : Reader}

section Quotes

-- Only quotes open quoted texts. This is what keeps a semicolon from closing one.
def QuotesOnly (r : Reader) : Prop :=
  ∀ q, r.place.quote? = some q → isQuote q

theorem atCode_quotesOnly (c : Char) : (r.atCode d c).QuotesOnly := by
  unfold atCode QuotesOnly
  split_ifs <;> simp_all [endStatement, keep, touch, Place.quote?]

theorem atQuoted_quotesOnly {q : Char} (h : isQuote q) (c : Char) :
    (r.atQuoted q c).QuotesOnly := by
  unfold atQuoted QuotesOnly
  split_ifs <;> simp_all [keep, Place.quote?]

theorem takeChar_quotesOnly (h : r.QuotesOnly) (c : Char) : (r.takeChar d c).QuotesOnly := by
  cases hp : r.place
  case code => exact takeChar_code hp c ▸ atCode_quotesOnly c
  case hyphen =>
    rw [takeChar_hyphen hp]
    split_ifs
    · simp [QuotesOnly, Place.quote?]
    · exact atCode_quotesOnly c
  case slash =>
    rw [takeChar_slash hp]
    split_ifs
    · simp [QuotesOnly, keep, Place.quote?]
    · exact atCode_quotesOnly c
  case quoted q =>
    have hq : isQuote q := h q (by simp [hp, Place.quote?])
    exact takeChar_quoted hp c ▸ atQuoted_quotesOnly hq c
  case escaped =>
    rw [takeChar_escaped hp]
    simp [QuotesOnly, keep, Place.quote?, isQuote]
  case quoteSeen q =>
    have hq : isQuote q := h q (by simp [hp, Place.quote?])
    rw [takeChar_quoteSeen hp]
    split_ifs
    · simp [QuotesOnly, keep, Place.quote?, hq]
    · exact atCode_quotesOnly c
  case lineComment =>
    rw [takeChar_lineComment hp]
    split_ifs
    · simp [QuotesOnly, keep, Place.quote?]
    · exact h
  case blockComment =>
    rw [takeChar_blockComment hp]
    split_ifs <;> simp [QuotesOnly, keep, Place.quote?]
  case starSeen =>
    rw [takeChar_starSeen hp]
    split_ifs <;> simp [QuotesOnly, keep, Place.quote?]

theorem step_quotesOnly (h : r.QuotesOnly) (c : Char) : (r.step d c).QuotesOnly := by
  have ht : (r.takeChar d c).QuotesOnly := takeChar_quotesOnly h c
  unfold step
  split_ifs <;> exact ht

theorem run_quotesOnly (h : r.QuotesOnly) (cs : List Char) : (r.run d cs).QuotesOnly := by
  induction cs generalizing r
  case nil => exact h
  case cons c cs hi => exact hi (step_quotesOnly h c)

end Quotes

end Reader
end TypedRows.Ddl.Script
