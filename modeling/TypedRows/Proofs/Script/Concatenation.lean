import TypedRows.Proofs.Script.Reader

namespace TypedRows.Ddl

namespace ScriptStatement

def moved (lines : Nat) (s : ScriptStatement) : ScriptStatement :=
  { s with line := s.line + lines }

end ScriptStatement

namespace Script
namespace Reader

-- A reader that stands `lines` further down in a script, behind the statements of `earlier`.
def after (lines : Nat) (earlier : List ScriptStatement) (r : Reader) : Reader where
  place := r.place
  line := r.line + lines
  start := r.start.map (· + lines)
  text := r.text
  statements := r.statements.map (.moved lines) ++ earlier

variable {d : Dialect} {r : Reader} {lines : Nat} {earlier : List ScriptStatement}

theorem touch_after : (r.after lines earlier).touch = r.touch.after lines earlier := by
  cases h : r.start <;> simp [touch, after, h]

theorem settle_after : (r.after lines earlier).settle = r.settle.after lines earlier := by
  have hp : (r.after lines earlier).place = r.place := rfl
  unfold settle
  rw [hp]
  split
  case h_1 => rw [touch_after]; rfl
  case h_2 => exact touch_after
  case h_3 => rfl

theorem closed_after :
    (r.after lines earlier).closed = r.closed.map (.moved lines) ++ earlier := by
  cases h : r.start <;> simp [closed, after, h, ScriptStatement.moved]

theorem endStatement_after :
    (r.after lines earlier).endStatement = r.endStatement.after lines earlier := by
  unfold endStatement
  rw [closed_after]
  rfl

theorem atCode_after (c : Char) :
    (r.after lines earlier).atCode d c = (r.atCode d c).after lines earlier := by
  unfold atCode
  split_ifs
  case pos => exact endStatement_after
  case pos => rfl
  case pos => rfl
  case pos => rfl
  case pos => rw [touch_after]; rfl
  case pos => rfl
  case neg => rw [touch_after]; rfl

theorem settle_atCode_after (c : Char) :
    (r.after lines earlier).settle.atCode d c = (r.settle.atCode d c).after lines earlier := by
  rw [settle_after, atCode_after]

theorem atQuoted_after (q c : Char) :
    (r.after lines earlier).atQuoted q c = (r.atQuoted q c).after lines earlier := by
  unfold atQuoted
  split_ifs <;> rfl

theorem takeChar_after (c : Char) :
    (r.after lines earlier).takeChar d c = (r.takeChar d c).after lines earlier := by
  have hp : (r.after lines earlier).place = r.place := rfl
  cases h : r.place
  case code => rw [takeChar_code h, takeChar_code (hp.trans h), atCode_after]
  case hyphen =>
    rw [takeChar_hyphen h, takeChar_hyphen (hp.trans h), settle_atCode_after]
    split_ifs <;> rfl
  case slash =>
    rw [takeChar_slash h, takeChar_slash (hp.trans h), settle_atCode_after]
    split_ifs <;> rfl
  case quoted => rw [takeChar_quoted h, takeChar_quoted (hp.trans h), atQuoted_after]
  case escaped => rw [takeChar_escaped h, takeChar_escaped (hp.trans h)]; rfl
  case quoteSeen =>
    rw [takeChar_quoteSeen h, takeChar_quoteSeen (hp.trans h), atCode_after]
    split_ifs <;> rfl
  case lineComment =>
    rw [takeChar_lineComment h, takeChar_lineComment (hp.trans h)]
    split_ifs <;> rfl
  case blockComment => rw [takeChar_blockComment h, takeChar_blockComment (hp.trans h)]; rfl
  case starSeen => rw [takeChar_starSeen h, takeChar_starSeen (hp.trans h)]; rfl

theorem step_after (c : Char) :
    (r.after lines earlier).step d c = (r.step d c).after lines earlier := by
  unfold step
  rw [takeChar_after]
  split_ifs
  · simp [after, Nat.add_right_comm]
  · rfl

theorem run_after (cs : List Char) :
    (r.after lines earlier).run d cs = (r.run d cs).after lines earlier := by
  induction cs generalizing r
  case nil => rfl
  case cons c cs hi => rw [run_cons, run_cons, step_after, hi]

theorem finish_after :
    (r.after lines earlier).finish = earlier.reverse ++ r.finish.map (.moved lines) := by
  simp [finish, settle_after, closed_after]

theorem takeChar_semicolon (hq : r.QuotesOnly) (h : r.place.isOutside) :
    r.takeChar d ';' = r.settle.endStatement := by
  cases hp : r.place <;> simp only [hp, Place.isOutside, Bool.false_eq_true] at h
  case code => simp [takeChar_code hp, atCode, settle, hp]
  case hyphen => simp [takeChar_hyphen hp, atCode]
  case slash => simp [takeChar_slash hp, atCode]
  case quoteSeen q =>
    have hi : isQuote q := hq q (by simp [hp, Place.quote?])
    have hne : ';' ≠ q := by rintro rfl; simp [isQuote] at hi
    simp [takeChar_quoteSeen hp, hne, atCode, settle, hp]

-- Outside quotes and comments a semicolon leaves nothing behind but lines and statements.
theorem step_semicolon {lines : Nat} (hq : r.QuotesOnly) (h : r.place.isOutside)
    (hl : r.line = 1 + lines) : r.step d ';' = ({} : Reader).after lines r.settle.closed := by
  have hs : r.step d ';' = r.takeChar d ';' := by simp [step]
  rw [hs, takeChar_semicolon hq h]
  simp [endStatement, after, hl]

end Reader

theorem statementsOf_append_semicolon {d : Dialect} {a : List Char}
    (h : (Reader.run d {} a).place.isOutside) (b : List Char) :
    statementsOf d (a ++ ';' :: b) =
      statementsOf d a ++ (statementsOf d b).map (.moved (a.count '\n')) := by
  have hq : (Reader.run d {} a).QuotesOnly := by
    apply Reader.run_quotesOnly
    simp [Reader.QuotesOnly, Place.quote?]
  have hl : (Reader.run d {} a).line = 1 + a.count '\n' := Reader.run_line a
  calc
    statementsOf d (a ++ ';' :: b)
    _ = ((Reader.run d {} a).step d ';' |>.run d b).finish := by
      rw [statementsOf, Reader.run_append]; rfl
    _ = (({} : Reader).run d b |>.after (a.count '\n') (Reader.run d {} a).settle.closed).finish := by
      rw [Reader.step_semicolon hq h hl, Reader.run_after]
    _ = statementsOf d a ++ (statementsOf d b).map (.moved (a.count '\n')) :=
      Reader.finish_after ..

-- Scripts can be cut at any semicolon that stands outside quotes and comments.
theorem statements_append_semicolon (d : Dialect) (a b : String)
    (h : (Reader.run d {} a.toList).place.isOutside) :
    statements d (a ++ ";" ++ b) =
      statements d a ++ (statements d b).map (.moved (a.toList.count '\n')) := by
  have ht : (a ++ ";" ++ b).toList = a.toList ++ ';' :: b.toList := by simp
  rw [statements, ht]
  exact statementsOf_append_semicolon h b.toList

-- Quotes, comments and hyphens of the first script leave nothing open for the second one.
theorem statements_append_semicolon_mysql :
    (Reader.run .mysql {} "A ';\n' # ;\n-".toList).place.isOutside ∧
      statements .mysql ("A ';\n' # ;\n-" ++ ";" ++ "/*;*/\nB") =
        statements .mysql "A ';\n' # ;\n-" ++ [ScriptStatement.mk "/*;*/\nB" 4] := by
  have h : (Reader.run .mysql {} "A ';\n' # ;\n-".toList).place.isOutside := by decide
  have hb : (statements .mysql "/*;*/\nB").map (ScriptStatement.moved 2) =
      [ScriptStatement.mk "/*;*/\nB" 4] := by decide
  exact ⟨h, hb ▸ statements_append_semicolon .mysql _ _ h⟩

end Script
end TypedRows.Ddl
