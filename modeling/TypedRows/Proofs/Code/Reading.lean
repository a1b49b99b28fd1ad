import TypedRows.Layout.Basic
import TypedRows.Proofs.Code.Lexicon
import TypedRows.Proofs.Naming.Identifier
import TypedRows.Proofs.Text.Escape

namespace TypedRows

namespace Code

open Text Identifier

namespace Lexicon

-- From the place `p` a text gives these tokens and leads to the place `q`.
def Reads (x : Lexicon) (p : Place) (s : String) (ts : List Token) (q : Place) : Prop :=
  scan x.step p s.toList = (ts, q)

instance (x : Lexicon) (p q : Place) (s : String) (ts : List Token) :
    Decidable (x.Reads p s ts q) :=
  inferInstanceAs (Decidable (_ = _))

-- A text of whole tokens. If it ends with a word, the word lasts until something else follows.
inductive Spells (x : Lexicon) (s : String) : List Token → Prop
  | code {ts : List Token} (h : x.Reads .code s ts .code) : Spells x s ts
  | word {ts : List Token} {cs : List Char} (h : x.Reads .code s ts (.word cs)) :
    Spells x s (ts ++ [.word (String.ofList cs)])

-- Whether a text ends every word before it.
def startsApart (x : Lexicon) (s : String) : Bool :=
  match s.toList with
  | [] => false
  | c :: _ => !x.isWordChar c && c != '#'

variable {x : Lexicon} {p q r : Place} {a b n s : String} {ts us vs : List Token}

-- Texts that are known are read character by character.
theorem Reads.fixed {cs : List Char} (h : scan x.step p cs = (ts, q)) :
    x.Reads p (String.ofList cs) ts q := by
  rwa [Reads, String.toList_ofList]

theorem startsApart_fixed {c : Char} {cs : List Char} (h : !x.isWordChar c && c != '#') :
    x.startsApart (String.ofList (c :: cs)) := by
  rwa [startsApart, String.toList_ofList]

theorem Reads.append (ha : x.Reads p a ts q) (hb : x.Reads q b us r) :
    x.Reads p (a ++ b) (ts ++ us) r := by
  rw [Reads, String.toList_append]
  exact scan_append ha hb

theorem Reads.after_word {cs : List Char} (h : x.Reads .code s ts q) (hs : x.startsApart s) :
    x.Reads (.word cs) s (.word (String.ofList cs) :: ts) q := by
  unfold startsApart at hs
  unfold Reads at h ⊢
  cases hc : s.toList
  case nil => rw [hc] at hs; contradiction
  case cons c rest =>
    rw [hc] at h hs
    have hn : x.continuesWord cs c = false := by
      simp only [Bool.and_eq_true, Bool.not_eq_true', bne_iff_ne, ne_eq] at hs
      simp [continuesWord, hs]
    have hr : x.step (.word cs) c =
        (.word (String.ofList cs) :: (x.codeStep c).1, (x.codeStep c).2) := by
      simp [step, hn, resume, Place.tokens]
    obtain ⟨rfl, hq⟩ := Prod.mk.inj h
    exact scan_cons hr (Prod.ext rfl hq)

theorem Spells.followed (hn : x.Spells n us) (hb : x.Reads .code b vs q) (h : x.startsApart b) :
    x.Reads .code (n ++ b) (us ++ vs) q := by
  cases hn
  case code hn => exact hn.append hb
  case word ts cs hn =>
    rw [List.append_assoc]
    exact hn.append (hb.after_word h)

theorem Reads.around (ha : x.Reads p a ts .code) (hn : x.Spells n us) (hb : x.Reads .code b vs q)
    (h : x.startsApart b) : x.Reads p (a ++ n ++ b) (ts ++ us ++ vs) q := by
  rw [String.append_assoc, List.append_assoc]
  exact ha.append (hn.followed hb h)

theorem Reads.ending (ha : x.Reads .code a ts .code) (hn : x.Spells n us) :
    x.Spells (a ++ n) (ts ++ us) := by
  cases hn
  case code hn => exact .code (ha.append hn)
  case word hn => rw [← List.append_assoc]; exact .word (ha.append hn)

section Words

theorem isWordChar_of_isWordChar {c : Char} (h : Identifier.isWordChar c) : x.isWordChar c := by
  have hc : c.toNat < 128 := toNat_lt_of_isWordChar h
  rcases Bool.or_eq_true_iff.mp h with h | h
  case inl =>
    simp_all [Lexicon.isWordChar, isAlphanumeric, isAlphabetic, isNumeric, Char.isAlphanum]
  case inr =>
    have hu : c = '_' := by simpa using h
    simp [Lexicon.isWordChar, hu, x.underscore_mem]

-- `cs` is the part of the word that was met before.
theorem scan_word (cs : List Char) {rest : List Char}
    (h : ∀ c ∈ rest, Identifier.isWordChar c) :
    scan x.step (.word cs) rest = ([], .word (cs ++ rest)) := by
  induction rest generalizing cs
  case nil => rw [List.append_nil]; rfl
  case cons c rest hi =>
    have ⟨hc, hr⟩ := List.forall_mem_cons.mp h
    have hs : x.step (.word cs) c = ([], .word (cs ++ [c])) := by
      simp [step, continuesWord, isWordChar_of_isWordChar hc]
    rw [scan_cons hs (hi (cs ++ [c]) hr)]
    simp

theorem Spells.of_rawWord (hx : x.rawWords) (h : ∀ c ∈ s.toList, Identifier.isWordChar c) :
    x.Spells ("r#" ++ s) [.word ("r#" ++ s)] := by
  have hr : x.Reads .code ("r#" ++ s) [] (.word ("r#" ++ s).toList) := by
    unfold Reads
    have hs : x.step .code 'r' = ([], .word ['r']) := by
      simp [step, codeStep, isWordChar_of_isWordChar (c := 'r') rfl]
    have hh : x.step (.word ['r']) '#' = ([], .word ['r', '#']) := by
      simp [step, continuesWord, hx]
    rw [String.toList_append]
    exact scan_cons hs (scan_cons hh (scan_word ['r', '#'] h))
  simpa only [List.nil_append, String.ofList_toList] using Spells.word hr

end Words

theorem scan_raw {quote : Char} {cs : List Char} (h : quote ∉ cs) (text : List Char) :
    scan x.step (.raw quote text) cs = ([], .raw quote (text ++ cs)) := by
  induction cs generalizing text
  case nil => rw [List.append_nil]; rfl
  case cons c cs hi =>
    simp only [List.mem_cons, not_or] at h
    have hs : x.step (.raw quote text) c = ([], .raw quote (text ++ [c])) := by
      simp [step, Ne.symm h.1]
    rw [scan_cons hs (hi h.2 _)]
    simp

section Comments

-- A text that is all comment once a line comment has begun before it.
def Keeps (x : Lexicon) (s : String) : Prop :=
  (∀ c ∈ s.toList, c ∉ x.lineEnds) ∧ (x.tagged → ¬['?', '>'] <:+: s.toList)

theorem scan_lineComment {cs : List Char} {question : Bool} (he : ∀ c ∈ cs, c ∉ x.lineEnds)
    (hq : x.tagged → ¬['?', '>'] <:+: cs) (hp : x.tagged → question → cs.head? ≠ some '>') :
    ∃ after, scan x.step (.lineComment question) cs = ([], .lineComment after) := by
  induction cs generalizing question
  case nil => exact ⟨question, rfl⟩
  case cons c cs hi =>
    have ⟨hc, hcs⟩ := List.forall_mem_cons.mp he
    have hn : (x.tagged && question && c = '>') = false := by
      cases ht : x.tagged
      case false => rfl
      case true =>
        cases question
        case false => rfl
        case true => simpa using hp ht rfl
    have hs : x.step (.lineComment question) c = ([], .lineComment (c = '?')) := by
      simp [step, hc, hn]
    have hr : x.tagged → (decide (c = '?')) → cs.head? ≠ some '>' := by
      intro ht hc hh
      exact hq ht (Escape.pair_prefix_cons.mpr ⟨(of_decide_eq_true hc).symm, hh⟩).isInfix
    have ⟨after, ha⟩ := hi hcs (fun ht h => hq ht (List.infix_cons h)) hr
    exact ⟨after, scan_cons hs ha⟩

theorem Keeps.reads (h : x.Keeps s) :
    ∃ question, x.Reads (.lineComment false) s [] (.lineComment question) :=
  scan_lineComment h.1 h.2 (by simp)

theorem scan_blockComment {cs : List Char} {star : Bool} (hc : ¬['*', '/'] <:+: cs)
    (hs : star → cs.head? ≠ some '/') :
    ∃ after, scan x.step (.blockComment star) cs = ([], .blockComment after) := by
  induction cs generalizing star
  case nil => exact ⟨star, rfl⟩
  case cons c cs hi =>
    have hn : (star && c = '/') = false := by
      cases star
      case false => rfl
      case true => simpa using hs rfl
    have ht : x.step (.blockComment star) c = ([], .blockComment (c = '*')) := by simp [step, hn]
    have hr : (decide (c = '*')) → cs.head? ≠ some '/' := by
      intro hx hh
      exact hc (Escape.pair_prefix_cons.mpr ⟨(of_decide_eq_true hx).symm, hh⟩).isInfix
    have ⟨after, ha⟩ := hi (fun h => hc (List.infix_cons h)) hr
    exact ⟨after, scan_cons ht ha⟩

theorem reads_comment_in_block (s : String) :
    ∃ star, x.Reads (.blockComment false) (Escape.comment s) [] (.blockComment star) := by
  unfold Reads
  rw [Escape.comment, String.toList_ofList]
  exact scan_blockComment (Escape.not_close_guardClose _) (by simp)

end Comments
end Lexicon
end Code

open Code

theorem Identifier.IsWord.spells {x : Lexicon} {s : String} (h : IsWord s) :
    x.Spells s [.word s] := by
  have hr : x.Reads .code s [] (.word s.toList) := by
    unfold Lexicon.Reads
    cases hc : s.toList
    case nil => exact (h.ne_empty (String.toList_eq_nil_iff.mp hc)).elim
    case cons c rest =>
      have ⟨hw, hr⟩ := List.forall_mem_cons.mp (hc ▸ h.isWordChar)
      have hs : x.step .code c = ([], .word [c]) := by
        simp [Lexicon.step, Lexicon.codeStep, Lexicon.isWordChar_of_isWordChar hw]
      exact scan_cons hs (Lexicon.scan_word [c] hr)
  simpa only [List.nil_append, String.ofList_toList] using Lexicon.Spells.word hr

namespace Language

open Text

section Literals

variable {l : Language}

def quote : Language → Char
  | php => '\x27'
  | _ => '\x22'

def literalChar : Language → Char → List Char
  | php, c => if c = '\\' || c = '\x27' then ['\\', c] else [c]
  | _, c => Escape.quotedChar c

-- What stands in a literal for a text.
def spelled (l : Language) (value : String) : String :=
  String.ofList (value.toList.flatMap l.literalChar)

theorem literalChar_cases (l : Language) (c : Char) :
    (l.literalChar c = [c] ∧ c ≠ '\\' ∧ c ≠ l.quote) ∨ ∃ y, l.literalChar c = ['\\', y] := by
  have hq : (Escape.quotedChar c = [c] ∧ c ≠ '\\' ∧ c ≠ '\x22') ∨
      ∃ y, Escape.quotedChar c = ['\\', y] := by
    rcases Escape.quotedChar_cases c with ⟨hc, hx⟩ | ⟨_, y, _, hx, _⟩
    case inl =>
      simp only [List.mem_cons, not_or] at hc
      exact .inl ⟨hx, hc.1, hc.2.1⟩
    case inr => exact .inr ⟨y, hx⟩
  cases l
  case php =>
    simp only [literalChar]
    split_ifs with h
    case pos => exact .inr ⟨c, rfl⟩
    case neg => simp_all [quote]
  all_goals exact hq

theorem scan_spelled (l : Language) (text cs : List Char) :
    scan l.lexicon.step (.quoted l.quote text) (cs.flatMap l.literalChar) =
      ([], .quoted l.quote (text ++ cs.flatMap l.literalChar)) := by
  induction cs generalizing text
  case nil => rw [List.flatMap_nil, List.append_nil]; rfl
  case cons c cs hi =>
    have hc : scan l.lexicon.step (.quoted l.quote text) (l.literalChar c) =
        ([], .quoted l.quote (text ++ l.literalChar c)) := by
      rcases l.literalChar_cases c with ⟨hx, hb, hq⟩ | ⟨y, hx⟩
      case inl => simp [hx, scan, Lexicon.step, hb, hq]
      case inr => simp [hx, scan, Lexicon.step]
    rw [List.flatMap_cons, scan_append hc (hi _), List.append_assoc]
    rfl

theorem stringLiteral_eq_spelled (l : Language) (value : String) :
    (l.stringLiteral value).toList = l.quote :: (l.spelled value).toList ++ [l.quote] := by
  rw [stringLiteral, spelled, String.toList_ofList, String.toList_ofList]
  cases l <;> rfl

theorem reads_stringLiteral (l : Language) (value : String) :
    l.lexicon.Reads .code (l.stringLiteral value) [.literal (l.spelled value)] .code := by
  have ho : l.lexicon.step .code l.quote = ([], .quoted l.quote []) := by cases l <;> rfl
  have hc : scan l.lexicon.step (.quoted l.quote (l.spelled value).toList) [l.quote] =
      ([.literal (l.spelled value)], .code) := by
    have hq : l.quote ≠ '\\' := by cases l <;> decide
    simp [scan, Lexicon.step, hq]
  have hb : scan l.lexicon.step (.quoted l.quote []) (l.spelled value).toList =
      ([], .quoted l.quote (l.spelled value).toList) := by
    rw [spelled, String.toList_ofList]
    exact l.scan_spelled [] _
  rw [Lexicon.Reads, stringLiteral_eq_spelled, List.cons_append]
  exact scan_cons ho (scan_append hb hc)

end Literals

section Comments

-- What ends a line comment and needs no escape in a comment text.
def commentEnds : Language → List (List Char)
  | typescript => [['\u2028'], ['\u2029']]
  | php => [['?', '>']]
  | go | rust | python => []

-- A name that stays in the line comment that mentions it.
def KeepsComments (l : Language) (name : String) : Prop :=
  ∀ e ∈ l.commentEnds, ¬e <:+: name.toList

instance (l : Language) (name : String) : Decidable (l.KeepsComments name) :=
  inferInstanceAs (Decidable (∀ e ∈ l.commentEnds, ¬e <:+: name.toList))

end Comments
end Language
end TypedRows
