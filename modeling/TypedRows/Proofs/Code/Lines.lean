import TypedRows.Proofs.Annotation.Line
import TypedRows.Proofs.Code.Declaration

namespace TypedRows

open Code Code.Lexicon Identifier Text

namespace Layout

-- The tokens of lines of code.
def Lines.Spell (l : Language) (lines : Lines) (ts : List Token) : Prop :=
  l.lexicon.Reads .code lines.text ts .code

-- In the scope `s` the lines declare `ds`, and the scope after them is `s'`.
def Lines.Declare (l : Language) (s : Scope) (lines : Lines) (ds : List Declaration)
    (s' : Scope) : Prop :=
  ∃ ts, lines.Spell l ts ∧ scan (Scope.step l) s ts = (ds, s')

variable {l : Language} {s s' s'' : Scope} {ds es : List Declaration} {a b n : String}
  {ts us vs : List Token}

namespace Lines.Spell

theorem nil : Spell l [] [] :=
  rfl

theorem append {a b : Lines} (ha : Spell l a ts) (hb : Spell l b us) :
    Spell l (a ++ b) (ts ++ us) := by
  have hj : Lines.text (a ++ b) = a.text ++ b.text := by
    apply String.toList_injective
    simp [Lines.text, String.toList_join]
  unfold Spell
  exact hj ▸ Reads.append ha hb

theorem map {α : Type} {items : List α} {line : α → String} {ts : α → List Token}
    (h : ∀ i ∈ items, Spell l [line i] (ts i)) : Spell l (items.map line) (items.flatMap ts) := by
  induction items
  case nil => exact nil
  case cons i items hi =>
    have ⟨hh, ht⟩ := List.forall_mem_cons.mp h
    exact hh.append (hi ht)

theorem of_reads (h : l.lexicon.Reads .code (a ++ "\n") ts .code) : Spell l [a] ts := by
  have ht : Lines.text [a] = a ++ "\n" := by
    apply String.toList_injective
    simp [Lines.text]
  unfold Spell
  exact ht ▸ h

theorem fixed {line : List Char} (h : scan l.lexicon.step .code (line ++ ['\n']) = (ts, .code)) :
    Spell l [String.ofList line] ts := by
  apply of_reads
  rw [Reads, String.toList_append, String.toList_ofList]
  exact h

theorem of_spells (h : l.lexicon.Spells a us) : Spell l [a] (us ++ [Token.lineEnd]) := by
  have he : l.lexicon.Reads .code "\n" [.lineEnd] .code := .fixed (by cases l <;> rfl)
  have hn : l.lexicon.startsApart "\n" := startsApart_fixed (by cases l <;> rfl)
  exact of_reads (h.followed he hn)

theorem of_comment {question : Bool} (h : l.lexicon.Reads .code a ts (.lineComment question)) :
    Spell l [a] (ts ++ [Token.lineEnd]) := by
  have he : l.lexicon.Reads (.lineComment question) "\n" [.lineEnd] .code :=
    .fixed (by cases l <;> cases question <;> rfl)
  exact of_reads (h.append he)

theorem around (ts vs : List Token) (ha : l.lexicon.Reads .code a ts .code)
    (hn : l.lexicon.Spells n us) (hb : l.lexicon.Reads .code b vs .code)
    (h : l.lexicon.startsApart b) : Spell l [a ++ n ++ b] (ts ++ us ++ (vs ++ [Token.lineEnd])) := by
  rw [← List.append_assoc]
  exact of_spells (.code (ha.around hn hb h))

theorem ending (ts : List Token) (ha : l.lexicon.Reads .code a ts .code)
    (hn : l.lexicon.Spells n us) : Spell l [a ++ n] (ts ++ (us ++ [Token.lineEnd])) := by
  rw [← List.append_assoc]
  exact of_spells (ha.ending hn)

theorem lineComment (ha : l.lexicon.Reads .code a [] (.lineComment false)) (hn : l.lexicon.Keeps n)
    (hb : ∀ question, l.lexicon.Reads (.lineComment question) b [] (.lineComment false)) :
    Spell l [a ++ n ++ b] [.lineEnd] := by
  have ⟨question, hq⟩ := hn.reads
  exact of_comment ((ha.append hq).append (hb question))

theorem lineComment_end (ts : List Token) (ha : l.lexicon.Reads .code a ts (.lineComment false))
    (hn : l.lexicon.Keeps n) : Spell l [a ++ n] (ts ++ [Token.lineEnd]) := by
  have ⟨question, hq⟩ := hn.reads
  simpa using of_comment (ha.append hq)

end Lines.Spell

namespace Lines.Declare

theorem nil : Declare l s [] [] s :=
  ⟨[], .nil, rfl⟩

theorem append {a b : Lines} (ha : Declare l s a ds s') (hb : Declare l s' b es s'') :
    Declare l s (a ++ b) (ds ++ es) s'' := by
  obtain ⟨ts, ha, hs⟩ := ha
  obtain ⟨us, hb, ht⟩ := hb
  exact ⟨ts ++ us, ha.append hb, scan_append hs ht⟩

theorem of_eq {a b : Lines} (h : Declare l s a ds s') (hb : b = a) (he : es = ds) :
    Declare l s b es s' := by
  rwa [hb, he]

theorem flatMap {α : Type} {items : List α} {lines : α → Lines} {ds : α → List Declaration}
    (h : ∀ i ∈ items, Declare l s (lines i) (ds i) s) :
    Declare l s (items.flatMap lines) (items.flatMap ds) s := by
  induction items
  case nil => exact nil
  case cons i items hi =>
    have ⟨hh, ht⟩ := List.forall_mem_cons.mp h
    exact hh.append (hi ht)

theorem map {α : Type} {items : List α} {line : α → String} {ds : α → List Declaration}
    (h : ∀ i ∈ items, Declare l s [line i] (ds i) s) :
    Declare l s (items.map line) (items.flatMap ds) s := by
  rw [List.map_eq_flatMap]
  exact flatMap h

theorem cons {b : Lines} (ha : Declare l s [a] ds s') (hb : Declare l s' b es s'') :
    Declare l s (a :: b) (ds ++ es) s'' :=
  ha.append hb

theorem append_silent {a b : Lines} (ha : Declare l s a [] s') (hb : Declare l s' b es s'') :
    Declare l s (a ++ b) es s'' :=
  ha.append hb

theorem cons_silent {b : Lines} (ha : Declare l s [a] [] s') (hb : Declare l s' b es s'') :
    Declare l s (a :: b) es s'' :=
  ha.append hb

theorem flatMap_silent {α : Type} {items : List α} {lines : α → Lines}
    (h : ∀ i ∈ items, Declare l s (lines i) [] s) : Declare l s (items.flatMap lines) [] s := by
  have hn : items.flatMap (fun _ => ([] : List Declaration)) = [] := by simp
  exact hn ▸ flatMap h

theorem map_silent {α : Type} {items : List α} {line : α → String}
    (h : ∀ i ∈ items, Declare l s [line i] [] s) : Declare l s (items.map line) [] s := by
  rw [List.map_eq_flatMap]
  exact flatMap_silent h

theorem of_spells (h : l.lexicon.Spells a us)
    (hs : scan (Scope.step l) s (us ++ [Token.lineEnd]) = (ds, s')) : Declare l s [a] ds s' :=
  ⟨_, .of_spells h, hs⟩

theorem of_comment {question : Bool} (h : l.lexicon.Reads .code a ts (.lineComment question))
    (hs : scan (Scope.step l) s (ts ++ [Token.lineEnd]) = (ds, s')) : Declare l s [a] ds s' :=
  ⟨_, .of_comment h, hs⟩

def check (l : Language) (s : Scope) (line : List Char) : Place × List Declaration × Scope :=
  let (ts, p) := scan l.lexicon.step .code (line ++ ['\n'])
  (p, scan (Scope.step l) s ts)

-- A line without names is read as it is.
theorem fixed {line : List Char} (h : check l s line = (.code, ds, s')) :
    Declare l s [String.ofList line] ds s' := by
  obtain ⟨hp, hs⟩ := Prod.mk.inj h
  exact ⟨_, .fixed (Prod.ext rfl hp), hs⟩

theorem around (ts vs : List Token) (ha : l.lexicon.Reads .code a ts .code)
    (hn : l.lexicon.Spells n us) (hb : l.lexicon.Reads .code b vs .code)
    (h : l.lexicon.startsApart b)
    (hs : scan (Scope.step l) s (ts ++ us ++ vs ++ [Token.lineEnd]) = (ds, s')) :
    Declare l s [a ++ n ++ b] ds s' :=
  ⟨_, .around ts vs ha hn hb h, List.append_assoc .. ▸ hs⟩

theorem between {c n' : String} {us' : List Token} (ts vs ws : List Token)
    (ha : l.lexicon.Reads .code a ts .code) (hn : l.lexicon.Spells n us)
    (hb : l.lexicon.Reads .code b vs .code) (hb' : l.lexicon.startsApart b)
    (hn' : l.lexicon.Spells n' us') (hc : l.lexicon.Reads .code c ws .code)
    (hc' : l.lexicon.startsApart c)
    (hs : scan (Scope.step l) s (ts ++ us ++ vs ++ us' ++ ws ++ [Token.lineEnd]) = (ds, s')) :
    Declare l s [a ++ n ++ b ++ n' ++ c] ds s' :=
  around _ ws (ha.around hn hb hb') hn' hc hc' hs

theorem ending (ts : List Token) (ha : l.lexicon.Reads .code a ts .code)
    (hn : l.lexicon.Spells n us) (hs : scan (Scope.step l) s (ts ++ us ++ [Token.lineEnd]) = (ds, s')) :
    Declare l s [a ++ n] ds s' :=
  ⟨_, .ending ts ha hn, List.append_assoc .. ▸ hs⟩

theorem lineComment (ha : l.lexicon.Reads .code a [] (.lineComment false)) (hn : l.lexicon.Keeps n)
    (hb : ∀ question, l.lexicon.Reads (.lineComment question) b [] (.lineComment false))
    (hs : s.atLineEnd = s) : Declare l s [a ++ n ++ b] [] s :=
  ⟨_, .lineComment ha hn hb, by simp [scan, Scope.step, hs]⟩

theorem lineComment_end (ts : List Token) (ha : l.lexicon.Reads .code a ts (.lineComment false))
    (hn : l.lexicon.Keeps n) (hs : scan (Scope.step l) s (ts ++ [Token.lineEnd]) = (ds, s')) :
    Declare l s [a ++ n] ds s' :=
  ⟨_, .lineComment_end ts ha hn, hs⟩

theorem blockComment (ha : l.lexicon.Reads .code a [] (.blockComment false))
    (hn : ∃ star, l.lexicon.Reads (.blockComment false) n [] (.blockComment star))
    (hb : ∀ star, l.lexicon.Reads (.blockComment star) b [] .code)
    (hs : s.atLineEnd = s) : Declare l s [a ++ n ++ b] [] s := by
  obtain ⟨star, hn⟩ := hn
  exact of_spells (.code ((ha.append hn).append (hb star))) (by simp [scan, Scope.step, hs])

end Lines.Declare

section Pieces

-- A name and a suffix make one word.
theorem reads_suffixed {w s : String} (ts vs : List Token) (hn : IsWord n)
    (hw : w.toList.all isWordChar) (hs : s = w ++ b) (ha : l.lexicon.Reads .code a ts .code)
    (hb : l.lexicon.Reads .code b vs .code) (h : l.lexicon.startsApart b) :
    l.lexicon.Reads .code (a ++ n ++ s) (ts ++ [Token.word (n ++ w)] ++ vs) .code := by
  have hj : IsWord (n ++ w) := hn.append_right (List.all_eq_true.mp hw)
  have ht : a ++ n ++ s = a ++ (n ++ w) ++ b := by
    rw [hs, String.append_assoc, String.append_assoc, String.append_assoc]
  exact ht ▸ ha.around hj.spells hb h

theorem spells_padRight (hn : l.lexicon.Spells n us) (width : Nat) :
    l.lexicon.Spells (padRight width n) us := by
  unfold padRight
  cases width - n.length
  case zero => simpa using hn
  case succ k =>
    have hb : ∀ k, scan l.lexicon.step .code (List.replicate k ' ') = ([], .code) := by
      intro k
      apply scan_eq_nil
      intro c hc
      rw [List.eq_of_mem_replicate hc]
      cases l <;> rfl
    have hr : l.lexicon.Reads .code (String.ofList (List.replicate (k + 1) ' ')) [] .code := by
      rw [Reads, String.toList_ofList]
      exact hb _
    have ha : l.lexicon.startsApart (String.ofList (List.replicate (k + 1) ' ')) := by
      rw [startsApart, String.toList_ofList]
      cases l <;> rfl
    simpa using Spells.code (hn.followed hr ha)

def IsListing (ts : List Token) : Prop :=
  ∀ t ∈ ts, t = .mark ',' ∨ ∃ v, t = .literal v

theorem reads_literals (l : Language) (values : List String) :
    ∃ ts, l.lexicon.Reads .code (commaSeparated (values.map l.stringLiteral)) ts .code ∧
      IsListing ts := by
  induction values
  case nil => exact ⟨[], rfl, by simp [IsListing]⟩
  case cons v values hi =>
    obtain ⟨ts, hr, ht⟩ := hi
    have hv := l.reads_stringLiteral v
    cases values
    case nil => exact ⟨_, by simpa [commaSeparated] using hv, by simp [IsListing]⟩
    case cons w values =>
      have hc : commaSeparated ((v :: w :: values).map l.stringLiteral) =
          l.stringLiteral v ++ ", " ++ commaSeparated ((w :: values).map l.stringLiteral) := by
        simp [commaSeparated]
      have hm : l.lexicon.Reads .code ", " [.mark ','] .code := by cases l <;> rfl
      refine ⟨_, hc ▸ (hv.append hm).append hr, ?_⟩
      simpa [IsListing] using ht

theorem scan_listing (h : IsListing ts) (group : Option String) (depth : Nat) :
    scan (Scope.step l) ⟨.other, group, depth⟩ ts = ([], ⟨.other, group, depth⟩) := by
  apply scan_eq_nil
  intro t ht
  rcases h t ht with rfl | ⟨v, rfl⟩ <;> rfl

end Pieces
end Layout

namespace SourceUnit

variable {l : Language} {lines : Layout.Lines} {ts : List Token}

theorem tokens_text (hl : l.lexicon.tagged = false) (h : lines.Spell l ts) (fileName : String) :
    (SourceUnit.mk fileName lines.text).tokens l = ts := by
  have hs : l.lexicon.start = .code := by simp [start, hl]
  unfold Layout.Lines.Spell Reads at h
  simp [tokens, Lexicon.tokens, hs, h, Place.tokens]

-- The first line is the tag that opens the code.
theorem tokens_tagged (h : lines.Spell .php ts) (fileName : String) :
    (SourceUnit.mk fileName (Layout.Lines.text ("<?php" :: lines))).tokens .php =
      .lineEnd :: ts := by
  have ht : (Layout.Lines.text ("<?php" :: lines)).toList =
      ['<', '?', 'p', 'h', 'p', '\n'] ++ lines.text.toList := by
    simp [Layout.Lines.text]
  have ho : scan Language.php.lexicon.step (.untagged 0) ['<', '?', 'p', 'h', 'p', '\n'] =
      ([.lineEnd], .code) := rfl
  have hs : scan Language.php.lexicon.step Language.php.lexicon.start
      (Layout.Lines.text ("<?php" :: lines)).toList = (.lineEnd :: ts, .code) :=
    ht ▸ scan_append ho h
  simp [tokens, Lexicon.tokens, hs, Place.tokens]

end SourceUnit
end TypedRows
