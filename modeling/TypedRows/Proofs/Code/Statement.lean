import TypedRows.Proofs.Code.Names

namespace TypedRows

open Code Code.Lexicon Identifier Text

namespace Code

-- A statement ends at a semicolon or with its line. `s` is what came of it so far.
def statementStep (s : List Token) : Token → List (List Token) × List Token
  | .mark ';' => (ended s, [])
  | .lineEnd => (ended s, [])
  | t => ([], s ++ [t])
where
  ended : List Token → List (List Token)
    | [] => []
    | t :: ts => [t :: ts]

def statements (ts : List Token) : List (List Token) :=
  (scan statementStep [] ts).1

end Code

namespace Layout

variable {l : Language} {ss ss' : List (List Token)} {us : List Token}

-- Lines that declare nothing and are these statements.
def Lines.State (l : Language) (lines : Lines) (ss : List (List Token)) : Prop :=
  ∃ ts, lines.Spell l ts ∧ scan (Scope.step l) {} ts = ([], {}) ∧
    scan statementStep [] ts = (ss, [])

namespace Lines.State

theorem nil : State l [] [] :=
  ⟨[], .nil, rfl, rfl⟩

theorem append {a b : Lines} (ha : State l a ss) (hb : State l b ss') :
    State l (a ++ b) (ss ++ ss') := by
  obtain ⟨ts, ha, hs, ht⟩ := ha
  obtain ⟨us, hb, hs', ht'⟩ := hb
  exact ⟨ts ++ us, ha.append hb, scan_append hs hs', scan_append ht ht'⟩

theorem cons {a : String} {b : Lines} (ha : State l [a] ss) (hb : State l b ss') :
    State l (a :: b) (ss ++ ss') :=
  ha.append hb

theorem cons_silent {a : String} {b : Lines} (ha : State l [a] []) (hb : State l b ss) :
    State l (a :: b) ss :=
  ha.append hb

theorem map {α : Type} {items : List α} {line : α → String} {statement : α → List Token}
    (h : ∀ i ∈ items, State l [line i] [statement i]) :
    State l (items.map line) (items.map statement) := by
  induction items
  case nil => exact nil
  case cons i items hi =>
    have ⟨hh, ht⟩ := List.forall_mem_cons.mp h
    exact hh.append (hi ht)

theorem of_spells {a : String} (h : l.lexicon.Spells a us)
    (hs : scan (Scope.step l) {} (us ++ [.lineEnd]) = ([], {}))
    (ht : scan statementStep [] (us ++ [.lineEnd]) = (ss, [])) : State l [a] ss :=
  ⟨_, .of_spells h, hs, ht⟩

theorem of_eq {a b : Lines} (h : State l a ss) (hb : b = a) (he : ss' = ss) : State l b ss' := by
  rwa [hb, he]

def check (l : Language) (line : List Char) :
    Place × (List Declaration × Scope) × List (List Token) × List Token :=
  let (ts, p) := scan l.lexicon.step .code (line ++ ['\n'])
  (p, scan (Scope.step l) {} ts, scan statementStep [] ts)

theorem fixed {line : List Char} (h : check l line = (.code, ([], {}), ss, [])) :
    State l [String.ofList line] ss := by
  obtain ⟨hp, h⟩ := Prod.mk.inj h
  obtain ⟨hs, ht⟩ := Prod.mk.inj h
  exact ⟨_, .fixed (Prod.ext rfl hp), hs, ht⟩

end Lines.State

theorem scan_statement_listing {ts : List Token} (h : IsListing ts) (s : List Token) :
    scan statementStep s ts = ([], s ++ ts) := by
  induction ts generalizing s
  case nil => rw [List.append_nil]; rfl
  case cons t ts hi =>
    have ⟨ht, hts⟩ := List.forall_mem_cons.mp h
    have hs : statementStep s t = ([], s ++ [t]) := by
      rcases ht with rfl | ⟨v, rfl⟩ <;> rfl
    rw [scan_cons hs (hi hts _), List.append_assoc]
    rfl

end Layout

namespace SourceUnit

variable {l : Language} {lines : Layout.Lines} {ss : List (List Token)}

def statements (l : Language) (u : SourceUnit) : List (List Token) :=
  Code.statements (u.tokens l)

theorem statements_text (hl : l.lexicon.tagged = false) (h : lines.State l ss) (fileName : String) :
    (SourceUnit.mk fileName lines.text).statements l = ss ∧
      (SourceUnit.mk fileName lines.text).declarations l = [] := by
  obtain ⟨ts, ht, hd, hs⟩ := h
  rw [statements, declarations, tokens_text hl ht]
  exact ⟨congrArg Prod.fst hs, congrArg Prod.fst hd⟩

theorem statements_tagged (h : lines.State .php ss) (fileName : String) :
    (SourceUnit.mk fileName (Layout.Lines.text ("<?php" :: lines))).statements .php = ss ∧
      (SourceUnit.mk fileName (Layout.Lines.text ("<?php" :: lines))).declarations .php = [] := by
  obtain ⟨ts, ht, hd, hs⟩ := h
  have he : statementStep [] .lineEnd = ([], []) := rfl
  have hn : Scope.step .php {} .lineEnd = ([], {}) := rfl
  rw [statements, declarations, tokens_tagged ht]
  exact ⟨congrArg Prod.fst (scan_cons he hs), congrArg Prod.fst (scan_cons hn hd)⟩

end SourceUnit
end TypedRows
