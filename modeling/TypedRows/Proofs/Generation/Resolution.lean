import TypedRows.Proofs.Dialect.OpenColumns
import TypedRows.Proofs.Generation.Reading

namespace TypedRows

def Table.Resolved (t : Table) : Prop :=
  ∀ c ∈ t.columns, ∃ k, c.canonical = some k ∧ k ≠ .unknown

def Schema.Resolved (s : Schema) : Prop :=
  ∀ t ∈ s.tables, t.Resolved

namespace Dialect

open Diagnostics

variable {d : Dialect} {s : Schema}

theorem resolveSchema_ofKind (d : Dialect) (s : Schema) :
    OfKind .typeResolution (d.resolveSchema s).2 := by
  intro x hx
  rw [resolveSchema_reports] at hx
  obtain ⟨p, _, hx⟩ := List.mem_flatMap.mp hx
  rw [reports] at hx
  generalize d.resolve p.2.sourceType = r at hx
  rcases List.mem_append.mp hx with hx | hx
  case inl =>
    split_ifs at hx
    case pos =>
      obtain rfl := List.mem_singleton.mp hx
      rfl
    case neg => contradiction
  case inr =>
    obtain ⟨note, _, rfl⟩ := List.mem_map.mp hx
    rfl

theorem resolveSchema_isEmpty (d : Dialect) (s : Schema) :
    (d.resolveSchema s).1.isEmpty = s.isEmpty :=
  List.isEmpty_map

theorem resolveSchema_resolved (h : s.NeverUnknown)
    (he : (d.resolveSchema s).2.hasErrors = false) : (d.resolveSchema s).1.Resolved := by
  intro t' ht' c' hc'
  rw [resolveSchema_tables] at ht'
  obtain ⟨t, ht, rfl⟩ := List.mem_map.mp ht'
  obtain ⟨c, hc, rfl⟩ := List.mem_map.mp hc'
  cases hk : c.canonical
  case some k =>
    refine ⟨k, by simp [typed, hk], ?_⟩
    rintro rfl
    exact h t ht c hc hk
  case none =>
    have hu : (d.resolve c.sourceType).canonical ≠ .unknown := by
      intro hu
      have hm : .error .typeResolution (d.unsupportedText t c) (place (t, c)) ∈
          (d.resolveSchema s).2 := by
        rw [resolveSchema_reports]
        exact List.mem_flatMap.mpr
          ⟨(t, c), Schema.mem_openColumns.mpr ⟨ht, hc, hk⟩, by simp [reports, hu]⟩
      exact List.any_eq_false.mp he _ hm rfl
    exact ⟨_, by simp [typed, hk, Resolution.known?, hu], hu⟩

end Dialect
end TypedRows
