/-!
# Prefixes

What follows a known beginning of a text.
-/

namespace FleetQuery

theorem isPrefixOf?_eq_some_iff {α : Type} [DecidableEq α] {p s rest : List α} :
    p.isPrefixOf? s = some rest ↔ s = p ++ rest := by
  induction p generalizing s with
  | nil =>
    show some s = some rest ↔ s = [] ++ rest
    simp
  | cons a p ih =>
    cases s with
    | nil =>
      show none = some rest ↔ [] = a :: p ++ rest
      simp
    | cons b s =>
      show (if a == b then p.isPrefixOf? s else none) = some rest ↔ b :: s = a :: p ++ rest
      by_cases h : a = b
      · simp [h, ih]
      · simp [h, Ne.symm h]

end FleetQuery
