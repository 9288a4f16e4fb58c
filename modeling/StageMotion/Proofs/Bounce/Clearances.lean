import StageMotion.Proofs.Bounce.Edges
import StageMotion.Proofs.Number.Order

/-!
# Clearances of any box

The sides of a box and of a playfield may be any floats, infinite ones and what is no number among
them. A clearance is then still a number and not negative (`Bounds.clearance_number`), because a
clamp takes what compares with nothing to its floor. So the clearances compare as numbers do, and
the nearest edge is the first of the nearest also here (`nearest_edge_of_any_box`).
-/

namespace StageMotion

/-- The floats that are numbers compare as numbers do. -/
theorem ranks_float : Scalar.Ranks {x : Float | x.isNaN = false} where
  le_refl hx := le_iff_extendedValue_le.mpr ⟨hx, hx, le_rfl⟩
  le_of_lt h := by
    obtain ⟨hx, hy, hlt⟩ := lt_iff_extendedValue_lt.mp h
    exact le_iff_extendedValue_le.mpr ⟨hx, hy, hlt.le⟩
  lt_of_lt_of_le h h' := by
    obtain ⟨hx, -, hlt⟩ := lt_iff_extendedValue_lt.mp h
    obtain ⟨-, hz, hle⟩ := le_iff_extendedValue_le.mp h'
    exact lt_iff_extendedValue_lt.mpr ⟨hx, hz, hlt.trans_le hle⟩
  le_of_not_lt {x y} hx hy h := by
    have hnot : ¬ extendedValue x < extendedValue y := fun hlt =>
      h (lt_iff_extendedValue_lt.mpr ⟨hx, hy, hlt⟩)
    exact le_iff_extendedValue_le.mpr ⟨hy, hx, not_lt.mp hnot⟩

/-- Whatever is clamped, the result is a number and not below the floor. -/
theorem atLeast_number {floor : Float} (h : floor.isNaN = false) (x : Float) :
    (atLeast floor x).isNaN = false ∧ floor ≤ atLeast floor x := by
  unfold atLeast
  split_ifs with habove
  · exact ⟨(lt_iff_extendedValue_lt.mp habove).2.1, ranks_float.le_of_lt habove⟩
  · exact ⟨h, ranks_float.le_refl h⟩

namespace Bounds

variable (box : Bounds Float) (field : Playfield Float)

theorem clearance_number (edge : Edge) :
    (box.clearance field edge).isNaN = false ∧ 0.0 ≤ box.clearance field edge := by
  cases edge <;> exact atLeast_number rfl _

theorem clearances_number {entry : Edge × Float} (h : entry ∈ box.clearances field) :
    entry.2.isNaN = false ∧ 0.0 ≤ entry.2 := by
  obtain ⟨edge, -, rfl⟩ := List.mem_map.mp h
  exact box.clearance_number field edge

/-- A search that begins with the left edge infinitely far away finds the same. -/
theorem foldl_infinity :
    (box.clearances field).foldl nearer (.left, infinity) = box.nearestEdge field := by
  obtain ⟨hnumber, -⟩ := box.clearance_number field .left
  have hfirst : nearer (.left, infinity) (.left, box.clearance field .left) =
      (.left, box.clearance field .left) := by
    unfold nearer
    split_ifs with hnearer
    · rfl
    · rw [eq_infinity_of_not_lt hnumber hnearer]
  rw [nearestEdge_eq_foldl, ← hfirst]
  rfl

end Bounds

/-- **The nearest edge of any box**: whatever floats the sides are, there is one clearance for each
edge, in the order of the edges, and it is a number and not negative. The nearest edge has one of
them: none is less, and all before it are greater. So if all are infinite, it is the left one. It is
also what a search finds that begins with the left edge infinitely far away. -/
theorem nearest_edge_of_any_box (box : Bounds Float) (field : Playfield Float) :
    let clearances := box.clearances field
    let nearest := box.nearestEdge field
    clearances.map Prod.fst = Edge.all ∧
    (∀ entry ∈ clearances, entry.2.isNaN = false ∧ 0.0 ≤ entry.2) ∧
    (∀ entry ∈ clearances, nearest.2 ≤ entry.2) ∧
    (∃ before after, clearances = before ++ nearest :: after ∧
      ∀ entry ∈ before, nearest.2 < entry.2) ∧
    ((∀ entry ∈ clearances, entry.2.isInf) → nearest = (.left, infinity)) ∧
    clearances.foldl Bounds.nearer (.left, infinity) = nearest := by
  intro clearances nearest
  have hnumbers : ∀ entry ∈ clearances, entry.2.isNaN = false := fun entry hentry =>
    (box.clearances_number field hentry).1
  have hfirst : Bounds.IsFirstNearest clearances nearest :=
    Bounds.nearestEdge_isFirstNearest ranks_float hnumbers
  refine ⟨rfl, fun entry => box.clearances_number field,
    fun entry => hfirst.le ranks_float hnumbers, ?_, fun hinf => ?_, box.foldl_infinity field⟩
  · obtain ⟨before, after, hsplit, hbefore, -⟩ := hfirst
    exact ⟨before, after, hsplit, hbefore⟩
  · -- nothing is above the upper end, so no entry is before the nearest
    have hends : ∀ entry ∈ clearances, entry.2 = infinity := fun entry hentry =>
      eq_infinity_of_isInf (hinf entry hentry) (box.clearances_number field hentry).2
    have hnearest : nearest.2 = infinity := hends nearest hfirst.mem
    obtain ⟨before, after, hsplit, hbefore, -⟩ := hfirst
    cases before with
    | nil =>
      obtain ⟨hhead, -⟩ := List.cons.inj hsplit
      rw [← hhead] at hnearest ⊢
      exact Prod.ext rfl hnearest
    | cons entry before =>
      have hentry : entry ∈ clearances := hsplit ▸ List.mem_cons_self
      have hlt := hbefore entry List.mem_cons_self
      rw [hnearest, hends entry hentry] at hlt
      exact absurd (lt_iff_extendedValue_lt.mp hlt).2.2 (lt_irrefl _)

/-- A tall box is as near to the bottom as to the top, and nearer to them than to the sides; the top
comes first. A box that is turned inside out at the ends of the extended numbers is infinitely far
from every edge, and one of no numbers at all is as near as can be. Both are nearest to the left
edge. -/
theorem nearest_edge_of_any_box_nowhere :
    let nan : Float := 0.0 / 0.0
    let tall : Bounds Float := ⟨-200.0, 100.0, 150.0, -150.0⟩
    let insideOut : Bounds Float := ⟨infinity, -infinity, -infinity, infinity⟩
    let nowhere : Bounds Float := ⟨nan, nan, nan, nan⟩
    tall.clearances .standard = [(.left, 40.0), (.top, 30.0), (.right, 140.0), (.bottom, 30.0)] ∧
      tall.nearestEdge .standard = (.top, 30.0) ∧
      (∃ before after, tall.clearances .standard = before ++ tall.nearestEdge .standard :: after ∧
        ∀ entry ∈ before, (tall.nearestEdge .standard).2 < entry.2) ∧
      (∀ entry ∈ insideOut.clearances .standard, entry.2.isInf) ∧
      insideOut.nearestEdge .standard = (.left, infinity) ∧
      (nowhere.nearestEdge .standard).1 = .left ∧
      ∀ entry ∈ nowhere.clearances .standard, (nowhere.nearestEdge .standard).2 ≤ entry.2 := by
  intro nan tall insideOut nowhere
  have hinf : ∀ entry ∈ insideOut.clearances .standard, entry.2.isInf := by decide +kernel
  obtain ⟨-, -, -, hfirst, -, -⟩ := nearest_edge_of_any_box tall .standard
  obtain ⟨-, -, -, -, hleft, -⟩ := nearest_edge_of_any_box insideOut .standard
  obtain ⟨-, -, hle, -, -, -⟩ := nearest_edge_of_any_box nowhere .standard
  exact ⟨by decide +kernel, by decide +kernel, hfirst, hinf, hleft hinf, by decide +kernel, hle⟩

end StageMotion
