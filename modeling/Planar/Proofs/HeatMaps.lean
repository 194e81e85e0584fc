import Mathlib
import Planar.Artifact.HeatMap

/-! Where the pixels and bytes of heat maps begin. -/
namespace Planar

theorem Grid.head_enlarge {α : Type} (g : Grid α) {scale : Nat} (h : 0 < scale) :
    (g.enlarge scale).samples[0]? = g.samples[0]? := by
  have harea : (g.enlarge scale).shape.area = scale * scale * g.shape.area :=
    Nat.mul_mul_mul_comm scale g.width scale g.height
  have hscale : 0 < scale * scale := Nat.mul_pos h h
  rcases Nat.eq_zero_or_pos g.shape.area with hnone | hsome
  · rw [Array.getElem?_eq_none, Array.getElem?_eq_none]
    · rw [g.size_samples, hnone]
    · rw [(g.enlarge scale).size_samples, harea, hnone, Nat.mul_zero]
  · have hlarge : 0 < (g.enlarge scale).shape.area := harea ▸ Nat.mul_pos hscale hsome
    rw [Array.getElem?_eq_getElem ((g.enlarge scale).size_samples ▸ hlarge),
      Array.getElem?_eq_getElem (g.size_samples ▸ hsome)]
    simp [enlarge, ofFn, rowOf, colOf, get]

namespace Picture

theorem toList_pushes (colours : List Colour) (start : ByteArray) :
    (colours.foldl (fun bytes c => ((bytes.push c.red).push c.green).push c.blue)
      start).data.toList =
        start.data.toList ++ colours.flatMap fun c => [c.red, c.green, c.blue] := by
  induction colours generalizing start with
  | nil => simp
  | cons c colours ih =>
    rw [List.foldl_cons, ih, List.flatMap_cons]
    simp

theorem toList_bytes (picture : Picture) : picture.bytes.data.toList =
    picture.samples.toList.flatMap fun c => [c.red, c.green, c.blue] := by
  rw [bytes, ← Array.foldl_toList, toList_pushes]
  rfl

theorem head_bytes {picture : Picture} {c : Colour} (h : picture.samples[0]? = some c) :
    picture.bytes.data.toList.head? = some c.red := by
  rw [← Array.getElem?_toList, ← List.head?_eq_getElem?] at h
  obtain ⟨rest, hlist⟩ := List.head?_eq_some_iff.mp h
  rw [toList_bytes, hlist]
  rfl

end Picture

theorem HeatMap.head_render {α : Type} [Scalar α] (map : DifferenceMap α) :
    (render map).samples[0]? = map.absolute.samples[0]?.map fun d =>
      ramp (if ((0 : Nat) : α) < map.peak then d / map.peak else ((0 : Nat) : α)) := by
  rw [render, Grid.head_enlarge]
  · simp [Grid.map]
  · exact Nat.le_max_left _ _

end Planar
