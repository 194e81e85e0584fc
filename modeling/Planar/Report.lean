import Planar.Decimal.Fixed
import Planar.Decimal.Shortest
import Planar.Fidelity

/-! Reports of how faithful a candidate is to a reference, and their text. -/
namespace Planar
open Decimal

structure PlaneSummary (α : Type) where
  channel : Channel
  summary : Summary α

/-- Summaries of the planes of one labelled image. -/
structure ImageSummary (α : Type) where
  label : String
  planes : List (PlaneSummary α)

structure PlaneComparison (α : Type) where
  channel : Channel
  comparison : Comparison α

structure Report (α : Type) where
  referenceLabel : String
  candidateLabel : String
  summaries : List (ImageSummary α)
  comparisons : List (PlaneComparison α)
  /-- Paths of the pictures written. -/
  artifacts : List String

/-- The ratio as a double, infinite when unbounded. -/
def Psnr.toFloat : Psnr Float → Float
  | .unbounded => 1 / 0
  | .decibels value => value

def Psnr.render (ratio : Psnr Float) : String :=
  if ratio.toFloat.isInf then "inf dB" else s!"{fixed 2 ratio.toFloat} dB"

def joinLines (texts : List String) : String := "\n".intercalate texts

def Summary.render (s : Summary Float) : String :=
  joinLines [
    s!"Shape: ({s.shape.height}, {s.shape.width})",
    s!"Min value: {shortest s.min}",
    s!"Max value: {shortest s.max}",
    s!"Mean value: {fixed 2 s.mean}",
    s!"Median value: {shortest s.median}",
    s!"Standard deviation: {fixed 2 s.stdDev}",
    s!"PSNR (wrt original): {s.psnr.render}"]

def Share.render (share : Share Float) : String :=
  "Percentage of pixels with difference > " ++ shortest share.threshold ++ ": " ++
    fixed 2 share.percent ++ "%"

def Comparison.render (c : Comparison Float) : String :=
  joinLines ([
    s!"Mean absolute difference: {fixed 4 c.meanAbs}",
    s!"Median absolute difference: {fixed 4 c.medianAbs}",
    s!"Max absolute difference: {fixed 4 c.maxAbs}",
    s!"Standard deviation of difference: {fixed 4 c.stdSigned}"] ++
    c.exceeding.map Share.render)

/-- Texts of planes, a line each, under their channels if there are several. -/
def renderPlanes (planes : List (Channel × String)) : String :=
  String.join <| planes.map fun (channel, text) =>
    if 1 < planes.length then s!"[{channel.name}]\n{text}\n" else s!"{text}\n"

def ImageSummary.render (image : ImageSummary Float) : String :=
  s!"Summary for {image.label}:\n" ++
    renderPlanes (image.planes.map fun p => (p.channel, p.summary.render)) ++ "\n"

/-- The text of a report, every line ended. -/
def Report.render (report : Report Float) : String :=
  String.join (report.summaries.map ImageSummary.render) ++
    s!"Comparison between {report.referenceLabel} and {report.candidateLabel}:\n" ++
    renderPlanes (report.comparisons.map fun p => (p.channel, p.comparison.render)) ++
    String.join (report.artifacts.map fun path => s!"Saved {path}\n")

end Planar
