import Planar.Artifact.Chart
import Planar.Artifact.Encoder
import Planar.Artifact.HeatMap
import Planar.Artifact.Name
import Planar.Bilinear
import Planar.Channel
import Planar.Codec.Bytes
import Planar.Codec.Deflate
import Planar.Codec.Lzw
import Planar.Codec.Png
import Planar.Codec.Tiff
import Planar.Command.Arguments
import Planar.Command.Options
import Planar.Command.Run
import Planar.Comparer
import Planar.Decimal.Binary
import Planar.Decimal.Fixed
import Planar.Decimal.Reading
import Planar.Decimal.Shortest
import Planar.Difference
import Planar.Disk
import Planar.Divergence
import Planar.Dump
import Planar.Event
import Planar.Fault
import Planar.Fidelity
import Planar.Frame
import Planar.Grid
import Planar.Host
import Planar.Image
import Planar.Main
import Planar.Path
import Planar.Picture
import Planar.Proofs.AbsolutePaths
import Planar.Proofs.Arguments
import Planar.Proofs.Axis
import Planar.Proofs.Batch
import Planar.Proofs.Bilinear
import Planar.Proofs.ChannelDumps
import Planar.Proofs.Closeness
import Planar.Proofs.CompareCommand
import Planar.Proofs.Comparing
import Planar.Proofs.Confinement
import Planar.Proofs.Counting
import Planar.Proofs.Differences
import Planar.Proofs.Disk
import Planar.Proofs.Divergence
import Planar.Proofs.Drawings
import Planar.Proofs.Dump
import Planar.Proofs.DumpReading
import Planar.Proofs.Exact
import Planar.Proofs.Exports
import Planar.Proofs.Extremes
import Planar.Proofs.Fidelity
import Planar.Proofs.Folders
import Planar.Proofs.Frame
import Planar.Proofs.Gaps
import Planar.Proofs.Grid
import Planar.Proofs.HeatMaps
import Planar.Proofs.Histograms
import Planar.Proofs.Image
import Planar.Proofs.Interpolation
import Planar.Proofs.Isolation
import Planar.Proofs.Lines
import Planar.Proofs.Loading
import Planar.Proofs.Logged
import Planar.Proofs.Matching
import Planar.Proofs.Medians
import Planar.Proofs.Moments
import Planar.Proofs.Noise
import Planar.Proofs.Nonexpansive
import Planar.Proofs.Numerals
import Planar.Proofs.OrderStatistics
import Planar.Proofs.PairedPlanes
import Planar.Proofs.PerfectScores
import Planar.Proofs.PictureNames
import Planar.Proofs.Pictures
import Planar.Proofs.References
import Planar.Proofs.Reports
import Planar.Proofs.ResizeCommand
import Planar.Proofs.ResizeRuns
import Planar.Proofs.ResizeShapes
import Planar.Proofs.Resizing
import Planar.Proofs.Runs
import Planar.Proofs.SameSize
import Planar.Proofs.SampleRange
import Planar.Proofs.SoundImages
import Planar.Proofs.Strides
import Planar.Proofs.Subsampling
import Planar.Proofs.Summaries
import Planar.Proofs.Symmetry
import Planar.Proofs.Tails
import Planar.Proofs.Text
import Planar.Proofs.Timings
import Planar.Proofs.Traversal
import Planar.Proofs.World
import Planar.Proofs.Zero
import Planar.Raster
import Planar.Report
import Planar.Resizer
import Planar.Scalar
import Planar.Shape
import Planar.Sink
import Planar.Source
import Planar.Statistics
import Planar.Text.Utf8
import Planar.Text.Words
import Planar.Timings
import Planar.Proofs.Bars
import Planar.Proofs.Margins
import Planar.Proofs.Blocks
import Planar.Proofs.RasterPlanes
