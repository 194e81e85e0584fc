import Planar.Proofs.Image
import Planar.Proofs.Reports

/-! Which planes a comparison holds against each other. It pairs planes by position and looks at
their shapes alone, which tell 4:2:0 images from others but not one channel from another. -/
namespace Planar

variable {a b image : Image}

namespace Image

/-- The channels of the planes, in order. -/
def channels (image : Image) : List Channel := image.planes.map Plane.channel

/-- Images whose layouts list the same channels. One-plane images carry the same tag besides. -/
structure Alike (a b : Image) : Prop where
  layouts : a.layout.channels = b.layout.channels
  tags : a.layout = .single → a.channels = b.channels

theorem channels_eq_iff : a.channels = b.channels ↔
    a.planes.length = b.planes.length ∧ ∀ (i : Nat) (x y : Plane),
      a.planes[i]? = some x → b.planes[i]? = some y → x.channel = y.channel := by
  constructor
  · intro h
    refine ⟨by simpa [channels] using congrArg List.length h, ?_⟩
    intro i x y hx hy
    have hi : a.channels[i]? = b.channels[i]? := by rw [h]
    simpa [channels, hx, hy] using hi
  · rintro ⟨hlen, h⟩
    refine List.ext_getElem (by simpa [channels] using hlen) ?_
    intro i hi hi'
    simp only [channels, List.getElem_map]
    rw [channels, List.length_map] at hi hi'
    exact h i _ _ (List.getElem?_eq_getElem hi) (List.getElem?_eq_getElem hi')

/-- A plane has one of its channel beside it in every image that carries the same channels. -/
theorem exists_plane_of_channels_eq {i : Nat} {x : Plane} (h : a.channels = b.channels)
    (hx : b.planes[i]? = some x) : ∃ y, a.planes[i]? = some y ∧ x.channel = y.channel := by
  obtain ⟨hlen, hall⟩ := channels_eq_iff.mp h
  obtain ⟨hi, -⟩ := List.getElem?_eq_some_iff.mp hx
  have hy := List.getElem?_eq_getElem (hlen ▸ hi : i < a.planes.length)
  exact ⟨_, hy, (hall i _ _ hy hx).symm⟩

theorem WellFormed.single_iff_of_count (ha : a.WellFormed) (hb : b.WellFormed)
    (hcount : a.planes.length = b.planes.length) : a.layout = .single ↔ b.layout = .single := by
  have hone : ∀ layout : Layout, layout = .single ↔ layout.channels.length = 1 := by
    intro layout
    cases layout <;> decide
  rw [hone, hone, ← ha.count, ← hb.count, hcount]

/-- Beyond one plane the layouts decide on the channels. -/
theorem WellFormed.channels_eq_iff_alike (ha : a.WellFormed) (hb : b.WellFormed)
    (hcount : a.planes.length = b.planes.length) : a.channels = b.channels ↔ a.Alike b := by
  have hsingle := ha.single_iff_of_count hb hcount
  by_cases hlayout : a.layout = .single
  · constructor
    · intro h
      exact ⟨by rw [hlayout, hsingle.mp hlayout], fun _ => h⟩
    · exact fun h => h.tags hlayout
  · have hchannels : a.channels = a.layout.channels := ha.channels hlayout
    have hchannels' : b.channels = b.layout.channels := hb.channels (mt hsingle.mpr hlayout)
    rw [hchannels, hchannels']
    constructor
    · exact fun h => ⟨h, fun hl => (hlayout hl).elim⟩
    · exact fun h => h.layouts

/-- Halved chroma is what tells a 4:2:0 image by its shapes. -/
theorem WellFormed.yuv420_iff {luma chroma : Plane} (hw : image.WellFormed)
    (hluma : image.planes[0]? = some luma) (hchroma : image.planes[1]? = some chroma)
    (hwidth : 0 < luma.grid.width) :
    image.layout = .yuv420 ↔ chroma.grid.shape ≠ luma.grid.shape := by
  have hfull : luma.grid.shape = image.layout.planeShape 0 image.shape := hw.shapes 0 luma hluma
  have hhalf := hw.shapes 1 chroma hchroma
  rw [Layout.planeShape, if_neg (by simp)] at hfull
  constructor
  · intro hlayout hsame
    rw [Layout.planeShape, if_pos ⟨hlayout, Nat.one_pos⟩] at hhalf
    have hwidths : image.shape.width / 2 = image.shape.width :=
      congrArg Shape.width (hhalf.symm.trans (hsame.trans hfull))
    rw [Grid.width, hfull] at hwidth
    omega
  · intro hne
    by_contra hlayout
    rw [Layout.planeShape, if_neg fun h => hlayout h.1] at hhalf
    exact hne (hhalf.trans hfull.symm)

theorem WellFormed.yuv420_iff_of_shapes (ha : a.WellFormed) (hb : b.WellFormed)
    (hshapes : a.shapes = b.shapes) (hwidths : ∀ plane ∈ a.planes, 0 < plane.grid.width) :
    a.layout = .yuv420 ↔ b.layout = .yuv420 := by
  obtain ⟨hcount, hsame⟩ := shapes_eq_iff.mp hshapes
  by_cases hmany : 1 < a.planes.length
  · have hmany' : 1 < b.planes.length := hcount ▸ hmany
    have hfirst := hsame 0 _ _ (List.getElem?_eq_getElem (Nat.zero_lt_of_lt hmany))
      (List.getElem?_eq_getElem (Nat.zero_lt_of_lt hmany'))
    have hsecond := hsame 1 _ _ (List.getElem?_eq_getElem hmany) (List.getElem?_eq_getElem hmany')
    have hwidth := hwidths _ (List.getElem_mem (Nat.zero_lt_of_lt hmany))
    rw [ha.yuv420_iff (List.getElem?_eq_getElem _) (List.getElem?_eq_getElem hmany) hwidth,
      hb.yuv420_iff (List.getElem?_eq_getElem _) (List.getElem?_eq_getElem hmany')
        (by rwa [Grid.width, ← hfirst]), hfirst, hsecond]
  · have hthree : ∀ image : Image, image.WellFormed → image.layout = .yuv420 →
        image.planes.length = 3 := by
      intro image hw hlayout
      rw [hw.count, hlayout]
      rfl
    constructor
    · intro hlayout
      have := hthree a ha hlayout
      omega
    · intro hlayout
      have := hthree b hb hlayout
      omega

end Image

/-- At each position three images carry one channel. Every comparison of a report names the channel
of both planes that were subtracted, and every entry of a summary that of the native plane whose
subsample was its baseline. -/
structure Report.LikeWithLike {α : Type} (report : Report α) (native reference candidate : Image) :
    Prop where
  planes : ∀ (i : Nat) (n r c : Plane), native.planes[i]? = some n →
    reference.planes[i]? = some r → candidate.planes[i]? = some c →
      n.channel = r.channel ∧ r.channel = c.channel
  comparisons : ∀ (i : Nat) (entry : PlaneComparison α), report.comparisons[i]? = some entry →
    ∃ r c, reference.planes[i]? = some r ∧ candidate.planes[i]? = some c ∧
      entry.channel = r.channel ∧ entry.channel = c.channel
  summaries : ∀ summary ∈ report.summaries, ∀ (i : Nat) (entry : PlaneSummary α),
    summary.planes[i]? = some entry →
      ∃ n, native.planes[i]? = some n ∧ entry.channel = n.channel

section
variable {α : Type} [Scalar α] [Analytic α] {report : Report α} {thresholds : List α}
  {native reference candidate : Labelled} {summary : ImageSummary α}

/-- Entries of a summary name channels of the image that it is of. -/
theorem ImageSummary.Of.channel {label : String} {planes : List Plane} {grids : List (Grid UInt8)}
    (h : summary.Of label planes grids) {i : Nat} {entry : PlaneSummary α}
    (hentry : summary.planes[i]? = some entry) :
    ∃ plane, planes[i]? = some plane ∧ entry.channel = plane.channel := by
  obtain ⟨plane, -, hplane, -, hchannel, -⟩ := h.entries i entry hentry
  exact ⟨plane, hplane, hchannel⟩

/-- The channels that a report names in a summary are those of one of its images. -/
theorem Report.Of.channel_of_summary (hof : report.Of thresholds native reference candidate)
    (hsummary : summary ∈ report.summaries) :
    ∃ image ∈ [native.image, reference.image, candidate.image],
      ∀ (i : Nat) (entry : PlaneSummary α), summary.planes[i]? = some entry →
        ∃ plane, image.planes[i]? = some plane ∧ entry.channel = plane.channel := by
  obtain ⟨grids, first, second, third, -, hsummaries, hfirst, hsecond, hthird, -⟩ := hof.summaries
  rw [hsummaries] at hsummary
  simp only [List.mem_cons, List.not_mem_nil, or_false] at hsummary
  rcases hsummary with rfl | rfl | rfl
  · refine ⟨native.image, by simp, ?_⟩
    intro i entry hentry
    obtain ⟨plane, hplane, hchannel⟩ := hfirst.channel hentry
    obtain ⟨n, grid, hn, -, rfl⟩ := List.getElem?_zipWith_eq_some.mp hplane
    exact ⟨n, hn, hchannel⟩
  · exact ⟨reference.image, by simp, fun i entry hentry => hsecond.channel hentry⟩
  · exact ⟨candidate.image, by simp, fun i entry hentry => hthird.channel hentry⟩

/-- What a report names is right for both sides exactly if all three images carry the same
channels. -/
theorem Report.Of.likeWithLike_iff (hof : report.Of thresholds native reference candidate)
    (hcomparable : Comparable native.image reference.image candidate.image) :
    report.LikeWithLike native.image reference.image candidate.image ↔
      native.image.channels = reference.image.channels ∧
        reference.image.channels = candidate.image.channels := by
  have hcount := hcomparable.count
  obtain ⟨hcount', -⟩ := Image.shapes_eq_iff.mp hcomparable.matching
  constructor
  · intro h
    refine ⟨Image.channels_eq_iff.mpr ⟨hcount, ?_⟩, Image.channels_eq_iff.mpr ⟨hcount', ?_⟩⟩
    · intro i n r hn hr
      obtain ⟨hi, -⟩ := List.getElem?_eq_some_iff.mp hr
      have hc := List.getElem?_eq_getElem (hcount' ▸ hi : i < candidate.image.planes.length)
      exact (h.planes i n r _ hn hr hc).1
    · intro i r c hr hc
      obtain ⟨hi, -⟩ := List.getElem?_eq_some_iff.mp hr
      have hn := List.getElem?_eq_getElem (hcount ▸ hi : i < native.image.planes.length)
      exact (h.planes i _ r c hn hr hc).2
  · rintro ⟨hnative, hreference⟩
    refine ⟨?_, ?_, ?_⟩
    · intro i n r c hn hr hc
      exact ⟨(Image.channels_eq_iff.mp hnative).2 i n r hn hr,
        (Image.channels_eq_iff.mp hreference).2 i r c hr hc⟩
    · intro i entry hentry
      obtain ⟨x, y, map, hx, hy, -, rfl⟩ := hof.comparisons.2 i entry hentry
      exact ⟨x, y, hx, hy, rfl, (Image.channels_eq_iff.mp hreference).2 i x y hx hy⟩
    · intro summary hsummary i entry hentry
      obtain ⟨image, himage, hnamed⟩ := hof.channel_of_summary hsummary
      obtain ⟨plane, hplane, hchannel⟩ := hnamed i entry hentry
      have hsame : native.image.channels = image.channels := by
        simp only [List.mem_cons, List.not_mem_nil, or_false] at himage
        rcases himage with rfl | rfl | rfl
        · rfl
        · exact hnative
        · exact hnative.trans hreference
      obtain ⟨n, hn, heq⟩ := Image.exists_plane_of_channels_eq hsame hplane
      exact ⟨n, hn, hchannel.trans heq⟩

theorem Comparable.widths (h : Comparable native.image reference.image candidate.image) :
    ∀ plane ∈ reference.image.planes, 0 < plane.grid.width := by
  intro plane hplane
  obtain ⟨i, hi⟩ := List.mem_iff_getElem?.mp hplane
  obtain ⟨hlt, -⟩ := List.getElem?_eq_some_iff.mp hi
  have hn := List.getElem?_eq_getElem (h.count ▸ hlt : i < native.image.planes.length)
  exact (h.covered i _ plane hn hi).1

end

/-- A comparison that succeeds pairs the planes of its images by position. Each comparison names
the channel of the reference, and each summary those of its own image. A reference and a candidate
carry the same channels if one of them is 4:2:0. Like is compared with like throughout exactly if
the layouts of all three images list the same channels, and one-plane images carry one tag. -/
theorem compare_like_with_like_iff {α : Type} [Scalar α] [Analytic α] [ZeroLaws α]
    (comparer : Comparer α) (native reference candidate : Labelled) (report : Report α)
    (world after : World α) (hn : native.image.WellFormed) (hr : reference.image.WellFormed)
    (hc : candidate.image.WellFormed)
    (h : Task.on (comparer.compare native reference candidate) world = (.ok report, after)) :
    report.Of comparer.config.thresholds native reference candidate ∧
      (reference.image.layout = .yuv420 ∨ candidate.image.layout = .yuv420 →
        reference.image.channels = candidate.image.channels) ∧
      (report.LikeWithLike native.image reference.image candidate.image ↔
        native.image.Alike reference.image ∧ reference.image.Alike candidate.image) := by
  obtain ⟨hcomparable, hof⟩ := Comparer.report_of_compare h
  obtain ⟨hcount, -⟩ := Image.shapes_eq_iff.mp hcomparable.matching
  have hhalved := hr.yuv420_iff_of_shapes hc hcomparable.matching hcomparable.widths
  refine ⟨hof, ?_, ?_⟩
  · intro hlayout
    have hreference : reference.image.layout = .yuv420 := hlayout.elim id hhalved.mpr
    refine (hr.channels_eq_iff_alike hc hcount).mpr ⟨?_, ?_⟩
    · rw [hreference, hhalved.mp hreference]
    · intro hsingle
      cases hreference.symm.trans hsingle
  · rw [hof.likeWithLike_iff hcomparable, hn.channels_eq_iff_alike hr hcomparable.count,
      hr.channels_eq_iff_alike hc hcount]

/-- A 4:2:0 frame is compared with itself against an image with chroma at full size. -/
theorem compare_like_with_like_iff_frame :
    let comparer : Comparer Float :=
      ⟨.png, { ComparisonConfig.default with writePictures := false }⟩
    let square : Grid UInt8 := Grid.ofFn ⟨2, 2⟩ fun _ _ => 7
    let dot : Grid UInt8 := Grid.ofFn ⟨1, 1⟩ fun _ _ => 9
    let full : Labelled :=
      ⟨"full", ⟨⟨2, 2⟩, .ycbcr, [⟨.y, square⟩, ⟨.cb, square⟩, ⟨.cr, square⟩]⟩⟩
    let frame : Labelled := ⟨"frame", ⟨⟨2, 2⟩, .yuv420, [⟨.y, square⟩, ⟨.cb, dot⟩, ⟨.cr, dot⟩]⟩⟩
    let world : World Float := ⟨.empty, []⟩
    ∃ report, (full.image.WellFormed ∧ frame.image.WellFormed ∧
      Task.on (comparer.compare full frame frame) world = (.ok report, world)) ∧
      report.LikeWithLike full.image frame.image frame.image := by
  intro comparer square dot full frame world
  have hfull : full.image.WellFormed := Image.wellFormed_of_assemble
    (by rfl : Image.assemble ⟨2, 2⟩ .ycbcr [square, square, square] = .ok full.image)
  have hframe : frame.image.WellFormed := Image.wellFormed_of_assemble
    (by rfl : Image.assemble ⟨2, 2⟩ .yuv420 [square, dot, dot] = .ok frame.image)
  have hcomparable : Comparable full.image frame.image frame.image :=
    .of_zip rfl rfl (by decide)
  obtain ⟨report, h⟩ : ∃ report, Task.on (comparer.compare full frame frame) world =
    (.ok report, world) := Comparer.on_compare_of_comparable rfl hcomparable
  obtain ⟨-, -, hiff⟩ := compare_like_with_like_iff comparer full frame frame report world world
    hfull hframe hframe h
  exact ⟨report, ⟨hfull, hframe, h⟩, hiff.mpr ⟨⟨rfl, fun hl => nomatch hl⟩, rfl, fun _ => rfl⟩⟩

/-- The red samples of one image and the luma of another are subtracted, and the comparison is
reported as one of red. -/
theorem compare_mixes_channels :
    let comparer : Comparer Float :=
      ⟨.png, { ComparisonConfig.default with writePictures := false }⟩
    let dot (v : UInt8) : Grid UInt8 := Grid.ofFn ⟨1, 1⟩ fun _ _ => v
    let red : Labelled := ⟨"red", ⟨⟨1, 1⟩, .rgb, [⟨.r, dot 255⟩, ⟨.g, dot 0⟩, ⟨.b, dot 0⟩]⟩⟩
    let split : Labelled :=
      ⟨"split", ⟨⟨1, 1⟩, .ycbcr, [⟨.y, dot 76⟩, ⟨.cb, dot 85⟩, ⟨.cr, dot 255⟩]⟩⟩
    let world : World Float := ⟨.empty, []⟩
    red.image.WellFormed ∧ split.image.WellFormed ∧
      ∃ report, Task.on (comparer.compare red red split) world = (.ok report, world) ∧
        ¬ report.LikeWithLike red.image red.image split.image ∧
        ∃ entry, report.comparisons[0]? = some entry ∧ entry.channel = .r := by
  intro comparer dot red split world
  have hred : red.image.WellFormed := Image.wellFormed_of_assemble
    (by rfl : Image.assemble ⟨1, 1⟩ .rgb [dot 255, dot 0, dot 0] = .ok red.image)
  have hsplit : split.image.WellFormed := Image.wellFormed_of_assemble
    (by rfl : Image.assemble ⟨1, 1⟩ .ycbcr [dot 76, dot 85, dot 255] = .ok split.image)
  have hcomparable : Comparable red.image red.image split.image :=
    .of_zip rfl rfl (by decide)
  obtain ⟨report, h⟩ : ∃ report, Task.on (comparer.compare red red split) world =
    (.ok report, world) := Comparer.on_compare_of_comparable rfl hcomparable
  refine ⟨hred, hsplit, report, h, ?_, ?_⟩
  · intro hlike
    obtain ⟨-, hchannels⟩ := hlike.planes 0 _ _ _ rfl rfl rfl
    cases hchannels
  · obtain ⟨-, hof⟩ := Comparer.report_of_compare h
    obtain ⟨hlen, hentries⟩ := hof.comparisons
    have hpos : 0 < report.comparisons.length := hlen ▸ Nat.zero_lt_succ 2
    have hfirst := List.getElem?_eq_getElem hpos
    obtain ⟨x, y, map, hx, -, -, hentry⟩ := hentries 0 _ hfirst
    obtain rfl : _ = x := Option.some.inj hx
    exact ⟨_, hfirst, congrArg PlaneComparison.channel hentry⟩

end Planar
