import Planar.Proofs.Image
import Planar.Source

/-! Frames are exactly the byte strings of the right length, one for each image of their shape. -/
namespace Planar

namespace Frame

variable {shape : Shape} {bytes : ByteArray} {image : Image} {y cb cr : Grid UInt8} {fault : Fault}

/-- The shape of both chroma planes. -/
def chroma (shape : Shape) : Shape := Layout.yuv420.planeShape 1 shape

/-- The samples or the bytes of a frame are too many to count. -/
def Oversize (shape : Shape) : Prop :=
  Shape.wordLimit ≤ shape.area ∨ Shape.wordLimit ≤ length shape

/-- A 4:2:0 image of the given planes. -/
def ofPlanes (shape : Shape) (y cb cr : Grid UInt8) : Image :=
  ⟨shape, .yuv420, [⟨.y, y⟩, ⟨.cb, cb⟩, ⟨.cr, cr⟩]⟩

/-- Planes of the shapes that the layout asks for. -/
structure Fits (shape : Shape) (y cb cr : Grid UInt8) : Prop where
  luma : y.shape = shape
  blue : cb.shape = chroma shape
  red : cr.shape = chroma shape

/-- The samples of three planes one after the other. -/
def joined (y cb cr : Grid UInt8) : Array UInt8 := y.samples ++ cb.samples ++ cr.samples

theorem length_eq (shape : Shape) : length shape = shape.area + 2 * (chroma shape).area := by
  simp [length, chroma, Layout.planeShape, Shape.area, Nat.mul_assoc]

theorem not_oversize_iff : ¬ Oversize shape ↔ length shape < Shape.wordLimit := by
  rw [Oversize, length_eq]
  omega

theorem size_joined (h : Fits shape y cb cr) : (joined y cb cr).size = length shape := by
  rw [joined, Array.size_append, Array.size_append, y.size_samples, cb.size_samples,
    cr.size_samples, h.luma, h.blue, h.red, length_eq]
  omega

theorem assemble_eq_ok {grids : List (Grid UInt8)} :
    Image.assemble shape .yuv420 grids = .ok image ↔
      ∃ y cb cr, grids = [y, cb, cr] ∧ Fits shape y cb cr ∧ image = ofPlanes shape y cb cr := by
  rw [Image.assemble_eq_ok]
  constructor
  · rintro ⟨hlen, hs, rfl⟩
    obtain ⟨y, cb, cr, rfl⟩ := List.length_eq_three.mp hlen
    exact ⟨y, cb, cr, rfl, ⟨hs 0 y rfl, hs 1 cb rfl, hs 2 cr rfl⟩, rfl⟩
  · rintro ⟨y, cb, cr, rfl, hf, rfl⟩
    refine ⟨rfl, ?_, rfl⟩
    intro i g hi
    match i with
    | 0 =>
      obtain rfl : y = g := Option.some.inj hi
      exact hf.luma
    | 1 =>
      obtain rfl : cb = g := Option.some.inj hi
      exact hf.blue
    | 2 =>
      obtain rfl : cr = g := Option.some.inj hi
      exact hf.red
    | i + 3 => simp at hi

theorem encode_ofPlanes : encode (ofPlanes shape y cb cr) = .ok ⟨joined y cb cr⟩ := by
  simp [encode, ofPlanes, joined]

theorem encode_of_ne (h : image.layout ≠ .yuv420) :
    encode image =
      .error (.unsupported s!"cannot write {image.layout.name} planes as YUV 4:2:0") :=
  if_neg h

theorem area_chroma_le (shape : Shape) : (chroma shape).area ≤ shape.area :=
  Nat.mul_le_mul (Nat.div_le_self _ _) (Nat.div_le_self _ _)

/-- A frame too large to count is reported under its own shape, whichever count failed. -/
theorem decode_of_oversize (h : Oversize shape) :
    decode shape bytes = .error (.badShape shape) := by
  rw [decode]
  by_cases hluma : shape.area < Shape.wordLimit
  · have hchroma : (chroma shape).area < Shape.wordLimit :=
      Nat.lt_of_le_of_lt (area_chroma_le shape) hluma
    have hlong : Shape.wordLimit ≤ shape.area + 2 * (chroma shape).area := by
      rw [Oversize, length_eq] at h
      omega
    refine bind_eq_error.mpr (Or.inr ⟨_, sampleCount_of_lt hluma, ?_⟩)
    refine bind_eq_error.mpr (Or.inr ⟨_, sampleCount_of_lt hchroma, ?_⟩)
    exact if_pos hlong
  · exact bind_eq_error.mpr (Or.inl (sampleCount_eq_error.mpr ⟨Nat.le_of_not_lt hluma, rfl⟩))

theorem decode_of_size_ne (h : length shape < Shape.wordLimit) (hs : bytes.size ≠ length shape) :
    decode shape bytes = .error (.mismatch (.frame shape) (length shape) bytes.size) := by
  rw [length_eq] at h hs ⊢
  rw [decode]
  have hluma : shape.area < Shape.wordLimit := by omega
  have hchroma : (chroma shape).area < Shape.wordLimit := by omega
  refine bind_eq_error.mpr (Or.inr ⟨_, sampleCount_of_lt hluma, ?_⟩)
  refine bind_eq_error.mpr (Or.inr ⟨_, sampleCount_of_lt hchroma, ?_⟩)
  exact (if_neg (Nat.not_le_of_lt h)).trans (if_pos hs)

theorem Fits.size_samples (h : Fits shape y cb cr) : y.samples.size = shape.area ∧
    cb.samples.size = (chroma shape).area ∧ cr.samples.size = (chroma shape).area :=
  ⟨h.luma ▸ y.size_samples, h.blue ▸ cb.size_samples, h.red ▸ cr.size_samples⟩

theorem extract_joined (h : Fits shape y cb cr) :
    let luma := shape.area
    let blue := (chroma shape).area
    (joined y cb cr).extract 0 luma = y.samples ∧
    (joined y cb cr).extract luma (luma + blue) = cb.samples ∧
    (joined y cb cr).extract (luma + blue) (luma + 2 * blue) = cr.samples := by
  obtain ⟨hy, hcb, hcr⟩ := h.size_samples
  have hstart : (y.samples ++ cb.samples).size = shape.area + (chroma shape).area := by
    rw [Array.size_append, hy, hcb]
  have hstop : shape.area + 2 * (chroma shape).area =
      shape.area + (chroma shape).area + cr.samples.size := by omega
  refine ⟨?_, ?_, ?_⟩
  · simp [joined, ← hy]
  · simp [joined, ← hy, ← hcb]
  · simp only [hstop, ← hstart, joined, Array.extract_append_right, Array.extract_size]

/-- The offsets at which a frame is split are those at which its planes were joined. -/
theorem decode_joined (h : length shape < Shape.wordLimit) (hf : Fits shape y cb cr) :
    decode shape ⟨joined y cb cr⟩ = .ok (ofPlanes shape y cb cr) := by
  have hsize := size_joined hf
  rw [length_eq] at h hsize
  have hluma : shape.area < Shape.wordLimit := by omega
  have hchroma : (chroma shape).area < Shape.wordLimit := by omega
  obtain ⟨hy, hcb, hcr⟩ := extract_joined hf
  rw [decode]
  refine bind_eq_ok.mpr ⟨_, sampleCount_of_lt hluma, ?_⟩
  refine bind_eq_ok.mpr ⟨_, sampleCount_of_lt hchroma, ?_⟩
  refine (if_neg (Nat.not_le_of_lt h)).trans ?_
  refine (if_neg (not_not_intro hsize)).trans ?_
  refine bind_eq_ok.mpr ⟨y, Grid.ofArray_eq_ok.mpr ⟨hluma, hf.luma, hy.symm⟩, ?_⟩
  refine bind_eq_ok.mpr ⟨cb, Grid.ofArray_eq_ok.mpr ⟨hchroma, hf.blue, hcb.symm⟩, ?_⟩
  refine bind_eq_ok.mpr ⟨cr, Grid.ofArray_eq_ok.mpr ⟨hchroma, hf.red, hcr.symm⟩, ?_⟩
  exact assemble_eq_ok.mpr ⟨y, cb, cr, rfl, hf, rfl⟩

/-- The plane whose samples begin at an index of the frame. -/
def planeAt (samples : Array UInt8) (plane : Shape) (start : Nat)
    (h : start + plane.area ≤ samples.size) : Grid UInt8 :=
  ⟨plane, samples.extract start (start + plane.area), by rw [Array.size_extract]; omega⟩

/-- Bytes of the right length are the samples of three planes. -/
theorem exists_joined (h : bytes.size = length shape) :
    ∃ y cb cr, Fits shape y cb cr ∧ bytes = ⟨joined y cb cr⟩ := by
  have hsize : bytes.data.size = shape.area + 2 * (chroma shape).area := length_eq shape ▸ h
  refine ⟨planeAt bytes.data shape 0 (by omega),
    planeAt bytes.data (chroma shape) shape.area (by omega),
    planeAt bytes.data (chroma shape) (shape.area + (chroma shape).area) (by omega),
    ⟨rfl, rfl, rfl⟩, ?_⟩
  have hend : shape.area + (chroma shape).area + (chroma shape).area = bytes.data.size := by omega
  have hluma : shape.area ≤ shape.area + (chroma shape).area := Nat.le_add_right _ _
  apply ByteArray.ext
  simp only [joined, planeAt, hend, Nat.zero_add, Array.extract_append_extract, Nat.zero_min,
    Nat.max_eq_right hluma]
  rw [Nat.max_eq_right (by omega), Array.extract_size]

theorem decode_eq_ok : decode shape bytes = .ok image ↔ length shape < Shape.wordLimit ∧
    ∃ y cb cr, Fits shape y cb cr ∧ bytes = ⟨joined y cb cr⟩ ∧ image = ofPlanes shape y cb cr := by
  constructor
  · intro h
    have hlimit : length shape < Shape.wordLimit := by
      rw [← not_oversize_iff]
      intro ho
      rw [decode_of_oversize ho] at h
      cases h
    have hsize : bytes.size = length shape := by
      by_contra hs
      rw [decode_of_size_ne hlimit hs] at h
      cases h
    obtain ⟨y, cb, cr, hf, rfl⟩ := exists_joined hsize
    rw [decode_joined hlimit hf] at h
    exact ⟨hlimit, y, cb, cr, hf, rfl, (Except.ok.inj h).symm⟩
  · rintro ⟨hlimit, y, cb, cr, hf, rfl, rfl⟩
    exact decode_joined hlimit hf

theorem encode_of_decode (h : decode shape bytes = .ok image) : encode image = .ok bytes := by
  obtain ⟨-, y, cb, cr, -, rfl, rfl⟩ := decode_eq_ok.mp h
  exact encode_ofPlanes

theorem write_of_encode (h : encode image = .ok bytes) :
    RawFormat.frame.write image (Sink.empty none) = (.ok (), ⟨none, bytes⟩) := by
  have hw : RawFormat.frame.write image (Sink.empty none) = (.ok (), ⟨none, .empty ++ bytes⟩) := by
    simp only [RawFormat.write, RawFormat.encode, h]
    rfl
  rw [hw, ByteArray.empty_append]

/-- The three answers to bytes read as a frame. The count comes before the length. -/
theorem decode_cases (shape : Shape) (bytes : ByteArray) :
    (Oversize shape ∧ decode shape bytes = .error (.badShape shape)) ∨
    (¬ Oversize shape ∧ bytes.size ≠ length shape ∧
      decode shape bytes = .error (.mismatch (.frame shape) (length shape) bytes.size)) ∨
    (¬ Oversize shape ∧ bytes.size = length shape ∧ ∃ image, decode shape bytes = .ok image) := by
  by_cases ho : Oversize shape
  · exact Or.inl ⟨ho, decode_of_oversize ho⟩
  · have hlimit := not_oversize_iff.mp ho
    right
    by_cases hs : bytes.size = length shape
    · obtain ⟨y, cb, cr, hf, rfl⟩ := exists_joined hs
      exact Or.inr ⟨ho, hs, _, decode_joined hlimit hf⟩
    · exact Or.inl ⟨ho, hs, decode_of_size_ne hlimit hs⟩

end Frame

/-- Reading a frame answers by its size alone, and what is read is written back byte for byte.
Written images of the layout read back as they were, and no other image is written at all. -/
theorem frame_codec_exact :
    (∀ shape bytes,
      (Frame.decode shape bytes = .error (.badShape shape) ↔ Frame.Oversize shape) ∧
      (∀ other, Frame.decode shape bytes = .error (.badShape other) → other = shape) ∧
      (Frame.decode shape bytes =
          .error (.mismatch (.frame shape) (Frame.length shape) bytes.size) ↔
        ¬ Frame.Oversize shape ∧ bytes.size ≠ Frame.length shape) ∧
      ((∃ image, Frame.decode shape bytes = .ok image) ↔
        ¬ Frame.Oversize shape ∧ bytes.size = Frame.length shape) ∧
      ∀ image, Frame.decode shape bytes = .ok image →
        RawFormat.frame.write image (Sink.empty none) = (.ok (), ⟨none, bytes⟩)) ∧
    (∀ shape grids image, Image.assemble shape .yuv420 grids = .ok image →
      Frame.length shape < Shape.wordLimit →
      ∃ bytes, RawFormat.frame.write image (Sink.empty none) = (.ok (), ⟨none, bytes⟩) ∧
        bytes.size = Frame.length image.shape ∧ Frame.decode image.shape bytes = .ok image) ∧
    ∀ image sink, image.layout ≠ .yuv420 →
      RawFormat.frame.write image sink =
        (.error (.unsupported s!"cannot write {image.layout.name} planes as YUV 4:2:0"), sink) := by
  refine ⟨?_, ?_, ?_⟩
  · intro shape bytes
    refine ⟨?_, ?_, ?_, ?_, fun image h => Frame.write_of_encode (Frame.encode_of_decode h)⟩
    all_goals
      rcases Frame.decode_cases shape bytes with ⟨ho, hd⟩ | ⟨ho, hs, hd⟩ | ⟨ho, hs, image, hd⟩
      <;> simp_all
  · intro shape grids image h hlimit
    obtain ⟨y, cb, cr, -, hf, rfl⟩ := Frame.assemble_eq_ok.mp h
    exact ⟨⟨Frame.joined y cb cr⟩, Frame.write_of_encode Frame.encode_ofPlanes,
      Frame.size_joined hf, Frame.decode_joined hlimit hf⟩
  · intro image sink h
    simp only [RawFormat.write, RawFormat.encode, Frame.encode_of_ne h]

/-- Three columns leave chroma planes of one, and the luma plane alone is no frame. -/
theorem frame_codec_exact_odd :
    let y : Grid UInt8 := ⟨⟨3, 2⟩, #[1, 2, 3, 4, 5, 6], rfl⟩
    let cb : Grid UInt8 := ⟨⟨1, 1⟩, #[7], rfl⟩
    let cr : Grid UInt8 := ⟨⟨1, 1⟩, #[8], rfl⟩
    let image := Frame.ofPlanes ⟨3, 2⟩ y cb cr
    let bytes : ByteArray := ⟨#[1, 2, 3, 4, 5, 6, 7, 8]⟩
    (Frame.decode ⟨3, 2⟩ bytes = .ok image ∧
      RawFormat.frame.write image (Sink.empty none) = (.ok (), ⟨none, bytes⟩)) ∧
    ((Image.assemble ⟨3, 2⟩ .yuv420 [y, cb, cr] = .ok image ∧
      Frame.length ⟨3, 2⟩ < Shape.wordLimit) ∧
      ∃ bytes, RawFormat.frame.write image (Sink.empty none) = (.ok (), ⟨none, bytes⟩) ∧
        bytes.size = Frame.length image.shape ∧ Frame.decode image.shape bytes = .ok image) ∧
    (Image.single .y y).layout ≠ .yuv420 ∧
    RawFormat.frame.write (Image.single .y y) (Sink.empty (some 0)) =
      (.error (.unsupported "cannot write Single planes as YUV 4:2:0"), Sink.empty (some 0)) := by
  intro y cb cr image bytes
  have hread : Frame.decode ⟨3, 2⟩ bytes = .ok image := by cbv
  have himage : Image.assemble ⟨3, 2⟩ .yuv420 [y, cb, cr] = .ok image := by cbv
  have hlimit : Frame.length ⟨3, 2⟩ < Shape.wordLimit := by decide
  have hlayout : (Image.single .y y).layout ≠ .yuv420 := by decide
  exact ⟨⟨hread, (frame_codec_exact.1 ⟨3, 2⟩ bytes).2.2.2.2 image hread⟩,
    ⟨⟨himage, hlimit⟩, frame_codec_exact.2.1 ⟨3, 2⟩ _ image himage hlimit⟩,
    hlayout, frame_codec_exact.2.2 _ (Sink.empty (some 0)) hlayout⟩

end Planar
