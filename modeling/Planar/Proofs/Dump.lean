import Planar.Proofs.Image
import Planar.Proofs.Text
import Planar.Sink
import Planar.Source

/-! Written dumps read back, and there is one for each grid of a shape. -/
namespace Planar

theorem Utf8.decode_toUTF8 (text : String) : Utf8.decode text.toUTF8 = .ok text := by
  have hread : String.fromUTF8? text.toUTF8 = some text := dif_pos text.isValidUTF8
  rw [Utf8.decode, hread]

namespace Dump

variable {shape : Shape} {bytes : ByteArray} {grid : Grid UInt8}

/-- How a dump spells a sample. -/
def spelling (v : UInt8) : List Char := (toString v.toNat).toList

theorem sample?_spelling (v : UInt8) : sample? (spelling v) = some v := by
  rw [sample?, spelling, Decimal.readNat?_toString v.toNat_lt]
  simp

theorem readWord_of_letters {word : Word} {v : UInt8} (h : word.letters = spelling v) :
    readWord word = .ok v := by
  rw [readWord, h, sample?_spelling]

theorem toList_render (grid : Grid UInt8) :
    (render grid).toList = (grid.rows.map fun row => row.toList.map spelling).flatMap
      fun row => [' '].intercalate row ++ ['\n'] := by
  rw [render, String.toList_join, List.flatMap_map, List.flatMap_map]
  apply List.flatMap_congr
  intro row _
  rw [String.toList_append, String.toList_intercalate, List.map_map]
  rfl

theorem letters_words_render (grid : Grid UInt8) :
    (words (render grid)).map Word.letters = grid.samples.toList.map spelling := by
  have hsolid : ∀ row ∈ grid.rows.map fun row => row.toList.map spelling, ∀ w ∈ row, Solid w := by
    intro row hrow w hw
    obtain ⟨samples, -, rfl⟩ := List.mem_map.mp hrow
    obtain ⟨v, -, rfl⟩ := List.mem_map.mp hw
    exact Decimal.solid_toString v.toNat
  rw [words, toList_render, letters_wordsFrom_lines hsolid, ← Grid.flatten_rows, List.map_flatten,
    List.map_map]
  rfl

theorem mapM_words_render (grid : Grid UInt8) :
    (words (render grid)).mapM readWord = .ok grid.samples.toList := by
  have hletters := letters_words_render grid
  rw [← List.forall₂_eq_eq_eq, List.forall₂_map_left_iff, List.forall₂_map_right_iff] at hletters
  exact mapM_eq_ok.mpr (hletters.imp fun _ _ h => readWord_of_letters h)

theorem decode_encode (h : grid.shape.area < Shape.wordLimit) :
    decode grid.shape (encode grid) = .ok grid := by
  have hlength : grid.samples.toList.length = grid.shape.area := by
    rw [Array.length_toList, grid.size_samples]
  rw [decode, encode, Utf8.decode_toUTF8]
  refine bind_eq_ok.mpr ⟨render grid, rfl, bind_eq_ok.mpr ⟨_, sampleCount_eq_ok.mpr ⟨h, rfl⟩, ?_⟩⟩
  refine bind_eq_ok.mpr ⟨_, mapM_words_render grid, ?_⟩
  rw [if_neg (not_not_intro hlength)]
  exact Grid.ofArray_samples h

theorem decode_shape (h : decode shape bytes = .ok grid) :
    shape.area < Shape.wordLimit ∧ grid.shape = shape := by
  obtain ⟨text, -, h⟩ := bind_eq_ok.mp h
  obtain ⟨expected, -, h⟩ := bind_eq_ok.mp h
  obtain ⟨samples, -, h⟩ := bind_eq_ok.mp h
  split at h
  · cases h
  · obtain ⟨hlt, hshape, -⟩ := Grid.ofArray_eq_ok.mp h
    exact ⟨hlt, hshape⟩

/-- Reading a dump and writing it again keeps what was read. -/
theorem decode_encode_of_decode (h : decode shape bytes = .ok grid) :
    decode shape (encode grid) = .ok grid := by
  obtain ⟨hlt, rfl⟩ := decode_shape h
  exact decode_encode hlt

theorem encode_injective {a b : Grid UInt8} (ha : decode shape (encode a) = .ok a)
    (hb : decode shape (encode b) = .ok b) (h : encode a = encode b) : a = b := by
  rw [h, hb] at ha
  exact (Except.ok.inj ha).symm

end Dump

section
variable [PictureDecoder]

theorem decode_dump_eq_ok {shape : Shape} {channel : Channel} {bytes : ByteArray} {image : Image} :
    (SourceFormat.dump shape channel).decode bytes = .ok image ↔
      ∃ grid, Dump.decode shape bytes = .ok grid ∧ image = Image.single channel grid := by
  rw [SourceFormat.decode]
  cases Dump.decode shape bytes with
  | error fault => simp [Except.map]
  | ok grid => simp [Except.map, eq_comm]

/-- Dumps hold a grid whatever was read to get it: writing then reading gives the grid back, and
among grids of one shape the written dump tells them apart. Arrays have lengths below the word
limit. -/
theorem dump_canonical (channel : Channel) :
    (∀ grid : Grid UInt8, grid.samples.size < Shape.wordLimit →
      ∃ bytes, (Sink.empty none).write (Dump.encode grid) = (.ok (), ⟨none, bytes⟩) ∧
        (SourceFormat.dump grid.shape channel).decode bytes = .ok (Image.single channel grid)) ∧
    (∀ shape bytes image, (SourceFormat.dump shape channel).decode bytes = .ok image →
      ∃ grid, image = Image.single channel grid ∧ grid.shape = shape ∧
        (SourceFormat.dump shape channel).decode (Dump.encode grid) = .ok image) ∧
    ∀ shape bytes₁ bytes₂ grid₁ grid₂,
      (SourceFormat.dump shape channel).decode bytes₁ = .ok (Image.single channel grid₁) →
      (SourceFormat.dump shape channel).decode bytes₂ = .ok (Image.single channel grid₂) →
      (grid₁ = grid₂ ↔ Dump.encode grid₁ = Dump.encode grid₂) := by
  refine ⟨?_, ?_, ?_⟩
  · intro grid h
    rw [grid.size_samples] at h
    refine ⟨ByteArray.empty ++ Dump.encode grid, rfl, ?_⟩
    rw [ByteArray.empty_append]
    exact decode_dump_eq_ok.mpr ⟨grid, Dump.decode_encode h, rfl⟩
  · intro shape bytes image h
    obtain ⟨grid, hread, rfl⟩ := decode_dump_eq_ok.mp h
    have hagain := Dump.decode_encode_of_decode hread
    exact ⟨grid, rfl, (Dump.decode_shape hread).2, decode_dump_eq_ok.mpr ⟨grid, hagain, rfl⟩⟩
  · intro shape bytes₁ bytes₂ grid₁ grid₂ h₁ h₂
    obtain ⟨grid₁', hread₁, he₁⟩ := decode_dump_eq_ok.mp h₁
    obtain ⟨grid₂', hread₂, he₂⟩ := decode_dump_eq_ok.mp h₂
    obtain rfl : grid₁ = grid₁' := Image.single_injective he₁
    obtain rfl : grid₂ = grid₂' := Image.single_injective he₂
    constructor
    · exact fun h => congrArg Dump.encode h
    · exact Dump.encode_injective (Dump.decode_encode_of_decode hread₁)
        (Dump.decode_encode_of_decode hread₂)

end

/-- Seven and 255 in one row, spelled as no dump is written, next to 72 and 55. -/
theorem dump_canonical_signed :
    let format := SourceFormat.dump ⟨2, 1⟩ .y
    let grid : Grid UInt8 := ⟨⟨2, 1⟩, #[7, 255], rfl⟩
    let other : Grid UInt8 := ⟨⟨2, 1⟩, #[72, 55], rfl⟩
    (grid.samples.size < Shape.wordLimit ∧
      format.decode "+7\t\n0255".toUTF8 = .ok (Image.single .y grid) ∧
      format.decode "72 55\r\n".toUTF8 = .ok (Image.single .y other)) ∧
    (∃ bytes, (Sink.empty none).write (Dump.encode grid) = (.ok (), ⟨none, bytes⟩) ∧
      format.decode bytes = .ok (Image.single .y grid)) ∧
    (∃ again, Image.single .y grid = Image.single .y again ∧ again.shape = ⟨2, 1⟩ ∧
      format.decode (Dump.encode again) = .ok (Image.single .y grid)) ∧
    (grid = other ↔ Dump.encode grid = Dump.encode other) := by
  intro format grid other
  have hsize : grid.samples.size < Shape.wordLimit := by decide
  have hgrid : format.decode "+7\t\n0255".toUTF8 = .ok (Image.single .y grid) := by cbv
  have hother : format.decode "72 55\r\n".toUTF8 = .ok (Image.single .y other) := by cbv
  exact ⟨⟨hsize, hgrid, hother⟩, (dump_canonical .y).1 grid hsize,
    (dump_canonical .y).2.1 ⟨2, 1⟩ _ _ hgrid,
    (dump_canonical .y).2.2 ⟨2, 1⟩ _ _ grid other hgrid hother⟩

end Planar
