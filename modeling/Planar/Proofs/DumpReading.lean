import Planar.Proofs.Dump
import Planar.Proofs.Numerals
import Planar.Proofs.Runs

/-! What reading any bytes as a dump comes to. The bytes decide it through the words of their text
alone, so blanks count for nothing but the line that a bad word is reported on. -/
namespace Planar

theorem Utf8.decode_eq_ok {bytes : ByteArray} {text : String} :
    Utf8.decode bytes = .ok text ↔ text.toUTF8 = bytes := by
  constructor
  · intro h
    unfold Utf8.decode String.fromUTF8? at h
    split at h
    · rename_i hread
      split at hread
      · obtain rfl := Option.some.inj hread
        obtain rfl := Except.ok.inj h
        rfl
      · cases hread
    · cases h
  · rintro rfl
    exact Utf8.decode_toUTF8 text

theorem Utf8.exists_of_isValid {bytes : ByteArray} (h : bytes.IsValidUTF8) :
    ∃ text : String, text.toUTF8 = bytes := ⟨String.fromUTF8 bytes h, rfl⟩

namespace Dump

/-- What reading a dump comes to. The causes of failure stand in the order in which they are looked
for, and each comes only after those above it. -/
inductive Outcome (shape : Shape) (channel : Channel) (bytes : ByteArray) :
    Except Fault Image → Prop where
  | notUtf8 {flaw : Utf8.Flaw} (hinvalid : ¬ bytes.IsValidUTF8)
      (hflaw : Utf8.decode bytes = .error flaw) :
      Outcome shape channel bytes (.error (.decode (.notUtf8 flaw)))
  | badShape (hvalid : bytes.IsValidUTF8) (harea : Shape.wordLimit ≤ shape.area) :
      Outcome shape channel bytes (.error (.badShape shape))
  | badSample {text : String} {before after : List Run} {run : Run} (htext : text.toUTF8 = bytes)
      (harea : shape.area < Shape.wordLimit) (hruns : Runs text.toList (before ++ run :: after))
      (hbefore : ∀ r ∈ before, IsSample r.letters) (hrun : ¬ IsSample run.letters) :
      Outcome shape channel bytes
        (.error (.decode (.badSample run.line (String.ofList run.letters))))
  | mismatch {text : String} {runs : List Run} (htext : text.toUTF8 = bytes)
      (harea : shape.area < Shape.wordLimit) (hruns : Runs text.toList runs)
      (hsamples : ∀ r ∈ runs, IsSample r.letters) (hcount : runs.length ≠ shape.area) :
      Outcome shape channel bytes (.error (.mismatch (.dump shape) shape.area runs.length))
  | read {text : String} {runs : List Run} {grid : Grid UInt8} (htext : text.toUTF8 = bytes)
      (harea : shape.area < Shape.wordLimit) (hruns : Runs text.toList runs)
      (hcount : runs.length = shape.area) (hshape : grid.shape = shape)
      (hsamples : ∀ k run, runs[k]? = some run →
        ∃ (row : Fin grid.height) (col : Fin grid.width), row.val = k / shape.width ∧
          col.val = k % shape.width ∧ Spells run.letters (grid.get row col).toNat) :
      Outcome shape channel bytes (.ok (Image.single channel grid))

section
variable {shape : Shape} {bytes : ByteArray} {grid : Grid UInt8} {text : String}
  {runs : List Run} {samples : List UInt8} {ws : List Word}

theorem readWord_eq_ok {word : Word} {v : UInt8} :
    readWord word = .ok v ↔ sample? word.letters = some v := by
  unfold readWord
  split <;> simp_all

theorem readWord_eq_error {word : Word} {fault : Fault} :
    readWord word = .error fault ↔ ¬ IsSample word.letters ∧
      fault = .decode (.badSample word.line (String.ofList word.letters)) := by
  rw [isSample_iff, readWord]
  cases sample? word.letters <;> simp [eq_comm]

theorem mapM_readWord_eq_ok :
    ws.mapM readWord = .ok samples ↔ (ws.map Word.letters).map sample? = samples.map some := by
  rw [mapM_eq_ok, ← List.forall₂_eq_eq_eq, List.map_map, List.forall₂_map_left_iff,
    List.forall₂_map_right_iff]
  simp only [readWord_eq_ok, Function.comp_apply]

theorem exists_mapM_readWord (h : ∀ r ∈ runs, IsSample r.letters) :
    ∃ samples, (runs.map (Run.toWord 1)).mapM readWord = .ok samples ∧
      samples.length = runs.length := by
  have hall : ∀ word ∈ runs.map (Run.toWord 1), ∃ v, readWord word = .ok v := by
    intro word hword
    obtain ⟨run, hrun, rfl⟩ := List.mem_map.mp hword
    obtain ⟨v, hv⟩ := isSample_iff.mp (h run hrun)
    exact ⟨v, readWord_eq_ok.mpr hv⟩
  obtain ⟨samples, hread⟩ := exists_mapM_eq_ok.mpr hall
  exact ⟨samples, hread, by rw [(mapM_eq_ok_at.mp hread).1, List.length_map]⟩

theorem decode_toUTF8 (shape : Shape) (text : String) :
    decode shape text.toUTF8 =
      sampleCount shape >>= fun expected => (words text).mapM readWord >>= fun samples =>
        if samples.length ≠ expected then .error (.mismatch (.dump shape) expected samples.length)
        else Grid.ofArray shape samples.toArray := by
  rw [decode, Utf8.decode_toUTF8]
  rfl

theorem decode_of_area (h : Shape.wordLimit ≤ shape.area) :
    decode shape text.toUTF8 = .error (.badShape shape) := by
  rw [decode_toUTF8]
  exact bind_eq_error.mpr (Or.inl (sampleCount_eq_error.mpr ⟨h, rfl⟩))

theorem decode_of_bad_word {fault : Fault} (h : shape.area < Shape.wordLimit)
    (hread : (words text).mapM readWord = .error fault) :
    decode shape text.toUTF8 = .error fault := by
  rw [decode_toUTF8, sampleCount_of_lt h]
  exact bind_eq_error.mpr (Or.inr ⟨_, rfl, bind_eq_error.mpr (Or.inl hread)⟩)

theorem decode_of_samples (h : shape.area < Shape.wordLimit)
    (hread : (words text).mapM readWord = .ok samples) :
    decode shape text.toUTF8 =
      if samples.length ≠ shape.area then
        .error (.mismatch (.dump shape) shape.area samples.length)
      else Grid.ofArray shape samples.toArray := by
  rw [decode_toUTF8, sampleCount_of_lt h, hread]
  rfl

theorem decode_of_count (h : shape.area < Shape.wordLimit)
    (hread : (words text).mapM readWord = .ok samples) (hcount : samples.length ≠ shape.area) :
    decode shape text.toUTF8 = .error (.mismatch (.dump shape) shape.area samples.length) := by
  rw [decode_of_samples h hread, if_pos hcount]

theorem decode_of_grid (h : shape.area < Shape.wordLimit) (hshape : grid.shape = shape)
    (hread : (words text).mapM readWord = .ok grid.samples.toList) :
    decode shape text.toUTF8 = .ok grid := by
  subst hshape
  have hcount : grid.samples.toList.length = grid.shape.area := by
    rw [Array.length_toList, grid.size_samples]
  rw [decode_of_samples h hread, if_neg (not_not_intro hcount)]
  exact Grid.ofArray_samples h

theorem mapM_readWord_of_first {before after : List Run} {run : Run}
    (hbefore : ∀ r ∈ before, IsSample r.letters) (hrun : ¬ IsSample run.letters) :
    ((before ++ run :: after).map (Run.toWord 1)).mapM readWord =
      .error (.decode (.badSample run.line (String.ofList run.letters))) := by
  refine mapM_eq_error.mpr ⟨_, run.toWord 1, _, by rw [List.map_append, List.map_cons], ?_,
    readWord_eq_error.mpr ⟨hrun, rfl⟩⟩
  intro word hword
  obtain ⟨r, hr, rfl⟩ := List.mem_map.mp hword
  obtain ⟨v, hv⟩ := isSample_iff.mp (hbefore r hr)
  exact ⟨v, readWord_eq_ok.mpr hv⟩

theorem readWord_toWord_eq_ok {run : Run} {v : UInt8} :
    readWord (run.toWord 1) = .ok v ↔ Spells run.letters v.toNat :=
  readWord_eq_ok.trans sample?_eq_some_iff

/-- Words read in text order are the samples row by row. -/
theorem mapM_readWord_eq_ok_iff (hcount : runs.length = grid.shape.area) :
    (runs.map (Run.toWord 1)).mapM readWord = .ok grid.samples.toList ↔
      ∀ k run, runs[k]? = some run →
        ∃ (row : Fin grid.height) (col : Fin grid.width), row.val = k / grid.shape.width ∧
          col.val = k % grid.shape.width ∧ Spells run.letters (grid.get row col).toNat := by
  have hget : ∀ k (hk : k < grid.shape.area), grid.samples.toList[k]? =
      some (grid.get (Grid.rowOf ⟨k, hk⟩) (Grid.colOf ⟨k, hk⟩)) := by
    intro k hk
    rw [Array.getElem?_toList]
    exact Grid.get_of_flat ⟨k, hk⟩
  rw [mapM_eq_ok_at]
  constructor
  · rintro ⟨-, hread⟩ k run hrun
    have hk : k < grid.shape.area := hcount ▸ (List.getElem?_eq_some_iff.mp hrun).1
    obtain ⟨v, hv, hword⟩ := hread k (run.toWord 1) (by rw [List.getElem?_map, hrun]; rfl)
    obtain rfl := Option.some.inj ((hget k hk).symm.trans hv)
    exact ⟨Grid.rowOf ⟨k, hk⟩, Grid.colOf ⟨k, hk⟩, rfl, rfl, readWord_toWord_eq_ok.mp hword⟩
  · intro hread
    refine ⟨by simp [hcount, grid.size_samples], ?_⟩
    intro k word hword
    rw [List.getElem?_map, Option.map_eq_some_iff] at hword
    obtain ⟨run, hrun, rfl⟩ := hword
    have hk : k < grid.shape.area := hcount ▸ (List.getElem?_eq_some_iff.mp hrun).1
    obtain ⟨row, col, hrow, hcol, hspells⟩ := hread k run hrun
    obtain rfl : row = Grid.rowOf ⟨k, hk⟩ := Fin.ext hrow
    obtain rfl : col = Grid.colOf ⟨k, hk⟩ := Fin.ext hcol
    exact ⟨_, hget k hk, readWord_toWord_eq_ok.mpr hspells⟩

/-- The outcome is the one that reading gives, whichever text and runs it was found with. -/
theorem Outcome.decode_eq [PictureDecoder] {channel : Channel} {result : Except Fault Image}
    (h : Outcome shape channel bytes result) :
    (SourceFormat.dump shape channel).decode bytes = result := by
  cases h with
  | notUtf8 hinvalid hflaw =>
    rw [SourceFormat.decode, decode, hflaw]
    rfl
  | badShape hvalid harea =>
    obtain ⟨text, rfl⟩ := Utf8.exists_of_isValid hvalid
    rw [SourceFormat.decode, decode_of_area harea]
    rfl
  | badSample htext harea hruns hbefore hrun =>
    subst htext
    rw [SourceFormat.decode, decode_of_bad_word harea]
    · rfl
    · rw [words_eq_map hruns, mapM_readWord_of_first hbefore hrun]
  | mismatch htext harea hruns hsamples hcount =>
    subst htext
    obtain ⟨samples, hread, hlength⟩ := exists_mapM_readWord hsamples
    rw [← words_eq_map hruns] at hread
    rw [← hlength] at hcount ⊢
    rw [SourceFormat.decode, decode_of_count harea hread hcount]
    rfl
  | read htext harea hruns hcount hshape hsamples =>
    subst htext hshape
    rw [← mapM_readWord_eq_ok_iff hcount, ← words_eq_map hruns] at hsamples
    rw [SourceFormat.decode, decode_of_grid harea rfl hsamples]
    rfl

theorem exists_outcome (shape : Shape) (channel : Channel) (bytes : ByteArray) :
    ∃ result, Outcome shape channel bytes result := by
  by_cases hvalid : bytes.IsValidUTF8
  · obtain ⟨text, htext⟩ := Utf8.exists_of_isValid hvalid
    rcases Nat.lt_or_ge shape.area Shape.wordLimit with harea | harea
    · obtain ⟨runs, hruns, -⟩ := exists_runs text.toList
      cases hfind : runs.find? fun r => decide (¬ IsSample r.letters) with
      | some run =>
        obtain ⟨hrun, before, after, rfl, hbefore⟩ := List.find?_eq_some_iff_append.mp hfind
        exact ⟨_, .badSample htext harea hruns (by simpa using hbefore) (by simpa using hrun)⟩
      | none =>
        have hsamples : ∀ r ∈ runs, IsSample r.letters := by
          simpa using List.find?_eq_none.mp hfind
        by_cases hcount : runs.length = shape.area
        · obtain ⟨samples, hread, hlength⟩ := exists_mapM_readWord hsamples
          let grid : Grid UInt8 := ⟨shape, samples.toArray, hlength.trans hcount⟩
          have hgrid : (runs.map (Run.toWord 1)).mapM readWord = .ok grid.samples.toList := hread
          exact ⟨_, .read htext harea hruns hcount rfl ((mapM_readWord_eq_ok_iff hcount).mp hgrid)⟩
        · exact ⟨_, .mismatch htext harea hruns hsamples hcount⟩
    · exact ⟨_, .badShape hvalid harea⟩
  · cases hflaw : Utf8.decode bytes with
    | error flaw => exact ⟨_, .notUtf8 hvalid hflaw⟩
    | ok text =>
      obtain rfl := Utf8.decode_eq_ok.mp hflaw
      exact (hvalid text.isValidUTF8).elim

/-- Only the line of a bad word can tell texts with the same words apart. -/
theorem decode_congr [PictureDecoder] {text' : String} {channel : Channel}
    {result : Except Fault Image}
    (hwords : (words text).map Word.letters = (words text').map Word.letters)
    (hresult : ∀ cause, result ≠ .error (.decode cause))
    (h : (SourceFormat.dump shape channel).decode text.toUTF8 = result) :
    (SourceFormat.dump shape channel).decode text'.toUTF8 = result := by
  suffices hsame : decode shape text.toUTF8 = decode shape text'.toUTF8 by
    rw [← h, SourceFormat.decode, SourceFormat.decode, hsame]
  rcases Nat.lt_or_ge shape.area Shape.wordLimit with harea | harea
  · cases hread : (words text).mapM readWord with
    | error fault =>
      obtain ⟨_, word, _, -, -, hword⟩ := mapM_eq_error.mp hread
      obtain ⟨-, rfl⟩ := readWord_eq_error.mp hword
      rw [SourceFormat.decode, decode_of_bad_word harea hread] at h
      exact (hresult _ h.symm).elim
    | ok samples =>
      have hread' : (words text').mapM readWord = .ok samples := by
        rw [mapM_readWord_eq_ok, ← hwords]
        exact mapM_readWord_eq_ok.mp hread
      rw [decode_of_samples harea hread, decode_of_samples harea hread']
  · rw [decode_of_area harea, decode_of_area harea]

end

end Dump

/-- Bytes read as a dump have exactly one outcome. Setting words apart by other blanks changes no
outcome but the one that tells of a bad word. -/
theorem dump_reading_exact [PictureDecoder] (shape : Shape) (channel : Channel) :
    let read := (SourceFormat.dump shape channel).decode
    (∀ bytes result, read bytes = result ↔ Dump.Outcome shape channel bytes result) ∧
    ∀ front gap gap' back, Gap gap → Gap gap' →
      ∀ result, (∀ cause, result ≠ .error (.decode cause)) →
        (read (String.ofList (front ++ gap ++ back)).toUTF8 = result ↔
          read (String.ofList (front ++ gap' ++ back)).toUTF8 = result) := by
  refine ⟨?_, ?_⟩
  · intro bytes result
    constructor
    · rintro rfl
      obtain ⟨result, hresult⟩ := Dump.exists_outcome shape channel bytes
      rwa [hresult.decode_eq]
    · exact Dump.Outcome.decode_eq
  · intro front gap gap' back hgap hgap' result hresult
    have hwords : (words (String.ofList (front ++ gap ++ back))).map Word.letters =
        (words (String.ofList (front ++ gap' ++ back))).map Word.letters :=
      (letters_words_gap hgap).trans (letters_words_gap hgap').symm
    exact ⟨Dump.decode_congr hwords hresult, Dump.decode_congr hwords.symm hresult⟩

/-- A row of two samples with an odd gap between them, and a word too large on the second line of
a text that holds too many words. -/
theorem dump_reading_exact_folded :
    let read := (SourceFormat.dump ⟨2, 1⟩ .y).decode
    let image := Image.single .y ⟨⟨2, 1⟩, #[7, 9], rfl⟩
    (Gap [' '] ∧ Gap ['\r', '\n', '\u2003'] ∧
      (∀ cause, (Except.ok image : Except Fault Image) ≠ .error (.decode cause)) ∧
      read "7 +009".toUTF8 = .ok image) ∧
    read "7\r\n\u2003+009".toUTF8 = .ok image ∧
    Dump.Outcome ⟨2, 1⟩ .y "7\n+256 -1".toUTF8 (.error (.decode (.badSample 2 "+256"))) := by
  intro read image
  have hspace : Gap [' '] := ⟨by simp, by simp [isBlank]⟩
  have hfeed : Gap ['\r', '\n', '\u2003'] := ⟨by simp, by simp [isBlank]⟩
  have hok : ∀ cause, (Except.ok image : Except Fault Image) ≠ .error (.decode cause) := by
    intro cause h
    cases h
  have hread : read "7 +009".toUTF8 = .ok image := by cbv
  have hbad : read "7\n+256 -1".toUTF8 = .error (.decode (.badSample 2 "+256")) := by cbv
  obtain ⟨hexact, hgaps⟩ := dump_reading_exact ⟨2, 1⟩ .y
  exact ⟨⟨hspace, hfeed, hok, hread⟩,
    (hgaps ['7'] _ _ ['+', '0', '0', '9'] hspace hfeed _ hok).mp hread, (hexact _ _).mp hbad⟩

end Planar
