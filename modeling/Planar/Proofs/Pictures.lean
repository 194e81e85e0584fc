import Planar.Proofs.Drawings
import Planar.Proofs.Image

/-! The pictures of a comparison, and the files they are in. -/
namespace Planar

namespace Image

/-- What tells the pictures of an image's planes apart. -/
def pictureKeys (image : Image) : List (Artifact.Kind × Option Channel) :=
  image.planes.flatMap fun plane =>
    [(.histogram, image.named? plane), (.heatMap, image.named? plane)]

theorem WellFormed.nodup_pictureKeys {image : Image} (hw : image.WellFormed) :
    image.pictureKeys.Nodup := by
  by_cases hmany : 1 < image.planes.length
  · have hlayout : image.layout ≠ .single := by
      intro hsingle
      rw [hw.count, hsingle] at hmany
      exact absurd hmany (by decide)
    have hkeys : image.pictureKeys = image.layout.channels.flatMap fun channel =>
        [(.histogram, some channel), (.heatMap, some channel)] := by
      rw [pictureKeys, ← hw.channels hlayout, List.flatMap_map]
      simp only [named?, if_pos hmany]
    rw [hkeys]
    cases image.layout <;> decide
  · match hplanes : image.planes with
    | [] => simp [pictureKeys, hplanes]
    | [plane] => simp [pictureKeys, hplanes]
    | _ :: _ :: _ => simp [hplanes] at hmany

end Image

variable {α : Type} {comparer : Comparer α} {native reference candidate : Labelled}

namespace Comparer

/-- For each plane of the reference, in order, the paths of its histogram and of its heat map. -/
def picturePaths (comparer : Comparer α) (reference candidate : Labelled) : List String :=
  reference.image.planes.flatMap fun plane =>
    [comparer.picturePath reference candidate .histogram plane,
      comparer.picturePath reference candidate .heatMap plane]

theorem inside_picturePath (hext : '/' ∉ comparer.encoder.extension.toList) {drawing : Drawing}
    {kind : Artifact.Kind} {plane : Plane}
    (h : drawing.path = comparer.picturePath reference candidate kind plane) :
    comparer.Inside drawing :=
  ⟨_, Artifact.slash_not_mem_fileName hext, h⟩

/-- No two pictures of a comparison share a path. -/
theorem nodup_picturePaths (hw : reference.image.WellFormed) :
    (comparer.picturePaths reference candidate).Nodup := by
  have hpaths : comparer.picturePaths reference candidate =
      reference.image.pictureKeys.map fun key => Artifact.path comparer.config.folder key.1 key.2
        reference.label candidate.label comparer.encoder.extension := by
    rw [Image.pictureKeys, List.map_flatMap]
    rfl
  rw [hpaths]
  refine hw.nodup_pictureKeys.map ?_
  rintro ⟨kind, channel⟩ ⟨kind', channel'⟩ hsame
  obtain ⟨hkind, hchannel⟩ := Artifact.fileName_injective (Path.join_injective hsame)
  exact Prod.ext hkind hchannel

variable [Scalar α]

variable {pairs : List (Plane × Plane)} {pair : Plane × Plane} {maps : List (DifferenceMap α)}
  {map : DifferenceMap α} {drawing : Drawing}

theorem drawings_eq (h : comparer.config.writePictures = true) :
    comparer.drawings reference candidate pair map =
      [⟨comparer.picturePath reference candidate .histogram pair.1,
          comparer.picture map .histogram⟩,
        ⟨comparer.picturePath reference candidate .heatMap pair.1,
          comparer.picture map .heatMap⟩] :=
  if_pos h

theorem mem_drawings (h : comparer.config.writePictures = true)
    (hd : drawing ∈ comparer.drawings reference candidate pair map) :
    ∃ kind, drawing = ⟨comparer.picturePath reference candidate kind pair.1,
      comparer.picture map kind⟩ := by
  rw [drawings_eq h] at hd
  rcases List.mem_cons.mp hd with rfl | hd
  · exact ⟨.histogram, rfl⟩
  · obtain rfl := List.mem_singleton.mp hd
    exact ⟨.heatMap, rfl⟩

theorem mem_drawings_of_kind (h : comparer.config.writePictures = true) (kind : Artifact.Kind) :
    ⟨comparer.picturePath reference candidate kind pair.1, comparer.picture map kind⟩ ∈
      comparer.drawings reference candidate pair map := by
  rw [drawings_eq h]
  cases kind with
  | histogram => exact List.mem_cons_self
  | heatMap => exact List.mem_cons_of_mem _ List.mem_cons_self

/-- Every plane of the reference is drawn, in order. -/
theorem map_path_drawings (comparer : Comparer α) (h : comparer.config.writePictures = true)
    (hcount : reference.image.planes.length = candidate.image.planes.length)
    (hmaps : maps.length = reference.image.planes.length) :
    (List.zipWith (comparer.drawings reference candidate)
      (reference.image.planes.zip candidate.image.planes) maps).flatten.map Drawing.path =
        comparer.picturePaths reference candidate := by
  obtain ⟨pairs, hpairs⟩ : ∃ pairs, pairs = reference.image.planes.zip candidate.image.planes :=
    ⟨_, rfl⟩
  rw [← hpairs]
  have hlen : pairs.length ≤ maps.length := by
    rw [hmaps, hpairs, List.length_zip]
    exact Nat.min_le_left _ _
  have hplanes : ((pairs.zip maps).map Prod.fst).map Prod.fst = reference.image.planes := by
    rw [List.map_fst_zip hlen, hpairs, List.map_fst_zip hcount.le]
  calc _ = (List.zipWith (fun pair _ =>
            [comparer.picturePath reference candidate .histogram pair.1,
              comparer.picturePath reference candidate .heatMap pair.1]) pairs maps).flatten := by
        rw [List.map_flatten, List.map_zipWith]
        simp only [drawings_eq h, List.map_cons, List.map_nil]
    _ = ((pairs.zip maps).map fun drawn =>
            [comparer.picturePath reference candidate .histogram drawn.1.1,
              comparer.picturePath reference candidate .heatMap drawn.1.1]).flatten := by
        rw [List.zip, List.map_zipWith]
    _ = comparer.picturePaths reference candidate := by
        rw [picturePaths, ← hplanes, List.map_map, List.flatMap_map, List.flatMap_def]
        rfl

/-- A picture's encoding is in a file right in the configured folder. -/
def Holds (comparer : Comparer α) (disk : Disk) (path : String) (picture : Picture) : Prop :=
  ∃ home name bytes, disk.findFolder (Path.parts comparer.config.folder) = .ok home ∧
    '/' ∉ name.toList ∧ path = Path.join comparer.config.folder name ∧
    comparer.encoder.encode picture = .ok bytes ∧
    disk.entry? (home ++ [name]) = some (.file bytes) ∧ disk.read path = .ok bytes

omit [Scalar α] in
theorem Stored.holds {disk : Disk} {place : Place} {bytes : ByteArray}
    (hinside : comparer.Inside drawing) (h : comparer.Stored disk drawing place bytes) :
    comparer.Holds disk drawing.path drawing.picture := by
  obtain ⟨name, hname, hpath⟩ := hinside
  obtain ⟨home, hhome, rfl⟩ := Disk.leads_join hname (hpath ▸ h.leads)
  exact ⟨home, name, bytes, hhome, hname, hpath, h.encoded, h.file, h.leads.read h.file⟩

variable [Analytic α] {world after : World α} {report : Report α} {drawings : List Drawing}

/-- A drawing that a comparison makes: some picture of the differences of two paired planes. -/
def Draws (comparer : Comparer α) (reference candidate : Labelled) (drawing : Drawing) : Prop :=
  ∃ (i : Nat) (r c : Plane) (map : DifferenceMap α) (kind : Artifact.Kind),
    reference.image.planes[i]? = some r ∧ candidate.image.planes[i]? = some c ∧
      difference α (r, c) = .ok map ∧
      drawing = ⟨comparer.picturePath reference candidate kind r, comparer.picture map kind⟩

omit [Analytic α] in
theorem mem_flatten_drawings (h : comparer.config.writePictures = true)
    (hmaps : (reference.image.planes.zip candidate.image.planes).mapM (difference α) = .ok maps) :
    drawing ∈ (List.zipWith (comparer.drawings reference candidate)
      (reference.image.planes.zip candidate.image.planes) maps).flatten ↔
        comparer.Draws reference candidate drawing := by
  rw [List.mem_flatten]
  constructor
  · rintro ⟨drawn, hdrawn, hmem⟩
    obtain ⟨i, hi⟩ := List.mem_iff_getElem?.mp hdrawn
    obtain ⟨pair, map, hpair, hmap, rfl⟩ := List.getElem?_zipWith_eq_some.mp hi
    obtain ⟨pair', hpair', hdifference⟩ := getElem?_of_mapM hmaps hmap
    obtain rfl := Option.some.inj (hpair.symm.trans hpair')
    obtain ⟨hr, hc⟩ := List.getElem?_zip_eq_some.mp hpair
    obtain ⟨kind, rfl⟩ := mem_drawings h hmem
    exact ⟨i, pair.1, pair.2, map, kind, hr, hc, hdifference, rfl⟩
  · rintro ⟨i, r, c, map, kind, hr, hc, hdifference, rfl⟩
    have hpair : (reference.image.planes.zip candidate.image.planes)[i]? = some (r, c) :=
      List.getElem?_zip_eq_some.mpr ⟨hr, hc⟩
    obtain ⟨map', hmap', hdifference'⟩ := (mapM_eq_ok_at.mp hmaps).2 i (r, c) hpair
    cases hdifference.symm.trans hdifference'
    refine ⟨comparer.drawings reference candidate (r, c) map, ?_, mem_drawings_of_kind h kind⟩
    exact List.mem_of_getElem? (List.getElem?_zipWith_eq_some.mpr ⟨_, _, hpair, hmap', rfl⟩)

/-- What a comparison with pictures writes, if it succeeds. -/
theorem written_of_compare (hext : '/' ∉ comparer.encoder.extension.toList)
    (hpictures : comparer.config.writePictures = true) (hw : reference.image.WellFormed)
    (h : Task.on (comparer.compare native reference candidate) world = (.ok report, after)) :
    Comparable native.image reference.image candidate.image ∧
      report.artifacts = comparer.picturePaths reference candidate ∧
      ∃ drawings, (∀ drawing, drawing ∈ drawings ↔ comparer.Draws reference candidate drawing) ∧
        drawings.map Drawing.path = comparer.picturePaths reference candidate ∧
        comparer.Written drawings world after := by
  rcases hassess : comparer.assess native reference candidate with fault | ⟨assessed, drawings⟩
  · cases (comparer.on_compare_of_error hassess).symm.trans h
  · obtain ⟨hcomparable, -, maps, hmaps, rfl⟩ := assess_eq_ok hassess
    obtain ⟨hcount, -⟩ := Image.shapes_eq_iff.mp hcomparable.matching
    have hlen : maps.length = reference.image.planes.length := by
      rw [(mapM_eq_ok_at.mp hmaps).1, List.length_zip, ← hcount, Nat.min_self]
    have hpaths := comparer.map_path_drawings hpictures hcount hlen
    have hinside : ∀ drawing ∈ (List.zipWith (comparer.drawings reference candidate)
        (reference.image.planes.zip candidate.image.planes) maps).flatten,
        comparer.Inside drawing := by
      intro drawing hd
      obtain ⟨i, r, c, map, kind, -, -, -, rfl⟩ := (mem_flatten_drawings hpictures hmaps).mp hd
      exact inside_picturePath hext rfl
    obtain ⟨rfl, hwritten⟩ := on_compare_eq_ok hassess hinside
      (hpaths ▸ nodup_picturePaths hw) h
    exact ⟨hcomparable, hpaths, _, fun drawing => mem_flatten_drawings hpictures hmaps, hpaths,
      hwritten⟩

/-- Images of one plane get two pictures, in files whose places are free of folders. -/
theorem on_compare_of_single [ZeroLaws α] (comparer : Comparer α) {n r c : Plane}
    {made : World α} {kept : List String} {home : Place} {name : Artifact.Kind → String}
    {encode : Picture → ByteArray} (hpictures : comparer.config.writePictures = true)
    (hencode : ∀ picture, comparer.encoder.encode picture = .ok (encode picture))
    (hn : native.image.planes = [n]) (hr : reference.image.planes = [r])
    (hc : candidate.image.planes = [c]) (hshape : r.grid.shape = c.grid.shape)
    (hfits : r.grid.shape.FitsIn n.grid.shape)
    (hfolder : Task.on (Task.makeFolders comparer.config.folder) world = (.ok (), made))
    (hhome : made.disk.findFolder kept = .ok home)
    (hnames : ∀ kind, Disk.lookupParts (comparer.picturePath reference candidate kind r) =
      .ok (kept ++ [name kind]) ∧ Disk.Named (name kind) ∧
        made.disk.entry? (home ++ [name kind]) ≠ some .folder) :
    ∃ (report : Report α) (map : DifferenceMap α), difference α (r, c) = .ok map ∧
      Task.on (comparer.compare native reference candidate) world = (.ok report,
        { made with disk := ((made.disk.insert (home ++ [name .histogram])
            (.file (encode (comparer.picture map .histogram)))).insert (home ++ [name .heatMap])
              (.file (encode (comparer.picture map .heatMap)))) }) := by
  have hcomparable : Comparable native.image reference.image candidate.image := by
    refine ⟨by simp [Image.shapes, hr, hc, hshape], by simp [hn, hr], ?_⟩
    intro i n' r' hn' hr'
    rw [hn] at hn'
    rw [hr] at hr'
    cases i with
    | zero =>
      obtain rfl := Option.some.inj hn'
      obtain rfl := Option.some.inj hr'
      exact hfits
    | succ i => cases hn'
  obtain ⟨assessed, maps, hmaps, hassess, -⟩ := comparer.assess_of_comparable hcomparable
  rw [hr, hc] at hmaps hassess
  obtain ⟨map, rfl⟩ : ∃ map, maps = [map] := List.length_eq_one_iff.mp (mapM_eq_ok_at.mp hmaps).1
  have hmap : difference α (r, c) = .ok map := by
    obtain ⟨pair, hpair, hmap⟩ := getElem?_of_mapM hmaps (i := 0) rfl
    cases hpair
    exact hmap
  have hdrawn : (List.zipWith (comparer.drawings reference candidate) ([r].zip [c]) [map]).flatten =
      comparer.drawings reference candidate (r, c) map := by simp
  rw [hdrawn, drawings_eq hpictures] at hassess
  obtain ⟨hparts, hnamed, hfree⟩ := hnames .histogram
  obtain ⟨hparts', hnamed', hfree'⟩ := hnames .heatMap
  have hplace := Disk.target_of_folder hparts hhome hnamed hfree
  -- The first file leaves the folder as it was, and makes none where the second goes.
  have hplace' : ∀ bytes, (made.disk.insert (home ++ [name .histogram]) (.file bytes)).target
      (comparer.picturePath reference candidate .heatMap r) = .ok (home ++ [name .heatMap]) := by
    intro bytes
    have hextends : made.disk.Extends (made.disk.insert _ (.file bytes)) _ :=
      Disk.insert_target_extends hplace
    exact Disk.target_of_folder hparts' (Disk.findFolder_of_extends hhome hextends) hnamed'
      (Disk.entry?_insert_file_ne_folder hfree')
  exact ⟨_, map, hmap, on_compare_of_drawings comparer hassess (List.cons_ne_nil _ _) hfolder
    (on_writeDrawings_cons (hencode _) hplace
      (on_writeDrawings_cons (hencode _) (hplace' _) rfl))⟩

end Comparer

end Planar
