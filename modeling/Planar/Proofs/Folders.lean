import Planar.Proofs.Disk
import Planar.Proofs.PictureNames
import Planar.Proofs.World

/-! What stays as it is when folders are created and files are written. -/
namespace Planar.Disk

variable {disk disk' disk'' : Disk} {places places' : List Place} {place home : Place}
  {parts : List String} {path folder name : String} {content : ByteArray}

instance (name : String) : Decidable (Named name) :=
  inferInstanceAs (Decidable (_ ∧ _))

/-- Nothing is new or changed but at some places, apart from new folders. -/
structure Extends (disk disk' : Disk) (places : List Place) : Prop where
  elsewhere : ∀ place, place ∉ places → disk'.entry? place = disk.entry? place ∨
    disk.entry? place = none ∧ disk'.entry? place = some .folder
  folders : ∀ place, disk.entry? place = some .folder → disk'.entry? place = some .folder

namespace Extends

theorem refl (disk : Disk) : disk.Extends disk [] where
  elsewhere _ _ := Or.inl rfl
  folders _ h := h

theorem trans (h : disk.Extends disk' places) (h' : disk'.Extends disk'' places') :
    disk.Extends disk'' (places ++ places') where
  elsewhere place hplace := by
    rw [List.mem_append, not_or] at hplace
    rcases h'.elsewhere place hplace.2 with hsame' | ⟨hnone', hfolder'⟩
    · rw [hsame']
      exact h.elsewhere place hplace.1
    · rcases h.elsewhere place hplace.1 with hsame | ⟨-, hfolder⟩
      · exact Or.inr ⟨hsame ▸ hnone', hfolder'⟩
      · cases hnone'.symm.trans hfolder
  folders place hplace := h'.folders place (h.folders place hplace)

/-- Files elsewhere are kept. -/
theorem file (h : disk.Extends disk' places) (hplace : place ∉ places)
    (hfile : disk.entry? place = some (.file content)) :
    disk'.entry? place = some (.file content) := by
  rcases h.elsewhere place hplace with hsame | ⟨hnone, -⟩
  · rw [hsame, hfile]
  · cases hnone.symm.trans hfile

end Extends

theorem insert_folder_extends (h : disk.entry? place = none) :
    disk.Extends (disk.insert place .folder) [] := by
  have hroot : place ≠ [] := by
    rintro rfl
    cases h
  constructor
  · intro other _
    by_cases hother : other = place
    · subst hother
      exact Or.inr ⟨h, entry?_insert_self hroot⟩
    · exact Or.inl (entry?_insert_of_ne hother)
  · intro other hother
    rw [entry?_insert_of_ne, hother]
    rintro rfl
    cases h.symm.trans hother

theorem makeFolder_extends (h : disk.makeFolder parts = .ok disk') : disk.Extends disk' [] := by
  obtain ⟨home, -, h⟩ := bind_eq_ok.mp h
  dsimp only at h
  split at h
  · cases h
  split at h
  · cases h
  split at h
  · cases h
  · rename_i hfree
    cases h
    exact insert_folder_extends (by simpa using hfree)

/-- Folders on the way are created before the folder itself, also where that fails. -/
theorem makeFoldersAt_extends (disk : Disk) (parts : List String) :
    disk.Extends (disk.makeFoldersAt parts).2 [] := by
  fun_induction makeFoldersAt disk parts with
  | case1 => exact .refl _
  | case2 parts _ made hmade => exact makeFolder_extends hmade
  | case3 parts _ _ fault between hway ih =>
    rw [hway] at ih
    exact ih
  | case4 parts _ _ between hway made hmade ih =>
    rw [hway] at ih
    exact ih.trans (makeFolder_extends hmade)
  | case5 parts settle _ _ between hway fault _ ih =>
    rw [hway] at ih
    have hsettled : (settle between fault).2 = between := by
      dsimp only [settle]
      split <;> rfl
    rw [hsettled]
    exact ih
  | case6 parts settle _ fault _ _ =>
    have hsettled : (settle disk fault).2 = disk := by
      dsimp only [settle]
      split <;> rfl
    rw [hsettled]
    exact .refl _

theorem makeFolders_extends (disk : Disk) (path : String) :
    disk.Extends (disk.makeFolders path).2 [] := by
  unfold makeFolders
  split
  · exact .refl disk
  split
  · exact .refl disk
  · exact makeFoldersAt_extends disk _

/-- A path that leads through existing folders to one, and to a name in it. -/
def Leads (disk : Disk) (path : String) (place : Place) : Prop :=
  ∃ parts home name, lookupParts path = .ok (parts ++ [name]) ∧ disk.walk [] parts = .ok home ∧
    disk.entry? home = some .folder ∧ Named name ∧ place = home ++ [name]

theorem Leads.of_extends (h : disk.Leads path place) (hextends : disk.Extends disk' places) :
    disk'.Leads path place := by
  obtain ⟨parts, home, name, hparts, hwalk, hhome, hname, rfl⟩ := h
  exact ⟨parts, home, name, hparts, walk_of_folders hextends.folders hwalk hhome,
    hextends.folders home hhome, hname, rfl⟩

theorem Leads.read (h : disk.Leads path place) (hfile : disk.entry? place = some (.file content)) :
    disk.read path = .ok content := by
  obtain ⟨parts, home, name, hparts, hwalk, hhome, hname, rfl⟩ := h
  have hlast : disk.walk home [name] = .ok (home ++ [name]) :=
    walk_cons_eq_ok.mpr ⟨hhome, _, .down hname (Option.isSome_of_eq_some hfile), rfl⟩
  refine bind_eq_ok.mpr ⟨_, hparts, bind_eq_ok.mpr ⟨_, walk_append hwalk hlast, ?_⟩⟩
  simp only [hfile]

theorem Leads.unique {other : Place} (h : disk.Leads path place) (hother : disk.Leads path other) :
    place = other := by
  obtain ⟨parts, home, name, hparts, hwalk, -, -, rfl⟩ := h
  obtain ⟨parts', home', name', hparts', hwalk', -, -, rfl⟩ := hother
  have hsame : parts ++ [name] = parts' ++ [name'] := Except.ok.inj (hparts.symm.trans hparts')
  obtain ⟨rfl, hname⟩ := List.append_inj' hsame rfl
  rw [Except.ok.inj (hwalk.symm.trans hwalk'), hname]

theorem leads_of_target (h : disk.target path = .ok place) : disk.Leads path place := by
  obtain ⟨parts, home, name, hparts, hwalk, hhome, hname, rfl, -⟩ := target_eq_ok h
  exact ⟨parts, home, name, hparts, hwalk, hhome, hname, rfl⟩

theorem insert_target_extends (h : disk.target path = .ok place) :
    disk.Extends (disk.insert place (.file content)) [place] := by
  obtain ⟨-, -, -, -, -, -, -, -, hfree⟩ := target_eq_ok h
  constructor
  · intro other hother
    exact Or.inl (entry?_insert_of_ne (List.mem_singleton.not.mp hother))
  · intro other hother
    rw [entry?_insert_of_ne, hother]
    rintro rfl
    exact hfree hother

/-- Writing files makes no folders. -/
theorem entry?_insert_file_ne_folder {other : Place} (h : disk.entry? other ≠ some .folder) :
    Disk.entry? (disk.insert place (.file content)) other ≠ some .folder := by
  by_cases hsame : other = place
  · subst hsame
    have hroot : other ≠ [] := by
      rintro rfl
      exact h rfl
    rw [entry?_insert_self hroot]
    exact fun he => nomatch he
  · rwa [entry?_insert_of_ne hsame]

theorem write_extends (h : disk.write path content = .ok disk') :
    ∃ place, disk.Leads path place ∧ disk'.entry? place = some (.file content) ∧
      disk.Extends disk' [place] := by
  obtain ⟨place, htarget, hwrite⟩ := bind_eq_ok.mp h
  cases hwrite
  exact ⟨place, leads_of_target htarget, entry?_insert_self (target_ne_nil htarget),
    insert_target_extends htarget⟩

theorem findFolder_iff : disk.findFolder parts = .ok home ↔
    disk.walk [] parts = .ok home ∧ disk.entry? home = some .folder := by
  constructor
  · exact findFolder_eq_ok
  · rintro ⟨hwalk, hhome⟩
    unfold findFolder find
    simp only [hwalk, if_pos hhome]

theorem findFolder_of_extends (h : disk.findFolder parts = .ok home)
    (hextends : disk.Extends disk' places) : disk'.findFolder parts = .ok home := by
  obtain ⟨hwalk, hhome⟩ := findFolder_iff.mp h
  exact findFolder_iff.mpr ⟨walk_of_folders hextends.folders hwalk hhome,
    hextends.folders home hhome⟩

theorem lookupParts_eq_ok (h : lookupParts path = .ok parts) : parts = Path.parts path := by
  unfold lookupParts at h
  split at h
  · cases h
  split at h
  · cases h
  split at h
  · cases h
  · exact (Except.ok.inj h).symm

theorem lookupParts_of_short (hnul : '\x00' ∉ path.toList)
    (hshort : path.utf8ByteSize ≤ pathLimit) (hempty : path ≠ "") :
    lookupParts path = .ok (Path.parts path) := by
  have hcontains : path.contains '\x00' = false := by simpa using hnul
  rw [lookupParts, if_neg (by simp [hcontains]), if_neg (Nat.not_lt.mpr hshort), if_neg hempty]

/-- A plain name leads to the root's file of that name, on every disk. -/
theorem leads_of_name (hslash : '/' ∉ name.toList) (hnul : '\x00' ∉ name.toList)
    (hname : Named name) : disk.Leads name [name] := by
  have hshort : name.utf8ByteSize ≤ pathLimit := hname.2.2.2.trans (by decide)
  refine ⟨[], [], name, ?_, rfl, rfl, hname, rfl⟩
  rw [lookupParts_of_short hnul hshort hname.1, Path.parts_of_name hslash]
  rfl

theorem target_of_folder (hparts : lookupParts path = .ok (parts ++ [name]))
    (hhome : disk.findFolder parts = .ok home) (hname : Named name)
    (hfree : disk.entry? (home ++ [name]) ≠ some .folder) :
    disk.target path = .ok (home ++ [name]) := by
  obtain ⟨hempty, hdot, hdots, hshort⟩ := hname
  refine bind_eq_ok.mpr ⟨_, hparts, ?_⟩
  simp only [splitTrailing_of_name hempty, List.dropLast_concat, List.getLast?_concat]
  refine bind_eq_ok.mpr ⟨home, hhome, ?_⟩
  simp only [Option.getD_some, Bool.false_eq_true, hdot, hdots, or_self, if_false,
    Nat.not_lt.mpr hshort, hfree]
  rfl

/-- Files of a folder are where its path leads. -/
theorem leads_join (hname : '/' ∉ name.toList) (h : disk.Leads (Path.join folder name) place) :
    ∃ home, disk.findFolder (Path.parts folder) = .ok home ∧ place = home ++ [name] := by
  obtain ⟨parts, home, last, hparts, hwalk, hhome, -, rfl⟩ := h
  obtain ⟨kept, hfolder, hjoin⟩ := Path.parts_join folder
  have hsplit : parts ++ [last] = kept ++ [name] :=
    (lookupParts_eq_ok hparts).trans (hjoin name hname)
  obtain ⟨rfl, hlast⟩ := List.append_inj' hsplit rfl
  obtain rfl := List.singleton_inj.mp hlast
  refine ⟨home, findFolder_iff.mpr ⟨?_, hhome⟩, rfl⟩
  rcases hfolder with hsame | hslash
  · rw [hsame]
    exact hwalk
  · rw [hslash]
    exact walk_append hwalk (walk_cons_eq_ok.mpr ⟨hhome, home, .stay (Or.inl rfl), rfl⟩)

end Planar.Disk

namespace Planar

theorem Task.on_writeOutput_eq_ok {α : Type} {world after : World α} {path : String}
    {content : ByteArray} (h : Task.on (Task.writeOutput path content) world = (.ok (), after)) :
    ∃ place, world.disk.Leads path place ∧ after.disk.entry? place = some (.file content) ∧
      world.disk.Extends after.disk [place] ∧ after.events = world.events := by
  rw [Task.on_writeOutput] at h
  split at h
  · rename_i disk hwrite
    cases h
    obtain ⟨place, hleads, hfile, hextends⟩ := Disk.write_extends hwrite
    exact ⟨place, hleads, hfile, hextends, rfl⟩
  · cases h

end Planar
