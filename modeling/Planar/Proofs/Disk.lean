import Planar.Disk
import Planar.Proofs.Traversal

/-! What is on a disk after a file is written to it. -/
namespace Planar

theorem Path.parts_ne_nil (path : String) : Path.parts path ≠ [] := by
  simp [Path.parts, List.splitOn_ne_nil]

namespace Disk
variable {disk disk' : Disk} {here place other folder : Place} {parts rest : List String}
  {path name part : String} {entry : Entry} {content : ByteArray}

@[simp] theorem entry?_nil : disk.entry? [] = some .folder := if_pos rfl

theorem lookup_filter_self {entries : List (Place × Entry)} :
    (entries.filter (·.1 ≠ place)).lookup place = none := by
  rw [List.lookup_eq_none_iff]
  intro kept hk
  obtain ⟨-, hne⟩ := List.mem_filter.mp hk
  exact bne_iff_ne.mpr (Ne.symm (of_decide_eq_true hne))

theorem lookup_filter_of_ne {entries : List (Place × Entry)} (h : other ≠ place) :
    (entries.filter (·.1 ≠ place)).lookup other = entries.lookup other := by
  induction entries with
  | nil => rfl
  | cons first entries ih =>
    obtain ⟨at', entry⟩ := first
    by_cases he : at' = place
    · subst he
      rw [List.filter_cons_of_neg (by simp), ih, List.lookup_cons, beq_false_of_ne h]
    · rw [List.filter_cons_of_pos (by simpa using he), List.lookup_cons, List.lookup_cons, ih]

theorem entry?_insert_self (h : place ≠ []) :
    Disk.entry? (disk.insert place entry) place = some entry := by
  unfold entry?
  rw [if_neg h, insert, List.lookup_append, lookup_filter_self]
  simp

theorem entry?_insert_of_ne (h : other ≠ place) :
    Disk.entry? (disk.insert place entry) other = disk.entry? other := by
  by_cases hroot : other = []
  · subst hroot
    simp
  · unfold entry?
    rw [if_neg hroot, if_neg hroot, insert, List.lookup_append,
      lookup_filter_of_ne h]
    simp [List.lookup_cons, beq_false_of_ne h]

/-- Names of what is in a folder. -/
def Named (part : String) : Prop :=
  part ≠ "" ∧ part ≠ "." ∧ part ≠ ".." ∧ part.utf8ByteSize ≤ nameLimit

/-- Where one part leads from a folder. -/
inductive Step (disk : Disk) (here : Place) (part : String) : Place → Prop
  | stay (hpart : part = "" ∨ part = ".") : Step disk here part here
  | up (hpart : part = "..") : Step disk here part here.dropLast
  | down (hpart : Named part) (hsome : (disk.entry? (here ++ [part])).isSome) :
      Step disk here part (here ++ [part])

theorem walk_cons_eq_ok : disk.walk here (part :: rest) = .ok place ↔
    disk.entry? here = some .folder ∧
      ∃ next, disk.Step here part next ∧ disk.walk next rest = .ok place := by
  constructor
  · intro h
    rw [walk] at h
    split at h
    · cases h
    · cases h
    · rename_i hhere
      refine ⟨hhere, ?_⟩
      split at h
      · rename_i hsame
        exact ⟨here, .stay hsame, h⟩
      split at h
      · rename_i hup
        exact ⟨here.dropLast, .up hup, h⟩
      split at h
      · cases h
      split at h
      · cases h
      · rename_i hsame hup hlong hnone
        have hnamed : Named part := ⟨fun he => hsame (Or.inl he), fun he => hsame (Or.inr he), hup,
          Nat.le_of_not_lt hlong⟩
        exact ⟨here ++ [part], .down hnamed (by simpa [Option.isSome_iff_ne_none] using hnone), h⟩
  · rintro ⟨hhere, next, hs, h⟩
    rw [walk, hhere]
    cases hs with
    | stay hpart => simpa only [if_pos hpart] using h
    | up hpart =>
      subst hpart
      exact h
    | down hpart hsome =>
      obtain ⟨hempty, hdot, hdots, hshort⟩ := hpart
      have hnone : ¬ (disk.entry? (here ++ [part])).isNone = true := by
        simpa [Option.isSome_iff_ne_none] using hsome
      simp only [if_neg (not_or.mpr ⟨hempty, hdot⟩), if_neg hdots, if_neg (Nat.not_lt.mpr hshort),
        if_neg hnone]
      exact h

theorem folder_of_walk (h : disk.walk here parts = .ok place)
    (hp : disk.entry? place = some .folder) : disk.entry? here = some .folder := by
  cases parts with
  | nil =>
    cases h
    exact hp
  | cons part rest => exact (walk_cons_eq_ok.mp h).1

theorem walk_append (h : disk.walk here parts = .ok folder)
    (hrest : disk.walk folder rest = .ok place) :
    disk.walk here (parts ++ rest) = .ok place := by
  induction parts generalizing here with
  | nil =>
    cases h
    exact hrest
  | cons part parts ih =>
    obtain ⟨hhere, next, hs, h⟩ := walk_cons_eq_ok.mp h
    exact walk_cons_eq_ok.mpr ⟨hhere, next, hs, ih h⟩

/-- Walks to a folder are repeated on every disk that keeps the folders. -/
theorem walk_of_folders
    (hkeep : ∀ kept, disk.entry? kept = some .folder → disk'.entry? kept = some .folder)
    (h : disk.walk here parts = .ok place) (hp : disk.entry? place = some .folder) :
    disk'.walk here parts = .ok place := by
  induction parts generalizing here with
  | nil => exact h
  | cons part rest ih =>
    obtain ⟨hhere, next, hs, hrest⟩ := walk_cons_eq_ok.mp h
    refine walk_cons_eq_ok.mpr ⟨hkeep here hhere, next, ?_, ih hrest⟩
    cases hs with
    | stay hpart => exact .stay hpart
    | up hpart => exact .up hpart
    | down hpart hsome =>
      exact .down hpart (Option.isSome_of_eq_some (hkeep _ (folder_of_walk hrest hp)))

theorem findFolder_eq_ok (h : disk.findFolder parts = .ok folder) :
    disk.walk [] parts = .ok folder ∧ disk.entry? folder = some .folder := by
  unfold findFolder at h
  split at h
  · cases h
  · rename_i hfind
    split at h
    · rename_i hfolder
      cases h
      exact ⟨hfind, hfolder⟩
    · cases h

theorem lookupParts_ne_nil (h : lookupParts path = .ok parts) : parts ≠ [] := by
  unfold lookupParts at h
  split at h
  · cases h
  split at h
  · cases h
  split at h
  · cases h
  · cases h
    exact Path.parts_ne_nil path

theorem splitTrailing_of_name (h : name ≠ "") :
    splitTrailing (parts ++ [name]) = (parts ++ [name], false) := by
  simp [splitTrailing, h]

theorem splitTrailing_of_slash (parts : List String) :
    (splitTrailing (parts ++ [""])).2 = true := by
  have hkept : (parts.reverse.dropWhile fun part => part = "").length ≤ parts.reverse.length :=
    (List.dropWhile_sublist _).length_le
  rw [List.length_reverse] at hkept
  have hless : (parts.reverse.dropWhile fun part => part = "").length < parts.length + 1 := by
    omega
  simpa [splitTrailing] using hless

/-- Files are written into existing folders, under names that no folder has. -/
theorem target_eq_ok (h : disk.target path = .ok place) :
    ∃ parts folder name, lookupParts path = .ok (parts ++ [name]) ∧
      disk.walk [] parts = .ok folder ∧ disk.entry? folder = some .folder ∧ Named name ∧
      place = folder ++ [name] ∧ disk.entry? place ≠ some .folder := by
  obtain ⟨parts, hparts, h⟩ := bind_eq_ok.mp h
  rcases List.eq_nil_or_concat parts with rfl | ⟨parts, name, rfl⟩
  · exact (lookupParts_ne_nil hparts rfl).elim
  rw [List.concat_eq_append] at h hparts
  by_cases hn : name = ""
  · subst hn
    rcases hsplit : splitTrailing (parts ++ [""]) with ⟨kept, slash⟩
    have hslash : slash = true := by
      simpa only [hsplit] using splitTrailing_of_slash parts
    simp only [hsplit] at h
    obtain ⟨folder, -, h⟩ := bind_eq_ok.mp h
    rw [if_pos (Or.inl hslash)] at h
    cases h
  · simp only [splitTrailing_of_name hn, List.dropLast_concat, List.getLast?_concat] at h
    obtain ⟨folder, hfolder, h⟩ := bind_eq_ok.mp h
    obtain ⟨hwalk, hentry⟩ := findFolder_eq_ok hfolder
    split at h
    · cases h
    split at h
    · cases h
    split at h
    · cases h
    · rename_i hdots hlong hfree
      cases h
      simp only [Bool.false_eq_true, false_or, not_or] at hdots
      exact ⟨parts, folder, name, hparts, hwalk, hentry,
        ⟨hn, hdots.1, hdots.2, Nat.le_of_not_lt hlong⟩, rfl, hfree⟩

theorem target_ne_nil (h : disk.target path = .ok place) : place ≠ [] := by
  obtain ⟨-, folder, name, -, -, -, -, rfl, -⟩ := target_eq_ok h
  exact List.concat_ne_nil name folder

/-- A file is read back as it was written, whatever was there before. -/
theorem read_insert_target (h : disk.target path = .ok place) :
    (disk.insert place (.file content)).read path = .ok content := by
  have hfile : Disk.entry? (disk.insert place (.file content)) place = some (.file content) :=
    entry?_insert_self (target_ne_nil h)
  obtain ⟨parts, folder, name, hparts, hwalk, hentry, hname, rfl, hfree⟩ := target_eq_ok h
  have hkeep : ∀ kept, disk.entry? kept = some .folder →
      Disk.entry? (disk.insert (folder ++ [name]) (.file content)) kept = some .folder := by
    intro kept hk
    rw [entry?_insert_of_ne, hk]
    rintro rfl
    exact hfree hk
  have hlast : (disk.insert (folder ++ [name]) (.file content)).walk folder [name] =
      .ok (folder ++ [name]) :=
    walk_cons_eq_ok.mpr ⟨hkeep folder hentry, _, .down hname (Option.isSome_of_eq_some hfile), rfl⟩
  have hfind : (disk.insert (folder ++ [name]) (.file content)).find (parts ++ [name]) =
      .ok (folder ++ [name]) := walk_append (walk_of_folders hkeep hwalk hentry) hlast
  refine bind_eq_ok.mpr ⟨_, hparts, bind_eq_ok.mpr ⟨_, hfind, ?_⟩⟩
  simp only [hfile]

/-- A write puts its content at one place, where the path leads, and leaves all others alone. -/
theorem write_eq_ok (h : disk.write path content = .ok disk') :
    disk'.read path = .ok content ∧ ∃ place, disk.target path = .ok place ∧
      disk'.entry? place = some (.file content) ∧
      ∀ other, other ≠ place → disk'.entry? other = disk.entry? other := by
  obtain ⟨place, htarget, hwrite⟩ := bind_eq_ok.mp h
  cases hwrite
  exact ⟨read_insert_target htarget, place, htarget, entry?_insert_self (target_ne_nil htarget),
    fun other ho => entry?_insert_of_ne ho⟩

end Disk

end Planar
