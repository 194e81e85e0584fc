import Planar.Proofs.Folders

/-! Paths with a leading slash. The working folder is the root, so the slash makes no difference to
what is read, written or created. -/
namespace Planar

theorem Path.parts_slash (path : String) : parts ("/" ++ path) = "" :: parts path := by
  have hlist : ("/" ++ path).toList = [] ++ '/' :: path.toList := by simp
  rw [parts, hlist, List.splitOn_append_cons_self, List.map_append]
  rfl

namespace Disk
variable {disk : Disk} {path part : String} {parts : List String} {place : Place}
  {content : ByteArray}

theorem slash_append_ne_empty (path : String) : "/" ++ path ≠ "" := by
  intro h
  simpa using congrArg String.toList h

theorem lookupParts_slash (hpath : path ≠ "") (hshort : path.utf8ByteSize < pathLimit) :
    lookupParts ("/" ++ path) = (lookupParts path).map ("" :: ·) := by
  have hsize : ("/" ++ path).utf8ByteSize = 1 + path.utf8ByteSize := String.utf8ByteSize_append
  have hlong : ¬ pathLimit < ("/" ++ path).utf8ByteSize := by omega
  have hnul : ("/" ++ path).contains '\x00' = path.contains '\x00' := by
    rw [Bool.eq_iff_iff]
    simp
  unfold lookupParts
  rw [hnul, if_neg hlong, if_neg (Nat.not_lt.mpr hshort.le), if_neg (slash_append_ne_empty path),
    if_neg hpath, Path.parts_slash]
  split
  · rfl
  · rfl

/-! ### A part in front that stays at the root -/

theorem find_of_stays (hpart : part = "" ∨ part = ".") :
    disk.find (part :: parts) = disk.find parts := by
  unfold find
  rw [walk, entry?_nil]
  simp only [if_pos hpart]

theorem findFolder_of_stays (hpart : part = "" ∨ part = ".") :
    disk.findFolder (part :: parts) = disk.findFolder parts := by
  unfold findFolder
  rw [find_of_stays hpart]

theorem isFolder_of_stays (hpart : part = "" ∨ part = ".") :
    disk.isFolder (part :: parts) = disk.isFolder parts := by
  unfold isFolder
  rw [find_of_stays hpart]

theorem splitTrailing_cons (part : String) (h : (splitTrailing parts).1 ≠ []) :
    splitTrailing (part :: parts) = (part :: (splitTrailing parts).1, (splitTrailing parts).2) := by
  have hkept : (parts.reverse.dropWhile (· = "")).isEmpty = false := by
    simpa [splitTrailing] using h
  simp [splitTrailing, List.dropWhile_append, hkept]

/-- Parts that are all empty are nothing but trailing slashes. -/
theorem splitTrailing_of_empty (part : String) (hparts : parts ≠ [])
    (h : (splitTrailing parts).1 = []) : splitTrailing parts = ([], true) ∧
      splitTrailing (part :: parts) = ([part].filter (· ≠ ""), true) := by
  have hkept : parts.reverse.dropWhile (· = "") = [] := by
    simpa [splitTrailing] using h
  have hlen := List.length_pos_iff.mpr hparts
  by_cases hpart : part = ""
  · simp [splitTrailing, List.dropWhile_append, hkept, hpart, hlen]
  · simp [splitTrailing, List.dropWhile_append, hkept, hpart, hlen]

theorem makeFolder_of_stays (hpart : part = "" ∨ part = ".") (hparts : parts ≠ []) :
    disk.makeFolder (part :: parts) = disk.makeFolder parts := by
  unfold makeFolder
  by_cases hkept : (splitTrailing parts).1 = []
  · obtain ⟨hsplit, hsplit'⟩ := splitTrailing_of_empty part hparts hkept
    rw [hsplit, hsplit']
    rcases hpart with rfl | rfl
    · rfl
    · rfl
  · rw [splitTrailing_cons part hkept]
    dsimp only
    rw [List.dropLast_cons_of_ne_nil hkept, findFolder_of_stays hpart,
      List.getLast?_cons_of_ne_nil hkept]

/-- The root is there already. -/
theorem makeFoldersAt_root (hpart : part = "" ∨ part = ".") :
    disk.makeFoldersAt [part] = (.ok (), disk) := by
  have hmade : disk.makeFolder [part] = .error .taken := by
    rcases hpart with rfl | rfl
    · rfl
    · rfl
  have hfolder : disk.isFolder [part] = true := by
    rw [isFolder_of_stays hpart]
    rfl
  rw [makeFoldersAt, if_neg (List.cons_ne_nil _ _), hmade]
  simp only [hfolder, if_true]

/-- Parts that stay are left out on the way, all but the one in front. -/
theorem exists_dropLast_normalize (part first : String) (rest : List String) :
    ∃ kept : List String, kept.length ≤ rest.length ∧
      (Path.normalize (first :: rest)).dropLast = (first :: kept).dropLast ∧
      (Path.normalize (part :: first :: rest)).dropLast =
        if first = "" ∨ first = "." then (part :: kept).dropLast
        else part :: (first :: kept).dropLast := by
  refine ⟨_, rest.length_filter_le fun part => part ≠ "" ∧ part ≠ ".", rfl, ?_⟩
  have hnormal : Path.normalize (part :: first :: rest) =
      part :: (first :: rest).filter fun part => part ≠ "" ∧ part ≠ "." := rfl
  rw [hnormal]
  split
  · rename_i hfirst
    rw [List.filter_cons_of_neg]
    rcases hfirst with rfl | rfl
    · decide
    · decide
  · rename_i hfirst
    rw [List.filter_cons_of_pos (by simpa using hfirst),
      List.dropLast_cons_of_ne_nil (List.cons_ne_nil _ _)]

/-- The induction is on the number of parts, as there are fewer of them on the way. -/
theorem makeFoldersAt_of_stays (hpart : part = "" ∨ part = ".") :
    disk.makeFoldersAt (part :: parts) = disk.makeFoldersAt parts := by
  induction hlen : parts.length using Nat.strong_induction_on generalizing part parts with
  | _ n ih =>
    cases parts with
    | nil => rw [makeFoldersAt_root hpart, makeFoldersAt, if_pos rfl]
    | cons first rest =>
      have hway : disk.makeFoldersAt (Path.normalize (part :: first :: rest)).dropLast =
          disk.makeFoldersAt (Path.normalize (first :: rest)).dropLast := by
        obtain ⟨kept, hfewer, hfirst, hboth⟩ := exists_dropLast_normalize part first rest
        rw [List.length_cons] at hlen
        rw [hfirst, hboth]
        split
        · rename_i hstays
          cases kept with
          | nil => rfl
          | cons next kept =>
            have hless : (next :: kept).dropLast.length < n := by
              rw [List.length_dropLast]
              omega
            exact (ih _ hless hpart rfl).trans (ih _ hless hstays rfl).symm
        · have hless : (first :: kept).dropLast.length < n := by
            rw [List.length_dropLast, List.length_cons]
            omega
          exact ih _ hless hpart rfl
      rw [makeFoldersAt, if_neg (List.cons_ne_nil _ _), makeFoldersAt.eq_def disk (first :: rest),
        if_neg (List.cons_ne_nil _ _), hway]
      simp only [isFolder_of_stays hpart, makeFolder_of_stays hpart (List.cons_ne_nil first rest)]

/-! ### The slash -/

theorem read_slash (hpath : path ≠ "") (hshort : path.utf8ByteSize < pathLimit) :
    disk.read ("/" ++ path) = disk.read path := by
  unfold read
  rw [lookupParts_slash hpath hshort]
  cases lookupParts path with
  | error fault => rfl
  | ok parts =>
    change (disk.find ("" :: parts) >>= _) = (disk.find parts >>= _)
    rw [find_of_stays (Or.inl rfl)]

theorem target_slash (hpath : path ≠ "") (hshort : path.utf8ByteSize < pathLimit) :
    disk.target ("/" ++ path) = disk.target path := by
  unfold target
  rw [lookupParts_slash hpath hshort]
  cases hlookup : lookupParts path with
  | error fault => rfl
  | ok parts =>
    dsimp only [Except.map, bind, Except.bind]
    by_cases hkept : (splitTrailing parts).1 = []
    · obtain ⟨hsplit, hsplit'⟩ := splitTrailing_of_empty "" (lookupParts_ne_nil hlookup) hkept
      rw [hsplit, hsplit']
      rfl
    · rw [splitTrailing_cons "" hkept]
      dsimp only
      rw [List.dropLast_cons_of_ne_nil hkept, findFolder_of_stays (Or.inl rfl),
        List.getLast?_cons_of_ne_nil hkept]

theorem write_slash (hpath : path ≠ "") (hshort : path.utf8ByteSize < pathLimit) :
    disk.write ("/" ++ path) content = disk.write path content := by
  unfold write
  rw [target_slash hpath hshort]

/-- Both paths lead to the same place. -/
theorem leads_slash (hpath : path ≠ "") (hshort : path.utf8ByteSize < pathLimit) :
    disk.Leads ("/" ++ path) place ↔ disk.Leads path place := by
  constructor
  · rintro ⟨parts, home, name, hparts, hwalk, hhome, hname, rfl⟩
    rw [lookupParts_slash hpath hshort] at hparts
    cases hlookup : lookupParts path with
    | error fault =>
      rw [hlookup] at hparts
      cases hparts
    | ok tail =>
      rw [hlookup] at hparts
      have hsplit : "" :: tail = parts ++ [name] := Except.ok.inj hparts
      cases parts with
      | nil =>
        obtain ⟨rfl, -⟩ := List.cons.inj hsplit
        exact (hname.1 rfl).elim
      | cons part parts =>
        obtain ⟨rfl, rfl⟩ := List.cons.inj hsplit
        have hsame : disk.walk [] parts = .ok home :=
          (find_of_stays (Or.inl rfl)).symm.trans hwalk
        exact ⟨parts, home, name, hlookup, hsame, hhome, hname, rfl⟩
  · rintro ⟨parts, home, name, hparts, hwalk, hhome, hname, rfl⟩
    refine ⟨"" :: parts, home, name, ?_, (find_of_stays (Or.inl rfl)).trans hwalk, hhome, hname,
      rfl⟩
    rw [lookupParts_slash hpath hshort, hparts]
    rfl

theorem makeFolders_slash (hpath : path ≠ "") (hshort : path.utf8ByteSize < pathLimit) :
    disk.makeFolders ("/" ++ path) = disk.makeFolders path := by
  unfold makeFolders
  rw [if_neg hpath, if_neg (slash_append_ne_empty path), lookupParts_slash hpath hshort]
  cases lookupParts path with
  | error fault => rfl
  | ok parts => exact makeFoldersAt_of_stays (Or.inl rfl)

example : let made := (Disk.empty.makeFolders "/a/b").2
    (made.write "/a/b/c" content >>= fun disk => disk.read "a/b/c") = .ok content := by cbv

end Disk

end Planar
