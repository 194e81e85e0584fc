import Planar.Proofs.Folders

/-! Pictures stay in their folder, whatever the labels in their names are. -/
namespace Planar

namespace Path

/-- A path to a file of a given name right in a folder. -/
structure Inside (folder path name : String) : Prop where
  /-- The parts are those of the folder, but for an empty one after a trailing slash, and the
  name. -/
  parts_eq : ∃ kept, (parts folder = kept ∨ parts folder = kept ++ [""]) ∧
    parts path = kept ++ [name]
  no_slash : '/' ∉ name.toList
  ne_empty : name ≠ ""
  ne_dot : name ≠ "."
  ne_dots : name ≠ ".."
  /-- On every disk, a file written there is in the folder that the folder's path leads to. -/
  place_eq : ∀ disk place, Disk.target disk path = .ok place →
    ∃ home, disk.findFolder (parts folder) = .ok home ∧ place = home ++ [name]

theorem inside_join {name : String} (folder : String) (hslash : '/' ∉ name.toList) {c : Char}
    (hc : c ∈ name.toList) (hdot : c ≠ '.') : Inside folder (join folder name) name := by
  have hne : ∀ other : String, c ∉ other.toList → name ≠ other := by
    rintro _ hother rfl
    exact hother hc
  constructor
  · obtain ⟨kept, hfolder, hjoin⟩ := parts_join folder
    exact ⟨kept, hfolder, hjoin name hslash⟩
  · exact hslash
  · exact hne "" (by simp)
  · exact hne "." (by simpa using hdot)
  · exact hne ".." (by simpa using hdot)
  · intro disk place htarget
    exact Disk.leads_join hslash (Disk.leads_of_target htarget)

end Path

namespace Artifact
variable {kind : Kind} {channel : Option Channel} {a b extension : String}

theorem inside_path (folder : String) (h : '/' ∉ extension.toList) :
    Path.Inside folder (path folder kind channel a b extension)
      (fileName kind channel a b extension) := by
  -- every name begins with a stem, which is more than points
  have hletter : 'd' ∈ (fileName kind channel a b extension).toList := by
    have hstem : 'd' ∈ kind.stem.toList := by cases kind <;> decide
    rw [toList_fileName, head, List.append_assoc]
    exact List.mem_append_left _ hstem
  exact Path.inside_join folder (slash_not_mem_fileName h) hletter (by decide)

/-- A sanitized label is the one way of cutting the label into maximal runs of letters and digits,
lowered and joined by underscores. It is tidy, empty only for want of runs, stays as it is when
sanitized again, and tells labels apart as far as their lowered runs do. So whatever the labels are,
the path of a picture leads to a file right in the folder. -/
theorem names_canonical_and_inside :
    (∀ label : String,
      (∀ cuts, Cut label.toList cuts ↔ cuts = runs label.toList) ∧
      (sanitize label).toList =
        ['_'].intercalate ((runs label.toList).map (List.map Char.toLower)) ∧
      Tidy (sanitize label).toList ∧
      (sanitize label = "" ↔ ∀ c ∈ label.toList, c.isAlphanum = false) ∧
      sanitize (sanitize label) = sanitize label ∧
      ∀ other : String, sanitize label = sanitize other ↔
        (runs label.toList).map (List.map Char.toLower) =
          (runs other.toList).map (List.map Char.toLower)) ∧
    ∀ (folder : String) (kind : Kind) (channel : Option Channel) (a b extension : String),
      '/' ∉ extension.toList →
      Path.Inside folder (path folder kind channel a b extension)
        (fileName kind channel a b extension) ∧
      ∀ c ∈ (fileName kind channel a b extension).toList,
        (c.isLower ∨ c.isDigit ∨ c = '_') ∨ c = '.' ∨ c ∈ extension.toList := by
  constructor
  · intro label
    exact ⟨fun cuts => cut_iff, toList_sanitize label, tidy_sanitize label,
      sanitize_eq_empty_iff label, sanitize_sanitize label, sanitize_eq_iff label⟩
  · intro folder kind channel a b extension h
    exact ⟨inside_path folder h, fun c => mem_fileName⟩

/-- Labels that look like paths out of the folder, with upper case, a NUL and a letter beyond
ASCII. -/
theorem names_canonical_and_inside_dots :
    let label := "/../Etc--passwd\x00é"
    '/' ∉ "png".toList ∧ sanitize label = "etc_passwd" ∧
    (∀ other, sanitize label = sanitize other ↔
      [['e', 't', 'c'], ['p', 'a', 's', 's', 'w', 'd']] =
        (runs other.toList).map (List.map Char.toLower)) ∧
    path "out/" .heatMap (some .cb) label ".." "png" =
      "out/difference_heatmap_cb_etc_passwd_.png" ∧
    Path.Inside "out/" "out/difference_heatmap_cb_etc_passwd_.png"
      "difference_heatmap_cb_etc_passwd_.png" := by
  intro label
  have hextension : '/' ∉ "png".toList := by decide
  have hsanitized : sanitize label = "etc_passwd" := by decide +kernel
  have hruns : (runs label.toList).map (List.map Char.toLower) =
      [['e', 't', 'c'], ['p', 'a', 's', 's', 'w', 'd']] := by decide +kernel
  have hname : fileName .heatMap (some .cb) label ".." "png" =
      "difference_heatmap_cb_etc_passwd_.png" := by decide +kernel
  have hpath : path "out/" .heatMap (some .cb) label ".." "png" =
      "out/difference_heatmap_cb_etc_passwd_.png" := by decide +kernel
  obtain ⟨hlabels, hpaths⟩ := names_canonical_and_inside
  obtain ⟨-, -, -, -, -, halike⟩ := hlabels label
  obtain ⟨hinside, -⟩ := hpaths "out/" .heatMap (some .cb) label ".." "png" hextension
  rw [hpath, hname] at hinside
  rw [hruns] at halike
  exact ⟨hextension, hsanitized, halike, hpath, hinside⟩

end Artifact

end Planar
