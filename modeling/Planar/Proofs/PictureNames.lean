import Planar.Proofs.Labels

/-! Names of pictures: they stay in their folder and tell the pictures of a comparison apart. -/
namespace Planar

namespace Artifact
variable {kind kind' : Kind} {channel channel' : Option Channel} {a b extension : String}
  {c : Char}

/-- The part of a name that does not depend on the labels. -/
def head (kind : Kind) (channel : Option Channel) : List Char :=
  kind.stem.toList ++ channel.toList.flatMap fun channel => '_' :: (sanitize channel.name).toList

theorem toList_fileName : (fileName kind channel a b extension).toList =
    head kind channel ++ ('_' :: (sanitize a).toList ++ ('_' :: (sanitize b).toList ++
      ('.' :: extension.toList))) := by
  cases channel <;> simp [fileName, head]

theorem mem_kinds (kind : Kind) : kind ∈ [Kind.histogram, Kind.heatMap] := by
  cases kind <;> decide

theorem mem_channels (channel : Option Channel) : channel ∈ none :: Channel.all.map some := by
  cases channel with
  | none => exact List.mem_cons_self
  | some channel => cases channel <;> decide

/-- Pictures of different kinds or channels do not begin alike, also where one names a channel and
the other does not. -/
theorem head_injective (h : head kind channel = head kind' channel') :
    kind = kind' ∧ channel = channel' := by
  have hall : ∀ kind ∈ [Kind.histogram, Kind.heatMap], ∀ channel ∈ none :: Channel.all.map some,
      ∀ kind' ∈ [Kind.histogram, Kind.heatMap], ∀ channel' ∈ none :: Channel.all.map some,
        head kind channel = head kind' channel' → kind = kind' ∧ channel = channel' := by
    decide +kernel
  exact hall kind (mem_kinds kind) channel (mem_channels channel) kind' (mem_kinds kind') channel'
    (mem_channels channel') h

/-- Stems are spelled as labels are. -/
theorem sanitize_stem (kind : Kind) : sanitize kind.stem = kind.stem := by
  cases kind <;> decide +kernel

/-- A name has no characters but small letters, digits, underscores, the point and those of the
extension. -/
theorem mem_fileName (h : c ∈ (fileName kind channel a b extension).toList) :
    (c.isLower ∨ c.isDigit ∨ c = '_') ∨ c = '.' ∨ c ∈ extension.toList := by
  have hlabel : ∀ label, c ∈ '_' :: (sanitize label).toList → c.isLower ∨ c.isDigit ∨ c = '_' := by
    intro label hc
    rcases List.mem_cons.mp hc with rfl | hc
    · exact Or.inr (Or.inr rfl)
    · exact small_of_mem_sanitize hc
  rw [toList_fileName, head, ← sanitize_stem kind, List.mem_append, List.mem_append] at h
  rcases h with (hstem | hchannel) | h
  · exact Or.inl (small_of_mem_sanitize hstem)
  · obtain ⟨channel, -, hc⟩ := List.mem_flatMap.mp hchannel
    exact Or.inl (hlabel _ hc)
  · rcases List.mem_append.mp h with ha | h
    · exact Or.inl (hlabel a ha)
    · rcases List.mem_append.mp h with hb | hextension
      · exact Or.inl (hlabel b hb)
      · exact Or.inr (List.mem_cons.mp hextension)

theorem slash_not_mem_fileName (h : '/' ∉ extension.toList) :
    '/' ∉ (fileName kind channel a b extension).toList := by
  intro hmem
  rcases mem_fileName hmem with hsmall | hpoint | hextension
  · revert hsmall
    decide
  · cases hpoint
  · exact h hextension

/-- Under the same labels, names tell kinds and channels apart. -/
theorem fileName_injective
    (h : fileName kind channel a b extension = fileName kind' channel' a b extension) :
    kind = kind' ∧ channel = channel' := by
  have hlist := congrArg String.toList h
  rw [toList_fileName, toList_fileName] at hlist
  exact head_injective (List.append_cancel_right hlist)

end Artifact

namespace Path
variable {folder name name' : String}

/-- A file's path begins with its folder, whatever its name. -/
theorem join_eq (folder : String) : ∃ start : String, ∀ name, join folder name = start ++ name := by
  by_cases h : folder = "" ∨ folder.endsWith "/"
  · exact ⟨folder, fun name => if_pos h⟩
  · exact ⟨folder ++ "/", fun name => by rw [join, if_neg h]; rfl⟩

theorem join_injective (h : join folder name = join folder name') : name = name' := by
  obtain ⟨start, hstart⟩ := join_eq folder
  rw [hstart, hstart] at h
  exact String.append_right_inj .. |>.mp h

theorem parts_of_name (h : '/' ∉ name.toList) : parts name = [name] := by
  rw [parts, List.splitOn_eq_singleton h, List.map_singleton, String.ofList_toList]

theorem parts_append_slash (front : String) (h : '/' ∉ name.toList) :
    parts (front ++ "/" ++ name) = parts front ++ [name] := by
  have hlist : (front ++ "/" ++ name).toList = front.toList ++ '/' :: name.toList := by simp
  rw [← parts_of_name h, parts, hlist, List.splitOn_append_cons_self, List.map_append]
  rfl

/-- The parts of a file's path are those of its folder, but for the empty part after a trailing
slash, and its name. -/
theorem parts_join (folder : String) : ∃ kept,
    (parts folder = kept ∨ parts folder = kept ++ [""]) ∧
      ∀ name : String, '/' ∉ name.toList → parts (join folder name) = kept ++ [name] := by
  by_cases hempty : folder = ""
  · subst hempty
    refine ⟨[], Or.inr (by decide), ?_⟩
    intro name hslash
    rw [join, if_pos (Or.inl rfl), String.empty_append, parts_of_name hslash]
    rfl
  by_cases hends : folder.endsWith "/"
  · obtain ⟨front, rfl⟩ : ∃ front, folder = front ++ "/" := by
      obtain ⟨front, hfront⟩ : "/".toList <:+ folder.toList := by
        simpa using String.Slice.endsWith_string_iff.mp hends
      refine ⟨String.ofList front, String.toList_inj.mp ?_⟩
      rw [String.toList_append, String.toList_ofList, hfront]
    refine ⟨parts front, Or.inr ?_, ?_⟩
    · have hparts : parts (front ++ "/" ++ "") = parts front ++ [""] :=
        parts_append_slash front (by decide)
      simpa using hparts
    · intro name hslash
      rw [join, if_pos (Or.inr hends), parts_append_slash front hslash]
  · refine ⟨parts folder, Or.inl rfl, ?_⟩
    intro name hslash
    rw [join, if_neg (not_or.mpr ⟨hempty, hends⟩)]
    exact parts_append_slash folder hslash

end Path

end Planar
