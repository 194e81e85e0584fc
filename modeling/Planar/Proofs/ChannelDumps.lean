import Planar.Proofs.Dump
import Planar.Proofs.Folders

/-! Dumps of all planes of an image, each in a file of its own. -/
namespace Planar

theorem Channel.letter_injective : Function.Injective Channel.letter := by
  intro c d
  cases c <;> cases d <;> decide

theorem Channel.slash_not_mem_letter (channel : Channel) : '/' ∉ channel.letter.toList := by
  cases channel <;> decide

namespace Path

/-- A path is a name, or a folder's path and a name. -/
theorem eq_name_or_eq_join (path : String) : '/' ∉ path.toList ∨
    ∃ front name : String, '/' ∉ name.toList ∧ path = front ++ "/" ++ name := by
  by_cases hslash : '/' ∈ path.toList
  · right
    obtain ⟨name, front, hpath, hname⟩ := List.eq_append_cons_of_mem (List.mem_reverse.mpr hslash)
    refine ⟨String.ofList front.reverse, String.ofList name.reverse, by simpa using hname, ?_⟩
    apply String.toList_inj.mp
    have hlist := congrArg List.reverse hpath
    simpa using hlist
  · exact Or.inl hslash

/-- Only the last part grows with a path that no slash is added to. -/
theorem parts_append (path : String) : ∃ front last,
    ∀ added : String, '/' ∉ added.toList → parts (path ++ added) = front ++ [last ++ added] := by
  rcases eq_name_or_eq_join path with hname | ⟨front, name, hname, rfl⟩
  · refine ⟨[], path, ?_⟩
    intro added hadded
    exact parts_of_name (by simp [hname, hadded])
  · refine ⟨parts front, name, ?_⟩
    intro added hadded
    rw [String.append_assoc]
    exact parts_append_slash front (by simp [hname, hadded])

end Path

namespace Dump

variable {α : Type} {stem : String} {plane : Plane} {planes : List Plane} {paths : List String}
  {disk disk' : Disk} {place : Place} {places : List Place} {world after : World α}

/-- What is added to a stem for one channel's dump. -/
def suffix (channel : Channel) : String := "_" ++ channel.letter ++ "_channel.txt"

theorem path_letter (stem : String) (channel : Channel) :
    path stem channel.letter = stem ++ suffix channel := by
  change stem ++ "_" ++ channel.letter ++ "_channel.txt" = _
  simp only [suffix, String.append_assoc]

theorem suffix_injective : Function.Injective suffix := by
  intro c d h
  have hlist := congrArg String.toList h
  simp only [suffix, String.toList_append] at hlist
  exact Channel.letter_injective (String.toList_inj.mp
    (List.append_cancel_left (List.append_cancel_right hlist)))

theorem slash_not_mem_suffix (channel : Channel) : '/' ∉ (suffix channel).toList := by
  simp [suffix, channel.slash_not_mem_letter]

/-- Planes of different channels go to different places. -/
theorem channel_eq_of_leads {other : Plane} (h : disk.Leads (file stem plane) place)
    (hother : disk'.Leads (file stem other) place) : plane.channel = other.channel := by
  obtain ⟨front, last, hparts⟩ := Path.parts_append stem
  have hname : ∀ {disk : Disk} {plane : Plane}, disk.Leads (file stem plane) place →
      ∃ home, place = home ++ [last ++ suffix plane.channel] := by
    rintro disk plane ⟨parts, home, name, hlookup, -, -, -, rfl⟩
    have hsplit := Disk.lookupParts_eq_ok hlookup
    rw [file, path_letter, hparts _ (slash_not_mem_suffix _)] at hsplit
    obtain ⟨-, hlast⟩ := List.append_inj' hsplit rfl
    exact ⟨home, by rw [hlast]⟩
  obtain ⟨home, rfl⟩ := hname h
  obtain ⟨home', hsame⟩ := hname hother
  obtain ⟨-, hlast⟩ := List.append_inj' hsame rfl
  exact suffix_injective (String.append_right_inj .. |>.mp (List.singleton_inj.mp hlast))

/-- The dumps of the planes are on the disk, which is else as before but for new folders. -/
structure Dumped (stem : String) (planes : List Plane) (before after : World α) : Prop where
  events : after.events = before.events
  places : ∃ places, before.disk.Extends after.disk places ∧
    ∀ place ∈ places, ∃ plane ∈ planes, after.disk.Leads (file stem plane) place
  stored : ∀ plane ∈ planes, ∃ place, after.disk.Leads (file stem plane) place ∧
    after.disk.entry? place = some (.file (encode plane.grid))

/-- Planes of different channels do not overwrite each other. -/
theorem on_writePlanes (hchannels : (planes.map Plane.channel).Nodup)
    (h : Task.on (writePlanes stem planes) world = (.ok paths, after)) :
    paths = planes.map (file stem) ∧ Dumped stem planes world after := by
  induction planes generalizing world paths with
  | nil =>
    cases h
    exact ⟨rfl, rfl, ⟨[], .refl _, by simp⟩, by simp⟩
  | cons plane planes ih =>
    rw [List.map_cons, List.nodup_cons] at hchannels
    obtain ⟨hfresh, hchannels⟩ := hchannels
    obtain ⟨⟨⟩, written, hwrite, h⟩ := Task.on_bind_eq_ok.mp h
    obtain ⟨rest, last, hrest, h⟩ := Task.on_bind_eq_ok.mp h
    cases h
    obtain ⟨place, hleads, hfile, hextends, hevents⟩ := Task.on_writeOutput_eq_ok hwrite
    obtain ⟨rfl, hevents', ⟨places, hextends', hplaces⟩, hstored⟩ := ih hchannels hrest
    have hleads' : after.disk.Leads (file stem plane) place :=
      (hleads.of_extends hextends).of_extends hextends'
    -- No later plane goes to the place just written.
    have hplace : place ∉ places := by
      intro hmem
      obtain ⟨other, hother, hleadsOther⟩ := hplaces place hmem
      exact hfresh (channel_eq_of_leads hleads' hleadsOther ▸ List.mem_map_of_mem hother)
    refine ⟨rfl, hevents'.trans hevents, ⟨[place] ++ places, hextends.trans hextends', ?_⟩, ?_⟩
    · intro other hother
      rcases List.mem_cons.mp hother with rfl | hother
      · exact ⟨plane, List.mem_cons_self, hleads'⟩
      · obtain ⟨later, hlater, hleadsLater⟩ := hplaces other hother
        exact ⟨later, List.mem_cons_of_mem plane hlater, hleadsLater⟩
    · intro other hother
      rcases List.mem_cons.mp hother with rfl | hother
      · exact ⟨place, hleads', hextends'.file hplace hfile⟩
      · exact hstored other hother

theorem Dumped.read (h : Dumped stem planes world after) (hplane : plane ∈ planes) :
    after.disk.read (file stem plane) = .ok (encode plane.grid) := by
  obtain ⟨place, hleads, hfile⟩ := h.stored plane hplane
  exact hleads.read hfile

/-- What is read from a dump has as many samples as were written. -/
theorem samples_of_decode_encode {shape : Shape} {grid result : Grid UInt8}
    (h : decode shape (encode grid) = .ok result) : shape.area = grid.samples.size := by
  rw [decode, encode, Utf8.decode_toUTF8] at h
  obtain ⟨text, htext, h⟩ := bind_eq_ok.mp h
  obtain ⟨expected, hexpected, h⟩ := bind_eq_ok.mp h
  obtain ⟨samples, hsamples, h⟩ := bind_eq_ok.mp h
  obtain rfl : render grid = text := Except.ok.inj htext
  obtain rfl := Except.ok.inj ((mapM_words_render grid).symm.trans hsamples)
  split at h
  · cases h
  · rename_i hlength
    obtain ⟨-, rfl⟩ := sampleCount_eq_ok.mp hexpected
    simpa using (not_not.mp hlength).symm

end Dump

end Planar
