import Planar.Proofs.Comparing
import Planar.Proofs.Folders

/-! What is on the disk once the drawings of a comparison are written. -/
namespace Planar

variable {α : Type} {comparer : Comparer α} {drawing : Drawing}
  {drawings : List Drawing} {paths : List String} {disk disk' : Disk} {place : Place}
  {places : List Place} {world after : World α} {bytes : ByteArray}

namespace Comparer

/-- The drawing's encoding is at the place to which the drawing's path leads. -/
structure Stored (comparer : Comparer α) (disk : Disk) (drawing : Drawing) (place : Place)
    (bytes : ByteArray) : Prop where
  encoded : comparer.encoder.encode drawing.picture = .ok bytes
  leads : disk.Leads drawing.path place
  file : disk.entry? place = some (.file bytes)

/-- The drawing is to be a file right in the configured folder. -/
def Inside (comparer : Comparer α) (drawing : Drawing) : Prop :=
  ∃ name : String, '/' ∉ name.toList ∧ drawing.path = Path.join comparer.config.folder name

theorem Stored.of_extends (h : comparer.Stored disk drawing place bytes)
    (hextends : disk.Extends disk' places) (hplace : place ∉ places) :
    comparer.Stored disk' drawing place bytes :=
  ⟨h.encoded, h.leads.of_extends hextends, hextends.file hplace h.file⟩

/-- Different paths lead to different places, as long as both are right in the folder. -/
theorem path_eq_of_leads {other : Drawing} (h : comparer.Inside drawing)
    (hother : comparer.Inside other) (hleads : disk.Leads drawing.path place)
    (hleads' : disk'.Leads other.path place) : drawing.path = other.path := by
  obtain ⟨name, hname, hpath⟩ := h
  obtain ⟨name', hname', hpath'⟩ := hother
  rw [hpath] at hleads
  rw [hpath'] at hleads'
  obtain ⟨home, -, rfl⟩ := Disk.leads_join hname hleads
  obtain ⟨home', -, hsame⟩ := Disk.leads_join hname' hleads'
  rw [hpath, hpath', List.singleton_inj.mp (List.append_inj' hsame rfl).2]

/-- The drawings' encodings are on the disk, which is else as before but for new folders. -/
structure Written (comparer : Comparer α) (drawings : List Drawing) (before after : World α) :
    Prop where
  events : after.events = before.events
  places : ∃ places, before.disk.Extends after.disk places ∧
    ∀ place ∈ places, ∃ drawing ∈ drawings, after.disk.Leads drawing.path place
  stored : ∀ drawing ∈ drawings, ∃ place bytes,
    comparer.Stored after.disk drawing place bytes

theorem written_nil (world : World α) : comparer.Written [] world world :=
  ⟨rfl, ⟨[], .refl _, by simp⟩, by simp⟩

/-- A stored drawing outlasts others that go elsewhere or encode to the same bytes. -/
theorem Written.keeps (h : comparer.Written drawings world after)
    (hinside : ∀ other ∈ drawings, comparer.Inside other) (hdrawing : comparer.Inside drawing)
    (hsame : ∀ other ∈ drawings, drawing.path = other.path →
      comparer.encoder.encode drawing.picture = comparer.encoder.encode other.picture)
    (hstored : comparer.Stored world.disk drawing place bytes) :
    comparer.Stored after.disk drawing place bytes := by
  obtain ⟨places, hextends, hplaces⟩ := h.places
  by_cases hplace : place ∈ places
  · obtain ⟨other, hother, hleads⟩ := hplaces place hplace
    have hpath := path_eq_of_leads hdrawing (hinside other hother) hstored.leads hleads
    obtain ⟨place', bytes', hstored'⟩ := h.stored other hother
    obtain rfl := hleads.unique hstored'.leads
    have hbytes : Except.ok bytes = .ok bytes' :=
      hstored.encoded.symm.trans ((hsame other hother hpath).trans hstored'.encoded)
    cases hbytes
    exact ⟨hstored.encoded, hstored.leads.of_extends hextends, hstored'.file⟩
  · exact hstored.of_extends hextends hplace

theorem on_writeDrawings_cons (hencoded : comparer.encoder.encode drawing.picture = .ok bytes)
    (htarget : world.disk.target drawing.path = .ok place)
    (hrest : Task.on (comparer.writeDrawings drawings)
      { world with disk := world.disk.insert place (.file bytes) } = (.ok paths, after)) :
    Task.on (comparer.writeDrawings (drawing :: drawings)) world =
      (.ok (drawing.path :: paths), after) := by
  have hwrite : Task.on (Task.writeOutput drawing.path bytes) world =
      (.ok (), { world with disk := world.disk.insert place (.file bytes) }) := by
    rw [Task.on_writeOutput, Disk.write, htarget]
    rfl
  refine Task.on_bind_eq_ok.mpr ⟨bytes, world, ?_, Task.on_bind_eq_ok.mpr ⟨(), _, hwrite,
    Task.on_bind_eq_ok.mpr ⟨paths, after, hrest, rfl⟩⟩⟩
  rw [Task.on_except, hencoded]

/-- Drawings of different paths do not overwrite each other. -/
theorem on_writeDrawings (hinside : ∀ drawing ∈ drawings, comparer.Inside drawing)
    (hpaths : (drawings.map Drawing.path).Nodup)
    (h : Task.on (comparer.writeDrawings drawings) world = (.ok paths, after)) :
    paths = drawings.map Drawing.path ∧ comparer.Written drawings world after := by
  induction drawings generalizing world paths with
  | nil =>
    cases h
    exact ⟨rfl, written_nil _⟩
  | cons drawing drawings ih =>
    rw [List.map_cons, List.nodup_cons] at hpaths
    obtain ⟨hfresh, hpaths⟩ := hpaths
    obtain ⟨bytes, between, hencode, h⟩ := Task.on_bind_eq_ok.mp h
    obtain ⟨⟨⟩, written, hwrite, h⟩ := Task.on_bind_eq_ok.mp h
    obtain ⟨rest, last, hrest, h⟩ := Task.on_bind_eq_ok.mp h
    cases h
    rw [Task.on_except] at hencode
    obtain ⟨hencoded, rfl⟩ := Prod.mk.inj hencode
    obtain ⟨place, hleads, hfile, hextends, hevents⟩ := Task.on_writeOutput_eq_ok hwrite
    have hinside' := fun other hother => hinside other (List.mem_cons_of_mem drawing hother)
    obtain ⟨rfl, hevents', ⟨places, hextends', hplaces⟩, hstored⟩ := ih hinside' hpaths hrest
    have hleads' := hleads.of_extends hextends
    -- The place just written is none that a later drawing goes to.
    have hplace : place ∉ places := by
      intro hmem
      obtain ⟨other, hother, hleadsOther⟩ := hplaces place hmem
      have hsame := path_eq_of_leads (hinside drawing List.mem_cons_self) (hinside' other hother)
        hleads' hleadsOther
      exact hfresh (hsame ▸ List.mem_map_of_mem hother)
    have hfirst : comparer.Stored after.disk drawing place bytes :=
      Stored.of_extends ⟨hencoded, hleads', hfile⟩ hextends' hplace
    refine ⟨rfl, hevents'.trans hevents, ⟨[place] ++ places, hextends.trans hextends', ?_⟩, ?_⟩
    · intro other hother
      rcases List.mem_cons.mp hother with rfl | hother
      · exact ⟨drawing, List.mem_cons_self, hfirst.leads⟩
      · obtain ⟨later, hlater, hleadsLater⟩ := hplaces other hother
        exact ⟨later, List.mem_cons_of_mem drawing hlater, hleadsLater⟩
    · intro other hother
      rcases List.mem_cons.mp hother with rfl | hother
      · exact ⟨place, bytes, hfirst⟩
      · exact hstored other hother

/-- New folders come before the drawings. -/
theorem Written.of_makeFolders {made : World α} (hdisk : world.disk.Extends made.disk [])
    (hevents : made.events = world.events) (h : comparer.Written drawings made after) :
    comparer.Written drawings world after := by
  obtain ⟨places, hextends, hplaces⟩ := h.places
  exact ⟨h.events.trans hevents, ⟨places, hdisk.trans hextends, hplaces⟩, h.stored⟩

theorem on_makeFolders_eq_ok {path : String} {made : World α}
    (h : Task.on (Task.makeFolders path) world = (.ok (), made)) :
    world.disk.Extends made.disk [] ∧ made.events = world.events := by
  have hextends := Disk.makeFolders_extends world.disk path
  rw [Task.on_makeFolders] at h
  rcases hmade : world.disk.makeFolders path with ⟨outcome, disk⟩
  rw [hmade] at h hextends
  cases outcome with
  | error fault => cases h
  | ok _ =>
    cases h
    exact ⟨hextends, rfl⟩

variable [Scalar α] [Analytic α] {native reference candidate : Labelled} {report result : Report α}

theorem on_compare_of_drawings {made : World α} (comparer : Comparer α)
    (hassess : comparer.assess native reference candidate = .ok (report, drawings))
    (hsome : drawings ≠ [])
    (hfolder : Task.on (Task.makeFolders comparer.config.folder) world = (.ok (), made))
    (hwritten : Task.on (comparer.writeDrawings drawings) made = (.ok paths, after)) :
    Task.on (comparer.compare native reference candidate) world =
      (.ok { report with artifacts := paths }, after) := by
  rw [on_compare_of_ok comparer hassess, if_pos hsome]
  exact Task.on_bind_eq_ok.mpr ⟨(), made, hfolder,
    Task.on_bind_eq_ok.mpr ⟨paths, after, hwritten, rfl⟩⟩

theorem on_compare_eq_ok
    (hassess : comparer.assess native reference candidate = .ok (report, drawings))
    (hinside : ∀ drawing ∈ drawings, comparer.Inside drawing)
    (hpaths : (drawings.map Drawing.path).Nodup)
    (h : Task.on (comparer.compare native reference candidate) world = (.ok result, after)) :
    result = { report with artifacts := drawings.map Drawing.path } ∧
      comparer.Written drawings world after := by
  rw [on_compare_of_ok comparer hassess] at h
  split at h
  · obtain ⟨⟨⟩, made, hmade, h⟩ := Task.on_bind_eq_ok.mp h
    obtain ⟨paths, last, hwritten, h⟩ := Task.on_bind_eq_ok.mp h
    cases h
    obtain ⟨hdisk, hevents⟩ := on_makeFolders_eq_ok hmade
    obtain ⟨rfl, hall⟩ := on_writeDrawings hinside hpaths hwritten
    exact ⟨rfl, hall.of_makeFolders hdisk hevents⟩
  · obtain ⟨paths, last, hwritten, h⟩ := Task.on_bind_eq_ok.mp h
    cases h
    obtain ⟨rfl, hall⟩ := on_writeDrawings hinside hpaths hwritten
    exact ⟨rfl, hall⟩

end Comparer

end Planar
