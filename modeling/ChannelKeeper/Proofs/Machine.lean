import ChannelKeeper.Machine
import ChannelKeeper.Proofs.Action
import ChannelKeeper.Proofs.Files.Names
import ChannelKeeper.Proofs.Store.Relational

/-!
# Machines

What connecting to an embedded database, and writing a file, does to the machine.
Connecting changes no database, and on the disk it changes nothing but that it can make a
file where none was, if the address asks for that. Writing a file changes no database but
one that lies in this file. Which addresses are refused is not said.
-/

namespace ChannelKeeper

/-- The address asks for its database to be made where there is none. -/
def Dsn.AsksToCreate (dsn : String) : Prop :=
  ∃ url u, connectionUrl dsn = .ok url ∧ Url.parse url = .ok u ∧
    ("mode", "rwc") ∈ (Machine.addressParts u).2

namespace Machine


variable {m m' : Machine} {place : DatabasePlace}

theorem find?_others {place other : DatabasePlace} (h : other ≠ place)
    (databases : List (DatabasePlace × Relational.Database)) :
    (databases.filter (·.1 != place)).find? (·.1 == other) = databases.find? (·.1 == other) := by
  rw [List.find?_filter]
  congr 1
  funext a
  by_cases ha : a.1 = other <;> simp [ha, h]

theorem database_setDatabase (m : Machine) (place other : DatabasePlace)
    (db : Relational.Database) :
    (m.setDatabase place db).database other = if other = place then db else m.database other := by
  rw [database, setDatabase, List.find?_append]
  split
  · rename_i h
    subst h
    have hnone : (m.databases.filter (·.1 != other)).find? (·.1 == other) = none := by simp
    rw [hnone]
    simp
  · rename_i h
    rw [find?_others h]
    simp [Ne.symm h, database]

theorem database_set (m : Machine) (place other : DatabasePlace) :
    (m.setDatabase place (m.database place)).database other = m.database other := by
  rw [database_setDatabase]
  split
  · rename_i h
    rw [h]
  · rfl

-- ---------------------------------------------------------------------------
-- Connecting
-- ---------------------------------------------------------------------------

/-- The machine has the databases of another, and its disk but for a file that was made
where there was nothing, because that was asked for. -/
structure Extends (asked : Prop) (m m' : Machine) : Prop where
  databases : m'.databases = m.databases
  workingDirectory : m'.disk.workingDirectory = m.disk.workingDirectory
  disk : m'.disk.node? = m.disk.node? ∨ asked ∧ ∃ made, m.disk.node? made = none ∧
    ∀ other ≠ made, m'.disk.node? other = m.disk.node? other

variable {asked asked' : Prop}

theorem Extends.refl (asked : Prop) (m : Machine) : m.Extends asked m := ⟨rfl, rfl, .inl rfl⟩

theorem Extends.mono (h : m.Extends asked m') (himp : asked → asked') : m.Extends asked' m' :=
  { h with disk := h.disk.imp_right fun ⟨hasked, hmade⟩ => ⟨himp hasked, hmade⟩ }

theorem Extends.database (h : m.Extends asked m') (place : DatabasePlace) :
    m'.database place = m.database place := by
  rw [Machine.database, h.databases, Machine.database]

theorem withParameter_eq_orCreate {mode : OpenMode} {parameter : String × String}
    (h : mode.withParameter parameter = .ok .orCreate) :
    mode = .orCreate ∨ parameter = ("mode", "rwc") := by
  unfold OpenMode.withParameter at h
  split at h <;> cases h
  · exact .inl rfl
  · exact .inl rfl
  · exact .inr rfl
  · exact .inl rfl
  · exact .inl rfl
  · exact .inl rfl

/-- No other parameter asks for a database to be made. -/
theorem mem_of_openMode (h : openMode parameters = .ok .orCreate) :
    ("mode", "rwc") ∈ parameters := by
  have hfold : ∀ mode : OpenMode, parameters.foldlM OpenMode.withParameter mode = .ok .orCreate →
      mode = .orCreate ∨ ("mode", "rwc") ∈ parameters := by
    clear h
    induction parameters with
    | nil =>
      intro mode hmode
      cases hmode
      exact .inl rfl
    | cons parameter rest ih =>
      intro mode hmode
      rw [List.foldlM_cons] at hmode
      obtain ⟨next, hnext, hrest⟩ := bind_eq_ok.mp hmode
      rcases ih next hrest with rfl | hmem
      · rcases withParameter_eq_orCreate hnext with hmode | rfl
        · exact .inl hmode
        · exact .inr List.mem_cons_self
      · exact .inr (List.mem_cons_of_mem _ hmem)
  exact (hfold .existing h).resolve_left (by simp)

theorem openFile_extends (h : m.openFile path mode = .ok (place, m')) :
    m.Extends (mode = .orCreate) m' := by
  rw [openFile] at h
  split at h
  · cases h
  · rename_i location hlocate
    dsimp only at h
    split at h
    · cases h
    · split at h
      · cases h
        exact .refl _ _
      · cases h
    · rename_i hnone
      split at h
      · rename_i hmode
        split at h
        · rename_i disk hwrite
          cases h
          obtain ⟨at_, hat, -, rfl⟩ := Disk.writeFile_eq_ok hwrite
          cases hlocate.symm.trans hat
          exact ⟨rfl, Disk.workingDirectory_put _ _ _,
            .inr ⟨hmode, location, hnone, fun other hne => Disk.node?_put_of_ne hne⟩⟩
        · cases h
      · cases h

theorem openDatabase_extends (h : m.openDatabase url = .ok (place, m')) :
    m.Extends (∃ u, Url.parse url = .ok u ∧ ("mode", "rwc") ∈ (addressParts u).2) m' := by
  rw [openDatabase] at h
  split at h
  · cases h
  · rename_i u hurl
    dsimp only at h
    obtain ⟨mode, hmode, hopen⟩ := bind_eq_ok.mp h
    split at hopen
    · cases hopen
      exact .refl _ m
    · refine (openFile_extends hopen).mono ?_
      rintro rfl
      exact ⟨u, hurl, mem_of_openMode hmode⟩

theorem connect_eq_ok {g : Gateway Machine} (h : m.connect dsn = .ok (g, m')) :
    (∃ place, g = gateway place) ∧ m.Extends (Dsn.AsksToCreate dsn) m' := by
  rw [connect] at h
  split at h
  · cases h
  · rename_i url hdsn
    rw [connectUrl] at h
    dsimp only at h
    split at h
    · cases h
    · split at h
      · rename_i place _ hopen
        cases h
        refine ⟨⟨place, rfl⟩, (openDatabase_extends hopen).mono ?_⟩
        rintro ⟨u, hurl, hmode⟩
        exact ⟨url, u, hdsn, hurl, hmode⟩
      · cases h
    · cases h

theorem connect_extends (dsn : String) (m : Machine) : m.Extends (Dsn.AsksToCreate dsn)
    ((Action.change fun m : Machine => m.connect dsn).perform m).2 := by
  rcases h : (Action.change fun m : Machine => m.connect dsn).perform m with ⟨_ | g, m'⟩
  · obtain ⟨-, rfl⟩ := Action.perform_change_eq_error.mp h
    exact .refl _ m'
  · have hconnected := Action.perform_change_eq_ok.mp h
    exact (connect_eq_ok hconnected).2

-- ---------------------------------------------------------------------------
-- Files that are written
-- ---------------------------------------------------------------------------

/-- The place is none of the files at some paths. -/
def IsApart (written : String → Prop) (m : Machine) (place : DatabasePlace) : Prop :=
  ∀ path, written path → place ≠ .file (Disk.destination m.disk.workingDirectory path)

/-- The database is at a place apart from the files at some paths. -/
def HoldsApart (written : String → Prop) (m : Machine) (place : DatabasePlace)
    (db : Relational.Database) : Prop :=
  m.IsApart written place ∧ m.database place = db

variable {written : String → Prop}

theorem holdsApart_eq (hdirectory : m'.disk.workingDirectory = m.disk.workingDirectory)
    (hdatabase : ∀ place, m.IsApart written place → m'.database place = m.database place) :
    HoldsApart written m' = HoldsApart written m := by
  funext place db
  have hplace : m'.IsApart written place = m.IsApart written place := by
    rw [IsApart, hdirectory, IsApart]
  rw [HoldsApart, hplace, HoldsApart, eq_iff_iff, and_congr_right_iff]
  intro hapart
  rw [hdatabase place hapart]

theorem database_of_holdsApart (h : HoldsApart written m' = HoldsApart written m)
    (hapart : m.IsApart written place) : m'.database place = m.database place := by
  have hplace : HoldsApart written m place (m.database place) := ⟨hapart, rfl⟩
  rw [← h] at hplace
  exact hplace.2

theorem disk_write (m : Machine) (path content : String) :
    (m.write path content).2.disk = (m.disk.write path content).2 := by
  rw [write]
  dsimp only
  split <;> rfl

theorem database_write {path content : String}
    (h : place ≠ .file (Disk.destination m.disk.workingDirectory path)) :
    (m.write path content).2.database place = m.database place := by
  have hdirectory := Disk.workingDirectory_write m.disk path content
  rw [write]
  dsimp only
  split
  · rename_i location _ hlocate
    rw [Disk.locate_eq_ok hlocate, hdirectory]
    rw [database, find?_others h, database]
  · rfl

theorem holdsApart_write {path : String} (h : written path) (content : String) :
    HoldsApart written (m.write path content).2 = HoldsApart written m :=
  holdsApart_eq (by rw [disk_write, Disk.workingDirectory_write])
    fun _ hapart => database_write (hapart path h)

end Machine

end ChannelKeeper
