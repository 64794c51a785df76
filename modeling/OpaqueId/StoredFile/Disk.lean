import OpaqueId.StoredFile

/-! # Disks: file operations that may fail

    A file operation can fail for reasons that have nothing to do with what
    lies at the place of the settings file: a missing permission, a full
    disk.  A `Disk` says which operations go through while one command runs;
    one that does not go through leaves the file as it is.  On a sound disk
    loading and saving are those of the file. -/

namespace OpaqueId

/-- The file operations that go through while a command runs. -/
structure Disk where
  /-- looking whether the file is there; a failure counts as no file -/
  finds : Bool
  reads : Bool
  makesDirectory : Bool
  writes : Bool
deriving DecidableEq

namespace Disk

/-- A disk on which every operation goes through. -/
def sound : Disk := ⟨true, true, true, true⟩

/-- The settings that were saved, as far as the disk gives them. -/
def load (d : Disk) (file : StoredFile) : Except StoredFile.Fault Settings :=
  if d.finds then
    match file with
    | .absent | .blocked => .ok .empty
    | .directory | .binary _ | .text _ => if d.reads then file.load else .error .unreadable
  else .ok .empty

/-- The settings that the disk gives; empty ones where loading fails. -/
def loadOrNone (d : Disk) (file : StoredFile) : Settings :=
  match d.load file with
  | .ok settings => settings
  | .error _ => .empty

/-- The file after the settings have been saved in it. -/
def save (d : Disk) (settings : Settings) (file : StoredFile) :
    Except StoredFile.Fault StoredFile :=
  if d.makesDirectory then
    match file.save settings with
    | .error fault => .error fault
    | .ok after => if d.writes then .ok after else .error .unwritable
  else .error .noDirectory

/-- A sound disk loads what is there. -/
theorem load_sound (file : StoredFile) : sound.load file = file.load := by
  cases file <;> rfl

theorem save_sound (settings : Settings) (file : StoredFile) :
    sound.save settings file = file.save settings := by
  cases file <;> rfl

/-- Saving writes the settings or fails. -/
theorem eq_of_save {d : Disk} {settings : Settings} {file after : StoredFile}
    (h : d.save settings file = .ok after) : after = .text settings.render := by
  rw [save] at h
  split at h
  · cases hsave : file.save settings with
    | error fault =>
        rw [hsave] at h
        cases h
    | ok saved =>
        simp only [hsave] at h
        split at h
        · cases h
          exact StoredFile.eq_of_save hsave
        · cases h
  · cases h

end Disk

end OpaqueId
