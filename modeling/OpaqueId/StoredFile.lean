import OpaqueId.Settings

/-! # Stored files: what lies where the settings are saved

    Reading takes the absence of the file for empty settings, and saving
    makes the file anew whatever it held; neither works where something else
    than a file is in the way. -/

namespace OpaqueId

/-- What lies at the place of the settings file. -/
inductive StoredFile where
  /-- nothing; the directories are made when they are needed -/
  | absent
  | text (content : String)
  /-- a file whose bytes are no UTF-8 text -/
  | binary (bytes : List UInt8)
  /-- a directory of the file's name -/
  | directory
  /-- a file in the place of a directory on the way -/
  | blocked
deriving DecidableEq

namespace StoredFile

/-- A file with the given bytes. -/
def ofBytes (bytes : List UInt8) : StoredFile :=
  match String.fromUTF8? ⟨bytes.toArray⟩ with
  | some content => .text content
  | none => .binary bytes

/-- The content of the file, if there is one and it is a text. -/
def content? : StoredFile → Option String
  | .text content => some content
  | _ => none

/-- Why settings cannot be loaded or saved. -/
inductive Fault where
  /-- the file cannot be read as text -/
  | unreadable
  /-- the text holds no settings -/
  | unparsable
  /-- the directory cannot be made -/
  | noDirectory
  /-- the file cannot be written -/
  | unwritable
deriving DecidableEq

/-- The settings that were saved. -/
def load : StoredFile → Except Fault Settings
  | .absent | .blocked => .ok .empty
  | .directory | .binary _ => .error .unreadable
  | .text content =>
    match Settings.read? content with
    | some settings => .ok settings
    | none => .error .unparsable

/-- The file after the settings have been saved in it. -/
def save (settings : Settings) : StoredFile → Except Fault StoredFile
  | .blocked => .error .noDirectory
  | .directory => .error .unwritable
  | .absent | .text _ | .binary _ => .ok (.text settings.render)

/-- Saved settings are what the file holds. -/
theorem eq_of_save {settings : Settings} {file after : StoredFile}
    (h : file.save settings = .ok after) : after = .text settings.render := by
  cases file <;> cases h <;> rfl

end StoredFile

end OpaqueId
