import OpaqueId.Refusal
import OpaqueId.StoredFile
import OpaqueId.Text.Grid

/-! # Failures and reports: how a command ends

    A report is what a command printed, and why it failed if it did.  The
    wording of a failure may be followed by a hint on what to do.  What is
    logged along the way is no part of a report. -/

namespace OpaqueId.Session

/-- The directory that the settings are saved in. -/
structure Place where
  directory : String
deriving DecidableEq

/-- The path of the settings file. -/
def Place.path (p : Place) : String := p.directory ++ "/config.json"

/-- Why a command failed. -/
inductive Failure where
  /-- no source names a template -/
  | noTemplate
  | refused (refusal : Refusal)
  | invalidIdentifiers (invalid total : Nat)
  | undecodable (id : String) (rejection : Rejection)
  /-- the number behind the last value of a range is too large -/
  | rangeOverflow (start count : Nat)
  | noValues
  | nothingToSave
  | file (fault : StoredFile.Fault)
deriving DecidableEq

/-- One character of a path between quotation marks. -/
def escapePathCharacter (c : Char) : List Char :=
  if c = '"' then ['\\', '"']
  else if c = '\\' then ['\\', '\\']
  else if c = '\n' then ['\\', 'n']
  else if c = '\r' then ['\\', 'r']
  else if c = '\t' then ['\\', 't']
  else if c = '\x00' then ['\\', '0']
  else [c]

/-- A path between quotation marks. -/
def quotePath (path : String) : String :=
  String.ofList ('"' :: (path.toList.flatMap escapePathCharacter ++ ['"']))

/-- What went wrong with the settings file. -/
def fileMessage (p : Place) : StoredFile.Fault → String
  | .unreadable => "Failed to read config from " ++ quotePath p.path
  | .unparsable => "Failed to parse config from " ++ quotePath p.path
  | .noDirectory => "Failed to create config directory " ++ quotePath p.directory
  | .unwritable => "Failed to write config to " ++ quotePath p.path

namespace Failure

def message (p : Place) : Failure → String
  | .noTemplate =>
    "No template given. Pass --template, set NOID_TEMPLATE, or run `noid --template <T> config set`."
  | .refused refusal => refusal.message
  | .invalidIdentifiers invalid total =>
    toString invalid ++ " of " ++ toString total ++ " identifiers are invalid"
  | .undecodable id rejection => "Cannot decode '" ++ id ++ "': " ++ rejection.message
  | .rangeOverflow start count =>
    "Range --start " ++ toString start ++ " --count " ++ toString count ++ " overflows u64"
  | .noValues => "No sequence values given. Pass values or --start/--count."
  | .nothingToSave => "Nothing to set. Pass --template and/or --alphabet."
  | .file fault => fileMessage p fault

/-- What to do about a failure, where there is something to say. -/
def hint? : Failure → Option String
  | .refused (.beyondCapacity ..) => some
    "Hint: Use a 'z' generator (e.g. prefix.zeek) for an identifier space that never runs out."
  | .refused (.template ..) =>
    some "Hint: Templates look like <prefix>.<r|s|z><e|d...>[k], e.g. bc.sdk."
  | .refused (.foreign _) => some
    "Hint: With a check symbol, the prefix may only use characters from the alphabet."
  | _ => none

end Failure

/-- Lines, each ended by a line break. -/
def unlines (lines : List String) : String :=
  String.join (lines.map (· ++ "\n"))

theorem unlines_cons (line : String) (lines : List String) :
    unlines (line :: lines) = line ++ "\n" ++ unlines lines := by
  rw [unlines, List.map_cons, String.join_cons, unlines]

/-- What a command printed and why it failed, if it did. -/
structure Report where
  output : String
  failure : Option Failure
deriving DecidableEq

namespace Report

/-- A command that succeeded. -/
def success (output : String) : Report := ⟨output, none⟩

/-- A command that failed before it printed anything. -/
def fail (failure : Failure) : Report := ⟨"", some failure⟩

/-- The report of a computation that may fail. -/
def ofExcept : Except Failure String → Report
  | .ok output => .success output
  | .error failure => .fail failure

def exitCode (r : Report) : Nat := if r.failure.isSome then 1 else 0

/-- What is printed about a failure, behind whatever was logged before it. -/
def errorText (p : Place) (r : Report) : String :=
  match r.failure with
  | none => ""
  | some failure =>
    unlines (("Error: " ++ failure.message p) ::
      match failure.hint? with
      | none => []
      | some hint => ["", hint])

/-- Nothing is printed exactly where there is no failure. -/
theorem errorText_eq_empty_iff (p : Place) (r : Report) :
    r.errorText p = "" ↔ r.exitCode = 0 := by
  obtain ⟨output, failure⟩ := r
  cases failure with
  | none => exact iff_of_true rfl rfl
  | some failure =>
      refine iff_of_false (fun h => ?_) Nat.one_ne_zero
      dsimp only [errorText] at h
      rw [unlines_cons, String.append_eq_empty_iff, String.append_eq_empty_iff] at h
      exact absurd h.1.2 (by decide)

/-- A failure on the settings file is told in one line. -/
theorem errorText_fail_file (p : Place) (fault : StoredFile.Fault) :
    (fail (.file fault)).errorText p = "Error: " ++ fileMessage p fault ++ "\n" := by
  dsimp only [errorText, fail, Failure.hint?, Failure.message]
  rw [unlines_cons]
  exact String.append_empty

end Report

end OpaqueId.Session
