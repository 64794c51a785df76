import OpaqueId.Proofs.Grid
import OpaqueId.Session.Query

/-! # Printing: what results look like

    Values that were minted or decoded are printed one a line, or as a list of
    JSON objects with a line for each field.  Verdicts are printed as a table
    under a row of heads, or as such a list.

    What is expected here is written out, with every line break, comma and blank
    (`mintedText`, `decodedText`, `ShowsVerdicts`), and shares nothing with what
    puts the output together but the literals of texts and the display width.
    Main statements: `showMinted_zip`, `showDecoded_zip`, `showsVerdicts`. -/

namespace OpaqueId

/-! ## Lists of objects -/

namespace Json

/-- A list of objects, given the fields of each: braces and brackets on lines of their own,
    fields indented twice, and a line break at the end. -/
def objectsText : (objects : List (List String)) → String
  | [] => "[]\n"
  | objects => "[\n" ++ String.intercalate ",\n" (objects.map fun fields =>
      "  \x7b\n" ++ String.intercalate ",\n" (fields.map ("    " ++ ·)) ++ "\n  \x7d") ++ "\n]\n"

/-- The fields of a record that stands in a list. -/
def fieldTexts (record : Record) : List String :=
  record.map fun (name, value) => literal name ++ ": " ++ value.render 2

/-- Items are laid out one a line, with brackets on lines of their own. -/
theorem layOut_of_ne_nil {items : List String} (h : items ≠ []) (opening closing : String)
    (depth : Nat) :
    layOut opening closing depth items =
      opening ++ "\n" ++ String.intercalate ",\n" (items.map fun item => indent (depth + 1) ++ item)
        ++ "\n" ++ indent depth ++ closing := by
  rw [layOut, if_neg (by rwa [List.isEmpty_iff])]

/-- A record with fields, as it stands in a list. -/
theorem indent_render {record : Record} (h : record ≠ []) :
    indent 1 ++ record.render 1 =
      "  \x7b\n" ++ String.intercalate ",\n" ((fieldTexts record).map ("    " ++ ·)) ++ "\n  \x7d" := by
  have hfields : fieldTexts record ≠ [] := fun hnil => h (List.map_eq_nil_iff.mp hnil)
  have hopening : indent 1 ++ ("\x7b" ++ "\n") = "  \x7b\n" := by decide +kernel
  have hclosing : "\n" ++ (indent 1 ++ "\x7d") = "\n  \x7d" := by decide +kernel
  have hindent : indent (1 + 1) = "    " := by decide +kernel
  rw [Record.render]
  show indent 1 ++ layOut "\x7b" "\x7d" 1 (fieldTexts record) = _
  rw [layOut_of_ne_nil hfields, hindent, ← hopening, ← hclosing]
  simp only [String.append_assoc]

/-- Items that become records with fields are written as a list of objects. -/
theorem renderAll_map {α : Type} {record : α → Record} (h : ∀ x, record x ≠ []) (items : List α) :
    renderAll (items.map record) ++ "\n" =
      objectsText (items.map fun x => fieldTexts (record x)) := by
  cases items with
  | nil => rfl
  | cons first items =>
      have hobjects : (((first :: items).map record).map (Record.render 1)).map
          (indent (0 + 1) ++ ·) =
          ((first :: items).map fun x => fieldTexts (record x)).map fun fields =>
            "  \x7b\n" ++ String.intercalate ",\n" (fields.map ("    " ++ ·)) ++ "\n  \x7d" := by
        simp only [List.map_map]
        exact List.map_congr_left fun x _ => indent_render (h x)
      have hopening : "[" ++ "\n" = "[\n" := by decide +kernel
      have hclosing : "\n" ++ (indent 0 ++ ("]" ++ "\n")) = "\n]\n" := by decide +kernel
      rw [renderAll, layOut_of_ne_nil (by simp), hobjects, hopening]
      simp only [String.append_assoc, hclosing]
      rfl

end Json

/-! ## Values and verdicts -/

namespace Session

open CommandLine (Format)

/-- What is printed about values that were minted. -/
def mintedText (values : List Nat) (ids : List String) : Format → String
  | .plain => String.join (ids.map (· ++ "\n"))
  | .json => Json.objectsText (List.zipWith (fun value id =>
      ["\"sequence\": " ++ toString value, "\"identifier\": " ++ Json.literal id]) values ids)

/-- What is printed about identifiers that were decoded. -/
def decodedText (ids : List String) (values : List Nat) : Format → String
  | .plain => String.join (values.map (toString · ++ "\n"))
  | .json => Json.objectsText (List.zipWith (fun id value =>
      ["\"identifier\": " ++ Json.literal id, "\"sequence\": " ++ toString value]) ids values)

/-- The heads of the table of verdicts. -/
def headCells : Fin 3 → String
  | 0 => "Identifier"
  | 1 => "Valid"
  | 2 => "Reason"

/-- The word for a truth value. -/
def wordOf (valid : Bool) : String := if valid then "true" else "false"

theorem toString_eq_wordOf (valid : Bool) : toString valid = wordOf valid := by
  cases valid <;> rfl

/-- The row of an identifier and its verdict. -/
def verdictCells (id : String) (verdict : Bool × String) : Fin 3 → String
  | 0 => id
  | 1 => wordOf verdict.1
  | 2 => verdict.2

/-- The output shows a verdict on every identifier, in order. -/
def ShowsVerdicts (ids : List String) (verdicts : List (Bool × String)) :
    Format → (output : String) → Prop
  | .plain, output => ∃ table, output = table ++ "\n" ∧
      Text.ShowsTable (headCells :: List.zipWith verdictCells ids verdicts) table
  | .json, output => output = Json.objectsText (List.zipWith (fun id verdict =>
      ["\"identifier\": " ++ Json.literal id, "\"valid\": " ++ wordOf verdict.1,
        "\"reason\": " ++ Json.literal verdict.2]) ids verdicts)

/-- The names of the fields, between their marks and with the colon behind them. -/
theorem literal_names :
    Json.literal "sequence" ++ ": " = "\"sequence\": " ∧
      Json.literal "identifier" ++ ": " = "\"identifier\": " ∧
      Json.literal "valid" ++ ": " = "\"valid\": " ∧
      Json.literal "reason" ++ ": " = "\"reason\": " := by
  decide +kernel

/-- Values that were minted are shown as expected. -/
theorem showMinted_zip {values : List Nat} {ids : List String}
    (h : values.length = ids.length) (format : Format) :
    showMinted (values.zip ids) format = mintedText values ids format := by
  obtain ⟨hsequence, hidentifier, -, -⟩ := literal_names
  cases format with
  | plain =>
      rw [showMinted, List.map_snd_zip (Nat.le_of_eq h.symm)]
      rfl
  | json =>
      rw [showMinted, Json.renderAll_map fun _ => List.cons_ne_nil _ _, List.map_zip_eq_zipWith,
        mintedText, ← hsequence, ← hidentifier]
      rfl

/-- Identifiers that were decoded are shown as expected. -/
theorem showDecoded_zip {ids : List String} {values : List Nat}
    (h : ids.length = values.length) (format : Format) :
    showDecoded (ids.zip values) format = decodedText ids values format := by
  obtain ⟨hsequence, hidentifier, -, -⟩ := literal_names
  cases format with
  | plain =>
      have hvalues : (ids.zip values).map ((toString · ++ "\n") ∘ Prod.snd) =
          values.map (toString · ++ "\n") := by
        rw [← List.map_map, List.map_snd_zip (Nat.le_of_eq h.symm)]
      rw [showDecoded, unlines, List.map_map]
      exact congrArg String.join hvalues
  | json =>
      rw [showDecoded, Json.renderAll_map fun _ => List.cons_ne_nil _ _, List.map_zip_eq_zipWith,
        decodedText, ← hsequence, ← hidentifier]
      rfl

/-- Rows are shown as the verdicts in them. -/
theorem showsVerdicts (rows : List Validated) (format : Format) :
    ShowsVerdicts (rows.map (·.1)) (rows.map fun row => (row.2.isNone, reasonText row.2)) format
      (showValidated rows format) := by
  obtain ⟨-, hidentifier, hvalid, hreason⟩ := literal_names
  cases format with
  | plain =>
      -- heads and cells are those of a table of three columns
      have hheads : validatedHeads = headCells := by
        funext column
        match column with
        | 0 | 1 | 2 => rfl
      have hcells : ∀ row, validatedCells row =
          verdictCells row.1 (row.2.isNone, reasonText row.2) := by
        intro row
        funext column
        match column with
        | 0 | 2 => rfl
        | 1 => exact toString_eq_wordOf row.2.isNone
      refine ⟨_, rfl, ?_⟩
      rw [List.zipWith_map, List.zipWith_self, ← hheads]
      simp only [← hcells]
      exact Text.Grid.showsTable_render _
  | json =>
      show showValidated rows .json = _
      rw [showValidated, Json.renderAll_map fun _ => List.cons_ne_nil _ _, List.zipWith_map,
        List.zipWith_self, ← hidentifier, ← hvalid, ← hreason]
      rfl

end Session

end OpaqueId
