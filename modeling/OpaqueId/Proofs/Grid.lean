import Mathlib.Data.List.FinRange
import Mathlib.Data.List.Forall2
import OpaqueId.Text.Grid

/-! # Grids: what a table shows

    A table shows rows of cells (`ShowsTable`).  Its lines are rules, and between
    two rules the lines of a row: as many as the highest cell has, each with
    that line of every cell, between bars and filled up with blanks
    (`ShowsLine`).  A column has just the width of the widest line in it.

    A grid is laid out line by line in this form, and no line of it has a break
    inside, so a reader who cuts the text at its breaks finds them again
    (`Grid.showsRows_render`).  Main statement: `Grid.showsTable_render`.

    What a line of a table looks like depends on the display width of what
    stands in it.  Plain characters take one column each, and a table of these
    is a rectangle (`ShowsRows.length_eq`). -/

namespace OpaqueId.Text

/-! ## The form of a table -/

/-- A rule: dashes below a cell and the blanks on both sides of it, between crosses. -/
inductive IsRule : (widths : List Nat) → (line : List Char) → Prop where
  | nil : IsRule [] ['+']
  | cons {width : Nat} {widths : List Nat} {line : List Char} : IsRule widths line →
      IsRule (width :: widths) ('+' :: (List.replicate (width + 2) '-' ++ line))

/-- A line with one line of every cell.  Each stands between bars, behind a blank and in
    front of another one and of as many as its column leaves. -/
inductive ShowsLine : (widths : List Nat) → (cells : List (List Char)) → (line : List Char) →
    Prop where
  | nil : ShowsLine [] [] ['|']
  | cons {width fill : Nat} {widths : List Nat} {cell : List Char} {cells : List (List Char)}
      {line : List Char} : lineWidth cell + fill = width → ShowsLine widths cells line →
      ShowsLine (width :: widths) (cell :: cells)
        ('|' :: ' ' :: (cell ++ List.replicate (fill + 1) ' ' ++ line))

variable {columns : Nat}

/-- The lines of a row: there is a line where some cell has one, and it shows the lines
    that all cells have there, which are empty below the end of a cell. -/
structure ShowsRow (widths : List Nat) (row : Fin columns → String)
    (block : List (List Char)) : Prop where
  height : ∀ i, i < block.length ↔ ∃ j, i < ((row j).toList.splitOn '\n').length
  shows : ∀ i line, block[i]? = some line →
    ShowsLine widths (List.ofFn fun j => ((row j).toList.splitOn '\n').getD i []) line

/-- The lines of a table: a rule, and for every row its lines and another rule. -/
inductive ShowsRows (widths : List Nat) :
    (rows : List (Fin columns → String)) → (block : List (List Char)) → Prop where
  | nil {line : List Char} : IsRule widths line → ShowsRows widths [] [line]
  | cons {line : List Char} {row : Fin columns → String} {rows : List (Fin columns → String)}
      {block below : List (List Char)} : IsRule widths line → ShowsRow widths row block →
      ShowsRows widths rows below → ShowsRows widths (row :: rows) (line :: (block ++ below))

/-- A column is as wide as the widest line of a cell in it, and no wider. -/
def FitsColumn (rows : List (Fin columns → String)) (j : Fin columns) (width : Nat) : Prop :=
  ∀ n, n < width ↔
    ∃ row ∈ rows, ∃ line ∈ (row j).toList.splitOn '\n', n < lineWidth line

/-- A text is the table of the rows. -/
structure ShowsTable (rows : List (Fin columns → String)) (text : String) : Prop where
  /-- its lines show the rows, in columns of fitting width -/
  shows : ∃ widths : Fin columns → Nat, (∀ j, FitsColumn rows j (widths j)) ∧
    ShowsRows (List.ofFn widths) rows (text.toList.splitOn '\n')
  /-- a table of plain characters is a rectangle -/
  rectangle : (∀ row ∈ rows, ∀ j, ∀ c ∈ (row j).toList, c.toNat ≤ 0xA0) →
    ∃ length, ∀ line ∈ text.toList.splitOn '\n', line.length = length

/-! ## Maxima and pieces -/

/-- A maximum exceeds a number exactly if one of its terms does. -/
theorem lt_foldl_max {sizes : List Nat} {n least : Nat} :
    n < sizes.foldl max least ↔ n < least ∨ ∃ size ∈ sizes, n < size := by
  induction sizes generalizing least with
  | nil => simp
  | cons size sizes ih =>
      rw [List.foldl_cons, ih, List.exists_mem_cons_iff, ← or_assoc]
      exact or_congr_left (by omega)

/-- A text is cut at one character into pieces of its other characters. -/
theorem mem_of_mem_splitOn {c d : Char} {text piece : List Char}
    (h : piece ∈ text.splitOn c) (hd : d ∈ piece) : d ≠ c ∧ d ∈ text := by
  induction text generalizing piece with
  | nil =>
      rw [List.splitOn_nil, List.mem_singleton] at h
      rw [h] at hd
      exact absurd hd List.not_mem_nil
  | cons e text ih =>
      have later : ∀ piece ∈ text.splitOn c, d ∈ piece → d ≠ c ∧ d ∈ e :: text :=
        fun _ h hd => (ih h hd).imp_right (List.mem_cons_of_mem e)
      rw [List.splitOn_cons_eq_if_modifyHead] at h
      split at h
      · rcases List.mem_cons.mp h with rfl | h
        · exact absurd hd List.not_mem_nil
        · exact later _ h hd
      · -- the character belongs to the first piece of the rest
        rename_i hne
        obtain ⟨first, others, hpieces⟩ := List.exists_cons_of_ne_nil (List.splitOn_ne_nil c text)
        rw [hpieces] at h later
        rcases List.mem_cons.mp h with rfl | h
        · rcases List.mem_cons.mp hd with rfl | hd
          · exact ⟨fun hsame => hne (beq_iff_eq.mpr hsame), List.mem_cons_self⟩
          · exact later first List.mem_cons_self hd
        · exact later piece (List.mem_cons_of_mem _ h) hd

/-! ## What is laid out -/

/-- A rule has a cross at both ends, and one between two columns. -/
theorem isRule_rule (widths : List Nat) : IsRule widths (rule widths) := by
  induction widths with
  | nil => exact .nil
  | cons width widths ih =>
      have hrule : rule (width :: widths) =
          '+' :: (List.replicate (width + 2) '-' ++ rule widths) := by
        simp [rule]
      rw [hrule]
      exact .cons ih

/-- Lines that fit into their columns are shown next to each other. -/
theorem showsLine_rowLine {widths : List Nat} {cells : List (List Char)}
    (h : List.Forall₂ (fun width cell => lineWidth cell ≤ width) widths cells) :
    ShowsLine widths cells (rowLine widths cells) := by
  induction h with
  | nil => exact .nil
  | @cons width cell widths cells hcell _ ih =>
      have hline : rowLine (width :: widths) (cell :: cells) =
          '|' :: ' ' :: (cell ++ List.replicate (width - lineWidth cell + 1) ' ' ++
            rowLine widths cells) := by
        simp [rowLine, pad, List.replicate_succ']
      rw [hline]
      exact .cons (Nat.add_sub_of_le hcell) ih

variable {rows : List (Fin columns → String)} {row : Fin columns → String}

/-- What holds of an empty line and of the lines of a cell holds of it at any height. -/
theorem getD_splitOn {P : List Char → Prop} (hempty : P []) {cell : String}
    (h : ∀ line ∈ cell.toList.splitOn '\n', P line) (i : Nat) :
    P ((cell.toList.splitOn '\n').getD i []) := by
  rw [List.getD_eq_getElem?_getD]
  cases hline : (cell.toList.splitOn '\n')[i]? with
  | none => exact hempty
  | some line => exact h line (List.mem_of_getElem? hline)

/-- The lines of a row are shown in columns that they fit into. -/
theorem showsRow_rowLines {widths : Fin columns → Nat}
    (h : ∀ j, ∀ line ∈ (row j).toList.splitOn '\n', lineWidth line ≤ widths j) :
    ShowsRow (List.ofFn widths) row
      (rowLines (List.ofFn widths) (List.ofFn fun j => lines (row j))) := by
  constructor
  · intro i
    simp only [rowLines, List.length_map, List.length_range, lt_foldl_max, Nat.not_lt_zero,
      false_or, List.mem_map, List.mem_ofFn, exists_exists_eq_and, lines]
  · intro i line hline
    obtain ⟨hi, rfl⟩ := List.getElem?_eq_some_iff.mp hline
    simp only [rowLines, List.getElem_map, List.getElem_range, List.map_ofFn]
    refine showsLine_rowLine ?_
    simp only [List.ofFn_eq_map, List.forall₂_map_left_iff, List.forall₂_map_right_iff,
      List.forall₂_same]
    exact fun j _ => getD_splitOn (P := fun line => lineWidth line ≤ widths j)
      (Nat.zero_le _) (h j) i

/-- The lines of a grid show its rows. -/
theorem showsRows_flatMap {widths : Fin columns → Nat}
    (h : ∀ row ∈ rows, ∀ j, ∀ line ∈ (row j).toList.splitOn '\n', lineWidth line ≤ widths j) :
    ShowsRows (List.ofFn widths) rows
      (rule (List.ofFn widths) :: rows.flatMap fun row =>
        rowLines (List.ofFn widths) (List.ofFn fun j => lines (row j)) ++
          [rule (List.ofFn widths)]) := by
  induction rows with
  | nil => exact .nil (isRule_rule _)
  | cons row rows ih =>
      obtain ⟨hrow, hrows⟩ := List.forall_mem_cons.mp h
      rw [List.flatMap_cons, List.append_assoc]
      exact .cons (isRule_rule _) (showsRow_rowLines hrow) (ih hrows)

/-! ## Reading a table line by line -/

/-- There is nothing but crosses and dashes in a rule. -/
theorem IsRule.mem {widths : List Nat} {line : List Char} (h : IsRule widths line) :
    ∀ c ∈ line, c = '+' ∨ c = '-' := by
  induction h with
  | nil => simp
  | cons _ ih =>
      intro c hc
      rw [List.mem_cons, List.mem_append] at hc
      rcases hc with hc | hc | hc
      · exact .inl hc
      · exact .inr (List.eq_of_mem_replicate hc)
      · exact ih c hc

/-- There is nothing but bars, blanks and cells in a line of a row. -/
theorem ShowsLine.mem {widths : List Nat} {cells : List (List Char)} {line : List Char}
    (h : ShowsLine widths cells line) :
    ∀ c ∈ line, c = '|' ∨ c = ' ' ∨ ∃ cell ∈ cells, c ∈ cell := by
  induction h with
  | nil => simp
  | @cons _ _ _ cell _ _ _ _ ih =>
      intro c hc
      simp only [List.mem_cons, List.mem_append] at hc
      rcases hc with hc | hc | (hc | hc) | hc
      · exact .inl hc
      · exact .inr (.inl hc)
      · exact .inr (.inr ⟨cell, List.mem_cons_self, hc⟩)
      · exact .inr (.inl (List.eq_of_mem_replicate hc))
      · refine (ih c hc).imp_right (Or.imp_right ?_)
        rintro ⟨other, hother, hmem⟩
        exact ⟨other, List.mem_cons_of_mem cell hother, hmem⟩

/-- In a line of a row nothing is shown but what stands in its cells, and no break. -/
theorem ShowsRow.exists_showsLine {widths : List Nat} {block : List (List Char)}
    (h : ShowsRow widths row block) {line : List Char} (hline : line ∈ block) :
    ∃ cells, ShowsLine widths cells line ∧
      ∀ cell ∈ cells, ∀ c ∈ cell, c ≠ '\n' ∧ ∃ j, c ∈ (row j).toList := by
  obtain ⟨i, hi⟩ := List.getElem?_of_mem hline
  refine ⟨_, h.shows i line hi, fun cell hcell => ?_⟩
  obtain ⟨j, rfl⟩ := List.mem_ofFn.mp hcell
  refine getD_splitOn (P := fun line => ∀ c ∈ line, c ≠ '\n' ∧ ∃ j, c ∈ (row j).toList)
    (List.forall_mem_nil _) (fun piece hpiece c hc => ?_) i
  exact (mem_of_mem_splitOn hpiece hc).imp_right fun hmem => ⟨j, hmem⟩

/-- No line of a table has a break inside. -/
theorem ShowsRows.not_mem {widths : List Nat} {block : List (List Char)}
    (h : ShowsRows widths rows block) : ∀ line ∈ block, '\n' ∉ line := by
  have hrule : ∀ {line}, IsRule widths line → '\n' ∉ line :=
    fun hline hmem => (hline.mem _ hmem).elim (by decide) (by decide)
  induction h with
  | nil hline => exact List.forall_mem_singleton.mpr (hrule hline)
  | @cons line row rows block below hline hrow _ ih =>
      refine List.forall_mem_cons.mpr ⟨hrule hline, List.forall_mem_append.mpr ⟨?_, ih⟩⟩
      intro line hmem hbreak
      obtain ⟨cells, hshown, hcells⟩ := hrow.exists_showsLine hmem
      rcases hshown.mem _ hbreak with hbar | hblank | ⟨cell, hcell, hin⟩
      · exact absurd hbar (by decide)
      · exact absurd hblank (by decide)
      · exact (hcells cell hcell _ hin).1 rfl

/-- The characters of a line of a table of such columns. -/
def tableLength : (widths : List Nat) → Nat
  | [] => 1
  | width :: widths => width + 3 + tableLength widths

theorem IsRule.length_eq {widths : List Nat} {line : List Char} (h : IsRule widths line) :
    line.length = tableLength widths := by
  induction h with
  | nil => rfl
  | cons _ ih =>
      rw [List.length_cons, List.length_append, List.length_replicate, ih, tableLength]
      omega

/-- Plain characters take one column each, so blanks make up for what is missing. -/
theorem ShowsLine.length_eq {widths : List Nat} {cells : List (List Char)} {line : List Char}
    (h : ShowsLine widths cells line) (hplain : ∀ cell ∈ cells, ∀ c ∈ cell, c.toNat ≤ 0xA0) :
    line.length = tableLength widths := by
  induction h with
  | nil => rfl
  | @cons width fill widths cell cells line hfill _ ih =>
      obtain ⟨hcell, hcells⟩ := List.forall_mem_cons.mp hplain
      rw [lineWidth_eq_length hcell] at hfill
      simp only [List.length_cons, List.length_append, List.length_replicate, ih hcells,
        tableLength]
      omega

/-- **A table of plain characters is a rectangle.** -/
theorem ShowsRows.length_eq {widths : List Nat} {block : List (List Char)}
    (h : ShowsRows widths rows block)
    (hplain : ∀ row ∈ rows, ∀ j, ∀ c ∈ (row j).toList, c.toNat ≤ 0xA0) :
    ∀ line ∈ block, line.length = tableLength widths := by
  induction h with
  | nil hline => exact List.forall_mem_singleton.mpr hline.length_eq
  | @cons line row rows block below hline hrow _ ih =>
      obtain ⟨hfirst, hrows⟩ := List.forall_mem_cons.mp hplain
      refine List.forall_mem_cons.mpr
        ⟨hline.length_eq, List.forall_mem_append.mpr ⟨?_, ih hrows⟩⟩
      intro line hmem
      obtain ⟨cells, hshown, hcells⟩ := hrow.exists_showsLine hmem
      refine hshown.length_eq fun cell hcell c hc => ?_
      obtain ⟨-, j, hj⟩ := hcells cell hcell c hc
      exact hfirst j c hj

/-! ## Grids -/

namespace Grid

variable (g : Grid columns)

/-- The width of a column is that of the widest line in it. -/
theorem fitsColumn_width (j : Fin columns) : FitsColumn g.rows j (g.width j) := by
  intro n
  simp only [width, cellWidth, lines, lt_foldl_max, Nat.not_lt_zero, false_or, List.mem_map,
    exists_exists_and_eq_and]

/-- The lines of a grid that is written show its rows. -/
theorem showsRows_render :
    ShowsRows g.widths g.rows (g.render.toList.splitOn '\n') := by
  have hfits : ∀ row ∈ g.rows, ∀ j, ∀ line ∈ (row j).toList.splitOn '\n',
      lineWidth line ≤ g.width j := by
    intro row hrow j line hline
    refine Nat.le_of_not_lt fun hwide => ?_
    exact Nat.lt_irrefl _ ((g.fitsColumn_width j _).mpr ⟨row, hrow, line, hline, hwide⟩)
  have hshown := showsRows_flatMap hfits
  -- no line has a break inside, so the text is cut where it was put together
  have hcut := List.splitOn_intercalate '\n' hshown.not_mem (List.cons_ne_nil _ _)
  rw [render, String.toList_ofList]
  exact hcut.symm ▸ hshown

/-- **A grid is written as the table of its rows.** -/
theorem showsTable_render : ShowsTable g.rows g.render where
  shows := ⟨g.width, g.fitsColumn_width, g.showsRows_render⟩
  rectangle := fun hplain => ⟨_, g.showsRows_render.length_eq hplain⟩

/-- The first row has a second line for the sake of its first cell. -/
example : (⟨[fun | 0 => "a\nbc" | 1 => "", fun | 0 => "" | 1 => "d"]⟩ : Grid 2).render =
    "+----+---+\n| a  |   |\n| bc |   |\n+----+---+\n|    | d |\n+----+---+" := by
  decide +kernel

end Grid

end OpaqueId.Text
