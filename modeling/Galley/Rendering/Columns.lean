import Galley.Column
import Galley.Rendering.Plain

/-!
Text column by column.
-/

namespace Galley.Rendering

variable {α : Type} [Scalar α]

/-- The text of columns that hold lines, under their numbers when there are several columns. -/
def columnsText (settings : Settings α) (layout : ColumnLayout α) : String :=
  let block (index : Nat) (c : Column α) : Option String :=
    if c.lines.isEmpty then none
    else
      let body := linesText settings c.lines
      some (if 1 < layout.columns.length then s!"[column {index + 1}]\n" ++ body else body)
  "\n\n".intercalate ((layout.columns.mapIdx block).filterMap id)

/-- The columns of the upright lines of a page. -/
def columnLayout (settings : Settings α) (page : Box α) (p : Pools α) : ColumnLayout α :=
  .detect settings.columns (p.right.lines settings.lineOptions) page.width

/-- The text of a page: its upright lines by columns, then all others. -/
def columns (settings : Settings α) (page : Box α) (p : Pools α) : String :=
  joinBlocks
    (columnsText settings (columnLayout settings page p) ::
      [p.up, p.left, p.down].map (poolText settings))

end Galley.Rendering
