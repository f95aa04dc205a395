import TestCursor.Error
import TestCursor.File.Path
import TestCursor.Scope.Basic
import TestCursor.Text.Lines
import TestCursor.Workspace

/-!
# The document under the cursor
-/

namespace TestCursor

/-- What is asked of the document under the cursor. Each answer can fail. -/
structure Source where
  /-- The path of the document below the workspace root. -/
  relativePath : Except Error String
  /-- The lines from the cursor upwards, nearest first. -/
  lines : Except Error (List String)

/-- A document that was read from a file. Without a cursor all of it counts. -/
structure Document where
  file : String
  root : String
  cursor : Option Cursor
  contents : String
  deriving DecidableEq, Repr

namespace Document

/-- The lines from the cursor upwards, nearest first. -/
def lines (document : Document) : List String :=
  linesToCursor document.contents (document.cursor.getD Cursor.last)

/-- The path of the document below its root. -/
def relativePath (document : Document) : String :=
  TestCursor.relativePath document.file document.root

/-- The document as a source, which never fails. -/
def toSource (document : Document) : Source := ⟨.ok document.relativePath, .ok document.lines⟩

end Document

def Site.openDocument (site : Site) (file root : String) (cursor : Option Cursor) :
    Except Error Document :=
  match site.readText file with
  | .ok contents => .ok ⟨file, root, cursor, contents⟩
  | .error e => .error e

end TestCursor
