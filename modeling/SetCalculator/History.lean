import SetCalculator.Failure
import SetCalculator.Log.Record
import SetCalculator.Text.Blank

/-!
# Prompt history

The history holds the last lines entered at the prompt, oldest first. It leaves out a line that is
empty, that starts with a blank, or that repeats the entry before it.

A history file names its format in its first line and then has one entry on each line, with line
feeds and backslashes escaped. A file without that first line holds plain entries. What is read
from a file goes through the same rules as what is entered. A file that cannot be read to its end
leaves the entries before that place.
-/

namespace SetCalculator

open Text Log

/-- The entries of a prompt history. -/
structure History where
  /-- The entries, oldest first. -/
  entries : List String
  /-- Whether entries were added that the file does not have. -/
  unsaved : Bool
  deriving DecidableEq, Repr

namespace History

/-- The number of entries that are kept. -/
def limit : Nat := 100

/-- The history without entries. -/
def empty : History := ⟨[], false⟩

/-- Whether the history leaves out a line. -/
def ignores (h : History) (line : String) : Bool :=
  line.toList.head?.all isBlank || h.entries.getLast? == some line

/-- Adds a line unless it is left out; the oldest entry goes when there is no room. -/
def add (h : History) (line : String) : History :=
  if h.ignores line then h
  else
    let entries := h.entries ++ [line]
    ⟨entries.drop (entries.length - limit), true⟩

/-! ## The file -/

/-- The first line of a file with escaped entries. -/
def formatLine : String := "#V2"

/-- Writes one character of an entry. -/
def escapeChar (c : Char) : List Char :=
  if c = '\\' then ['\\', '\\'] else if c = '\n' then ['\\', 'n'] else [c]

/-- Writes an entry on one line. -/
def escape (entry : List Char) : List Char := entry.flatMap escapeChar

/-- Reads an entry from its line; a backslash must be escaped or belong to a line feed. -/
def unescape? : List Char → Option (List Char)
  | [] => some []
  | '\\' :: '\\' :: cs => (unescape? cs).map ('\\' :: ·)
  | '\\' :: 'n' :: cs => (unescape? cs).map ('\n' :: ·)
  | c :: cs => if c = '\\' then none else (unescape? cs).map (c :: ·)

/-- What reading a file led to. -/
structure Loaded where
  history : History
  /-- Whether the file was read to its end. -/
  complete : Bool
  /-- The records about lines that are not escaped as they should be. -/
  records : List Record
  deriving DecidableEq, Repr

/-- The entry on a line of the file, and the record about it if it is not escaped as it should be;
such a line is taken as it is. -/
def readEntry (escaped : Bool) (line : String) : String × List Record :=
  if escaped then
    match unescape? line.toList with
    | some entry => (String.ofList entry, [])
    | none => (line, [⟨.warn, .editor, "bad escaped line: " ++ line, []⟩])
  else (line, [])

/-- Reads the lines after the first. -/
def loadEntries (escaped : Bool) : Loaded → List InputLine → Loaded
  | loaded, [] => { loaded with complete := true }
  | loaded, .error _ :: _ => loaded
  | loaded, .ok line :: lines =>
    let (entry, records) := readEntry escaped line
    loadEntries escaped
      { loaded with history := loaded.history.add entry, records := loaded.records ++ records }
      lines

/-- Reads the lines of a file. -/
def loadLines : List InputLine → Loaded
  | [] => ⟨empty, true, []⟩
  | .error _ :: _ => ⟨empty, false, []⟩
  | .ok first :: lines =>
    if first = formatLine then loadEntries true ⟨empty, false, []⟩ lines
    else loadEntries false ⟨empty.add first, false, []⟩ lines

/-- Reads the history from what was opened; what was read to the end is not unsaved. -/
def load (opened : Except SystemError Opened) : Loaded :=
  match opened with
  | .error _ => ⟨empty, false, []⟩
  | .ok opened =>
    let loaded := loadLines opened.lines
    if loaded.complete then { loaded with history := { loaded.history with unsaved := false } }
    else loaded

/-- The text of the file that holds the history. -/
def fileText (h : History) : String :=
  formatLine ++ "\n"
    ++ String.join (h.entries.map fun entry => String.ofList (escape entry.toList) ++ "\n")

/-- Whether the file has to be written. -/
def needsSaving (h : History) : Bool := h.unsaved && !h.entries.isEmpty

/-- Reading an entry from the line on which it was written gives it back. -/
theorem unescape?_escape (entry : List Char) : unescape? (escape entry) = some entry := by
  induction entry with
  | nil => rfl
  | cons c cs ih =>
    simp only [escape, List.flatMap_cons] at ih ⊢
    by_cases hb : c = '\\'
    · simp [escapeChar, hb, unescape?, ih]
    · by_cases hn : c = '\n'
      · simp [escapeChar, hn, unescape?, ih]
      · simp [escapeChar, hb, hn, unescape?, ih]

end History

end SetCalculator
