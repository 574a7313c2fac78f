/-!
# Physical lines

Input arrives as bytes. A line ends at a line feed; a carriage return right before that line feed
goes with it. What follows the last line feed is a line of its own unless it is empty, and keeps
its carriage returns. A line is text only if its bytes are UTF-8, which is decided line by line, so
one bad line leaves the lines before it readable.
-/

namespace SetCalculator.Text

/-- The line feed and the carriage return. -/
def lineFeed : UInt8 := 0x0A

@[inherit_doc lineFeed]
def carriageReturn : UInt8 := 0x0D

/-- Removes one carriage return at the end. -/
def dropCarriageReturn (line : List UInt8) : List UInt8 :=
  if line.getLast? = some carriageReturn then line.dropLast else line

/-- The physical lines of the input, without their ends. -/
def physicalLines (bytes : List UInt8) : List (List UInt8) :=
  let pieces := bytes.splitOn lineFeed
  pieces.dropLast.map dropCarriageReturn ++ (pieces.getLast?.filter (· ≠ [])).toList

/-- The text that the bytes encode in UTF-8. -/
def decode? (bytes : List UInt8) : Option String :=
  String.fromUTF8? ⟨bytes.toArray⟩

/-- The UTF-8 encoding of a text. -/
def encode (text : String) : List UInt8 :=
  text.toUTF8.data.toList

@[simp] theorem decode?_encode (text : String) : decode? (encode text) = some text := by
  have h : (⟨text.toUTF8.data.toList.toArray⟩ : ByteArray) = text.toUTF8 := by simp
  simp only [decode?, encode, h, String.fromUTF8?]
  exact dif_pos text.isValidUTF8

/-- Bytes that are a text are the encoding of it. -/
theorem encode_of_decode? {bytes : List UInt8} {text : String} (h : decode? bytes = some text) :
    encode text = bytes := by
  rw [decode?, String.fromUTF8?] at h
  split at h
  · cases h
    rfl
  · cases h

@[simp] theorem physicalLines_nil : physicalLines [] = [] := rfl

end SetCalculator.Text
