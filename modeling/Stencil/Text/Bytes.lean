import Stencil.Text

/-!
# Text in bytes

Every text has its bytes in UTF-8, and bytes are read as text where they are the bytes of one.
-/

namespace Stencil

namespace Text

/-- The bytes of a text. -/
def bytes (t : Text) : ByteArray := (String.ofList t).toUTF8

/-- The text of bytes. -/
def ofBytes? (data : ByteArray) : Option Text := (String.fromUTF8? data).map String.toList

/-- The bytes of a text are read as that text. -/
@[simp] theorem ofBytes?_bytes (t : Text) : ofBytes? (bytes t) = some t := by
  unfold ofBytes? bytes String.fromUTF8?
  rw [String.toUTF8, dif_pos (String.ofList t).isValidUTF8, Option.map_some]
  exact congrArg some String.toList_ofList

/-- The byte order mark, which a file may begin with. -/
def byteOrderMark : Text := ['\uFEFF']

/-- A text without the byte order mark it begins with, if it does. -/
def dropMark (t : Text) : Text := (stripPrefix? byteOrderMark t).getD t

end Text

end Stencil
