/-!
# Text from bytes
-/

namespace TagMarkup

/-- The text that bytes encode in UTF-8, if they do. -/
def decodeUtf8? (bytes : List UInt8) : Option String := String.fromUTF8? ⟨bytes.toArray⟩

/-- The bytes of a text in UTF-8. -/
def encodeUtf8 (text : String) : List UInt8 := text.toUTF8.toList

end TagMarkup
