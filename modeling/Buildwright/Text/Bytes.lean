/-!
# Texts as bytes
-/

namespace Buildwright.Text

def bytes (s : String) : List UInt8 := s.toUTF8.data.toList

/-- The text of some bytes, if they are UTF-8. -/
def ofBytes? (bs : List UInt8) : Option String := String.fromUTF8? ⟨⟨bs⟩⟩

@[simp] theorem ofBytes?_bytes (s : String) : ofBytes? (bytes s) = some s := by
  have hvalid : (⟨⟨bytes s⟩⟩ : ByteArray).IsValidUTF8 := s.isValidUTF8
  rw [ofBytes?, String.fromUTF8?, dif_pos hvalid]
  rfl

end Buildwright.Text
