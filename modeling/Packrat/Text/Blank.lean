import Packrat.Text.InversionList

/-! # Blanks and control codes

The property `White_Space` and the general category `Cc`.  They overlap: a tab is both.
-/
namespace Packrat
namespace Text

/-- Code points with the property `White_Space`. -/
def whiteSpace : InversionList := ⟨#[
  0x9, 0xE, 0x20, 0x21, 0x85, 0x86, 0xA0, 0xA1, 0x1680, 0x1681, 0x2000, 0x200B, 0x2028, 0x202A,
  0x202F, 0x2030, 0x205F, 0x2060, 0x3000, 0x3001]⟩

/-- Code points of the general category `Cc`. -/
def controlCode : InversionList := ⟨#[
  0x0, 0x20, 0x7F, 0xA0]⟩

end Text
end Packrat
