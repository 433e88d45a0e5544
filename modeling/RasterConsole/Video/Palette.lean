/-!
# Colors

`Rgba` is the color of one pixel of a picture.  `Rgba.ofColor` is what the NTSC palette
shows for the value of a color register, whose lowest bit it ignores.
-/

namespace RasterConsole

/-- A color in four channels. -/
structure Rgba where
  red : UInt8
  green : UInt8
  blue : UInt8
  alpha : UInt8
  deriving Repr, DecidableEq, Inhabited

namespace Rgba

/-- The color of a pixel that has never been painted. -/
def transparent : Rgba := ⟨0, 0, 0, 0⟩

/-- The channels in the order in which a picture stores them. -/
def bytes (c : Rgba) : List UInt8 := [c.red, c.green, c.blue, c.alpha]

/-- An opaque color, given as red, green and blue in base 256. -/
def solid (rgb : Nat) : Rgba :=
  ⟨(rgb / 65536).toUInt8, (rgb / 256).toUInt8, rgb.toUInt8, 255⟩

end Rgba

/-- The NTSC colors in groups of one hue and eight luminances. -/
def ntscColors : Array Nat := #[
  0x000000, 0x4A4A4A, 0x6F6F6F, 0x8E8E8E, 0xAAAAAA, 0xC0C0C0, 0xD6D6D6, 0xECECEC,
  0x484800, 0x69690F, 0x86861D, 0xA2A22A, 0xBBBB35, 0xD2D240, 0xE8E84A, 0xFCFC54,
  0x7C2C00, 0x904811, 0xA26221, 0xB47A30, 0xC3903D, 0xD2A44A, 0xDFB755, 0xECC860,
  0x901C00, 0xA33915, 0xB55328, 0xC66C3A, 0xD5824A, 0xE39759, 0xF0AA67, 0xFCBC74,
  0x940000, 0xA71A1A, 0xB83232, 0xC84848, 0xD65C5C, 0xE46F6F, 0xF08080, 0xFC9090,
  0x840064, 0x97197A, 0xA8308F, 0xB846A2, 0xC659B3, 0xD46CC3, 0xE07CD2, 0xEC8CE0,
  0x500084, 0x68199A, 0x7D30AD, 0x9246C0, 0xA459D0, 0xB56CE0, 0xC57CEE, 0xD48CFC,
  0x140090, 0x331AA3, 0x4E32B5, 0x6848C6, 0x7F5CD5, 0x956FE3, 0xA980F0, 0xBC90FC,
  0x000094, 0x181AA7, 0x2D32B8, 0x4248C8, 0x545CD6, 0x656FE4, 0x7580F0, 0x8490FC,
  0x001C88, 0x183B9D, 0x2D57B0, 0x4272C2, 0x548AD2, 0x65A0E1, 0x75B5EF, 0x84C8FC,
  0x003064, 0x185080, 0x2D6D98, 0x4288B0, 0x54A0C5, 0x65B7D9, 0x75CCEB, 0x84E0FC,
  0x004030, 0x18624E, 0x2D8169, 0x429E82, 0x54B899, 0x65D1AE, 0x75E7C2, 0x84FCD4,
  0x004400, 0x1A661A, 0x328432, 0x48A048, 0x5CBA5C, 0x6FD26F, 0x80E880, 0x90FC90,
  0x143C00, 0x355F18, 0x527E2D, 0x6E9C42, 0x87B754, 0x9ED065, 0xB4E775, 0xC8FC84,
  0x303800, 0x505916, 0x6D762B, 0x88923E, 0xA0AB4F, 0xB7C25F, 0xCCD86E, 0xE0EC7C,
  0x482C00, 0x694D14, 0x866A26, 0xA28638, 0xBB9F47, 0xD2B656, 0xE8CC63, 0xFCE070]

/-- The NTSC colors as pixels. -/
def ntscPalette : Array Rgba := ntscColors.map Rgba.solid

/-- The pixel for a color register value: every two values share a color. -/
def Rgba.ofColor (color : UInt8) : Rgba :=
  ntscPalette.getD (color.toNat / 2) Rgba.transparent

end RasterConsole
