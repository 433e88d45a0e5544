import RasterConsole.Video.Picture

/-!
# PNG files

The bytes of an image as a PNG file: a signature and three chunks, each with a checksum.
The pixels are in a zlib stream whose blocks are stored without compression.
-/

namespace RasterConsole.Png

/-- The four bytes of a number, most significant first. -/
def word32 (n : Nat) : List UInt8 :=
  [(n >>> 24).toUInt8, (n >>> 16).toUInt8, (n >>> 8).toUInt8, n.toUInt8]

/-- The two bytes of a number, least significant first. -/
def word16 (n : Nat) : List UInt8 := [n.toUInt8, (n >>> 8).toUInt8]

/-- One step of the division by which the checksum of a chunk is defined. -/
def divide (remainder : UInt32) : UInt32 :=
  if remainder &&& 1 == 1 then (remainder >>> 1) ^^^ 0xEDB88320 else remainder >>> 1

/-- The checksum of a chunk. -/
def crc (bytes : List UInt8) : UInt32 :=
  let step (remainder : UInt32) (byte : UInt8) : UInt32 :=
    Nat.repeat divide 8 (remainder ^^^ byte.toUInt32)
  bytes.foldl step 0xFFFFFFFF ^^^ 0xFFFFFFFF

/-- The checksum of a zlib stream. -/
def adler (bytes : List UInt8) : Nat :=
  let (a, b) := bytes.foldl (fun (a, b) byte =>
    let a := (a + byte.toNat) % 65521
    (a, (b + a) % 65521)) (1, 0)
  b * 65536 + a

/-- A chunk of a file. -/
def chunk (kind data : List UInt8) : List UInt8 :=
  word32 data.length ++ kind ++ data ++ word32 (crc (kind ++ data)).toNat

/-- The largest length of a stored block. -/
def blockLength : Nat := 65535

/-- Data in stored blocks, of which there are at most `limit` before the last. -/
def blocks (limit : Nat) (data : List UInt8) : List UInt8 :=
  let block (final : UInt8) (part : List UInt8) : List UInt8 :=
    final :: word16 part.length ++ word16 (blockLength - part.length) ++ part
  match limit with
  | 0 => block 1 data
  | limit + 1 =>
    if data.length ≤ blockLength then block 1 data
    else block 0 (data.take blockLength) ++ blocks limit (data.drop blockLength)

/-- A zlib stream. -/
def stream (data : List UInt8) : List UInt8 :=
  [0x78, 0x01] ++ blocks (data.length / blockLength) data ++ word32 (adler data)

/-- Lines of `pitch` bytes, each with the mark of an unfiltered line. -/
def lines (pitch : Nat) (count : Nat) (bytes : List UInt8) : List UInt8 :=
  match count with
  | 0 => []
  | count + 1 => 0 :: bytes.take pitch ++ lines pitch count (bytes.drop pitch)

/-- The first bytes of every file. -/
def signature : List UInt8 := [0x89, 0x50, 0x4E, 0x47, 0x0D, 0x0A, 0x1A, 0x0A]

/-- The measures of an image of eight bits a channel and four channels. -/
def header (image : Image) : List UInt8 :=
  word32 image.width.toNat ++ word32 image.height.toNat ++ [8, 6, 0, 0, 0]

/-- The bytes of an image as a file. -/
def encode (image : Image) : List UInt8 :=
  let data := lines (image.width.toNat * 4) image.height.toNat image.bytes
  signature ++ chunk [0x49, 0x48, 0x44, 0x52] (header image)
    ++ chunk [0x49, 0x44, 0x41, 0x54] (stream data) ++ chunk [0x49, 0x45, 0x4E, 0x44] []

end RasterConsole.Png
