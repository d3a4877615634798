import Logo.Picture.Checksum
import Logo.Picture.Flood

/-!
# Picture files

A picture as the bytes of a file.  The ending of the file's name decides the
format: `.bmp` for a Windows bitmap, `.png` (and the endings of photographs)
for portable network graphics, and anything else for Targa.  Nothing is
compressed.
-/

namespace Logo.Picture

/-- The red, green and blue bytes of the pixels, row after row from the top. -/
def Surface.bytes (surface : Surface) : ByteArray :=
  surface.cells.foldl
    (fun bytes color => ((bytes.push color.red).push color.green).push color.blue) .empty

namespace File

/-- The lowest bytes of a number, the lowest first. -/
def littleEndian : Nat → Nat → List UInt8
  | 0, _ => []
  | count + 1, number => UInt8.ofNat number :: littleEndian count (number / 256)

/-- The lowest bytes of a number, the lowest last. -/
def bigEndian (count number : Nat) : List UInt8 :=
  (littleEndian count number).reverse

/-- Add bytes at the end. -/
def append (bytes : ByteArray) (more : List UInt8) : ByteArray :=
  more.foldl ByteArray.push bytes

/-- Add a row of pixels, blue first. -/
def appendRow (bytes : ByteArray) (row : List Color) : ByteArray :=
  row.foldl (fun bytes color => ((bytes.push color.blue).push color.green).push color.red) bytes

/-- A Windows bitmap of 24 bits.  Rows go up, and each is filled up to a multiple of four bytes. -/
def bitmap (surface : Surface) : ByteArray :=
  let padding := List.replicate (surface.width % 4) 0
  let size := (surface.width * 3 + surface.width % 4) * surface.height
  let header : List UInt8 :=
    [66, 77] ++ littleEndian 4 (54 + size) ++ littleEndian 4 0 ++ littleEndian 4 54 ++
      littleEndian 4 40 ++ littleEndian 4 surface.width ++ littleEndian 4 surface.height ++
      littleEndian 2 1 ++ littleEndian 2 24 ++ littleEndian 4 0 ++ littleEndian 4 size ++
      littleEndian 4 2835 ++ littleEndian 4 2835 ++ littleEndian 4 0 ++ littleEndian 4 0
  surface.rows.reverse.foldl (fun bytes row => append (appendRow bytes row) padding)
    (append .empty header)

/-- A Targa picture of 24 bits, from the top. -/
def targa (surface : Surface) : ByteArray :=
  let header : List UInt8 :=
    [0, 0, 2, 0, 0, 0, 0, 0, 0, 0, 0, 0] ++ littleEndian 2 surface.width ++
      littleEndian 2 surface.height ++ [24, 32]
  surface.rows.foldl appendRow (append .empty header)

/-- A chunk of a network graphic: its length, its name and contents, and the check of both. -/
def chunk (name : String) (contents : ByteArray) : ByteArray :=
  let body := name.toUTF8 ++ contents
  append (append .empty (bigEndian 4 contents.size) ++ body)
    (bigEndian 4 (Checksum.cyclic body).toNat)

/-- The rows of a network graphic, each after a zero that says it is not filtered. -/
def unfiltered (surface : Surface) : ByteArray :=
  surface.rows.foldl
    (fun bytes row =>
      row.foldl (fun bytes color => ((bytes.push color.red).push color.green).push color.blue)
        (bytes.push 0))
    .empty

/-- Bytes in stored blocks, the last one marked.  Each block has at most 65535 of them. -/
def storedBlocks (contents : ByteArray) : ByteArray :=
  let count := (contents.size + 65534) / 65535
  (List.range count).foldl
    (fun bytes index =>
      let block := contents.extract (index * 65535) ((index + 1) * 65535)
      let last : UInt8 := if index + 1 == count then 1 else 0
      append (bytes.push last)
        (littleEndian 2 block.size ++ littleEndian 2 (65535 - block.size)) ++ block)
    .empty

/-- A network graphic of 24 bits. -/
def networkGraphic (surface : Surface) : ByteArray :=
  let header := append .empty
    (bigEndian 4 surface.width ++ bigEndian 4 surface.height ++ [8, 2, 0, 0, 0])
  let contents := unfiltered surface
  let stream := append (append .empty [120, 1] ++ storedBlocks contents)
    (bigEndian 4 (Checksum.adler contents).toNat)
  append .empty [137, 80, 78, 71, 13, 10, 26, 10] ++ chunk "IHDR" header ++
    chunk "IDAT" stream ++ chunk "IEND" .empty

/-- The bytes of a picture in the format that a file's name asks for. -/
def encode (name : String) (surface : Surface) : ByteArray :=
  let ends (ending : String) : Bool := (name.map Char.toLower).endsWith ending
  if ends ".bmp" then bitmap surface
  else if ends ".png" || ends ".jpg" || ends ".jpeg" then networkGraphic surface
  else targa surface

end File

end Logo.Picture
