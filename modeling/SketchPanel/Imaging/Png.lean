/-
Images as bytes: the portable network format with eight bits a channel, three channels, no filter and no compression.
A file is a signature and three chunks; the pixels stand in a stream of stored blocks with a checksum behind it.
-/
import SketchPanel.Imaging.Image

namespace SketchPanel.Imaging.Png

/-- a number in four bytes, the highest first -/
def word (n : UInt32) : ByteArray :=
  ⟨#[(n >>> 24).toUInt8, (n >>> 16).toUInt8, (n >>> 8).toUInt8, n.toUInt8]⟩

/-! ## Checksums -/

/-- the remainder after one more bit -/
def shifted (crc : UInt32) : UInt32 := if crc &&& 1 = 1 then (crc >>> 1) ^^^ 0xEDB88320 else crc >>> 1

/-- the remainder after one more byte -/
def divided (crc : UInt32) (byte : UInt8) : UInt32 := Nat.repeat shifted 8 (crc ^^^ byte.toUInt32)

/-- the cyclic checksum of a chunk -/
def cyclic (bytes : ByteArray) : UInt32 := bytes.foldl divided 0xFFFFFFFF ^^^ 0xFFFFFFFF

/-- the running sums after one more byte -/
def summed (sums : UInt32 × UInt32) (byte : UInt8) : UInt32 × UInt32 :=
  let low := (sums.1 + byte.toUInt32) % 65521
  (low, (sums.2 + low) % 65521)

/-- the checksum of a stream -/
def running (bytes : ByteArray) : UInt32 :=
  let (low, high) := bytes.foldl summed (1, 0)
  (high <<< 16) ||| low

/-! ## Chunks -/

/-- a chunk: its length, its kind, its bytes and their checksum -/
def chunk (kind : String) (bytes : ByteArray) : ByteArray :=
  let body := kind.toUTF8 ++ bytes
  word bytes.size.toUInt32 ++ body ++ word (cyclic body)

/-- the longest stored block -/
def blockLimit : Nat := 65535

/-- one stored block -/
def block (last : Bool) (bytes : ByteArray) : ByteArray :=
  let size := bytes.size.toUInt16
  let other := size ^^^ 0xFFFF
  ⟨#[if last then 1 else 0, size.toUInt8, (size >>> 8).toUInt8, other.toUInt8, (other >>> 8).toUInt8]⟩ ++ bytes

/-- the bytes from a start on: so many full blocks, and one that holds the rest -/
def blocksFrom (bytes : ByteArray) : Nat → Nat → ByteArray
  | 0, start => block true (bytes.extract start bytes.size)
  | full + 1, start =>
    block false (bytes.extract start (start + blockLimit)) ++ blocksFrom bytes full (start + blockLimit)

/-- all bytes in stored blocks -/
def blocks (bytes : ByteArray) : ByteArray := blocksFrom bytes ((bytes.size - 1) / blockLimit) 0

/-- the rows of an image, each after the mark of no filter -/
def rows (image : Image) : ByteArray :=
  image.height.toNat.fold (fun y _ bytes =>
    image.width.toNat.fold (fun x _ bytes =>
      let p := image.pixel x y
      ((bytes.push p.red.toUInt8).push p.green.toUInt8).push p.blue.toUInt8) (bytes.push 0)) .empty

/-- what every file starts with -/
def signature : ByteArray := ⟨#[137, 80, 78, 71, 13, 10, 26, 10]⟩

/-- an image as the bytes of a file -/
def encode (image : Image) : ByteArray :=
  let pixels := rows image
  let form : ByteArray := ⟨#[8, 2, 0, 0, 0]⟩
  signature
  ++ chunk "IHDR" (word image.width.toNat.toUInt32 ++ word image.height.toNat.toUInt32 ++ form)
  ++ chunk "IDAT" (⟨#[0x78, 0x01]⟩ ++ blocks pixels ++ word (running pixels))
  ++ chunk "IEND" .empty

end SketchPanel.Imaging.Png
