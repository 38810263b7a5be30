import MapStyle.Sprite.Image

/-!
# PNG files

An image as the bytes of a PNG file. Pixels are stored as they are, without compression and without
filters; only files that are stored in this way are read back.
-/

namespace MapStyle.Png

set_option autoImplicit false

abbrev Bytes := List UInt8

/-! ### Numbers and sums -/

/-- A number in four bytes, the highest first. -/
def bigEndian (value : Nat) : Bytes :=
  [24, 16, 8, 0].map fun shift => (value >>> shift).toUInt8

/-- A number in two bytes, the lowest first. -/
def littleEndian (value : Nat) : Bytes :=
  [value.toUInt8, (value >>> 8).toUInt8]

/-- The number that bytes stand for, the highest first. -/
def number (bytes : Bytes) : Nat :=
  bytes.foldl (fun value byte => value * 256 + byte.toNat) 0

def crcPolynomial : UInt32 := 0xEDB88320

def crcShift (register : UInt32) : UInt32 :=
  if register &&& 1 = 1 then (register >>> 1) ^^^ crcPolynomial else register >>> 1

def crcStep (register : UInt32) (byte : UInt8) : UInt32 :=
  (List.range 8).foldl (fun shifted _ => crcShift shifted) (register ^^^ byte.toUInt32)

/-- The cyclic sum of a chunk. -/
def crc (bytes : Bytes) : Nat :=
  (bytes.foldl crcStep 0xFFFFFFFF ^^^ 0xFFFFFFFF).toNat

/-- The largest prime below 2¹⁶. -/
def adlerModulus : Nat := 65521

def adlerStep (sums : Nat × Nat) (byte : UInt8) : Nat × Nat :=
  let low := (sums.1 + byte.toNat) % adlerModulus
  (low, (sums.2 + low) % adlerModulus)

/-- The sum at the end of a stream. -/
def adler (bytes : Bytes) : Nat :=
  let (low, high) := bytes.foldl adlerStep (1, 0)
  high * 65536 + low

/-! ### Pixels -/

/-- The number by which a header names the way of storing pixels. -/
def modeNumber : ImageMode → UInt8
  | .rgba => 6
  | .rgb => 2
  | .grey => 0

def modeOf? (number : UInt8) : Option ImageMode :=
  [ImageMode.rgba, .rgb, .grey].find? fun mode => modeNumber mode == number

/-- The bytes of one pixel. -/
def sampleCount : ImageMode → Nat
  | .rgba => 4
  | .rgb => 3
  | .grey => 1

def samples (mode : ImageMode) (pixel : Pixel) : Bytes :=
  match mode with
  | .rgba =>
      [pixel.red.toUInt8, pixel.green.toUInt8, pixel.blue.toUInt8, pixel.alpha.toUInt8]
  | .rgb => [pixel.red.toUInt8, pixel.green.toUInt8, pixel.blue.toUInt8]
  | .grey => [pixel.red.toUInt8]

def pixelOf : Bytes → Pixel
  | [red, green, blue, alpha] => ⟨red.toNat, green.toNat, blue.toNat, alpha.toNat⟩
  | [red, green, blue] => .solid red.toNat green.toNat blue.toNat
  | [shade] => .solid shade.toNat shade.toNat shade.toNat
  | _ => .transparent

/-- The rows of an image, each behind the number of its filter, which is none. -/
def scanlines (image : Image) : Bytes :=
  (List.range image.height).flatMap fun row =>
    0 :: (List.range image.width).flatMap fun column =>
      samples image.mode (image.pixel column row)

/-! ### Streams -/

/-- What a block can hold. -/
def blockLimit : Nat := 65535

def block (last : Bool) (bytes : Bytes) : Bytes :=
  (if last then 1 else 0) ::
    littleEndian bytes.length ++ littleEndian (blockLimit - bytes.length) ++ bytes

def blocks (bytes : Bytes) : Bytes :=
  if bytes.length ≤ blockLimit then block true bytes
  else block false (bytes.take blockLimit) ++ blocks (bytes.drop blockLimit)
termination_by bytes.length
decreasing_by simp only [blockLimit, List.length_drop] at *; omega

/-- A stream of the longest window, for which no speed is claimed. -/
def streamHeader : Bytes := [0x78, 0x01]

def stream (bytes : Bytes) : Bytes :=
  streamHeader ++ blocks bytes ++ bigEndian (adler bytes)

/-- The content of stored blocks, if there are no others. -/
def blocksContent? : Bytes → Option Bytes
  | mark :: low :: high :: _ :: _ :: rest =>
      let length := number [high, low]
      if rest.length < length then none
      else if mark = 1 then some (rest.take length)
      else if mark = 0 then (blocksContent? (rest.drop length)).map (rest.take length ++ ·)
      else none
  | _ => none
termination_by bytes => bytes.length
decreasing_by simp only [List.length_drop, List.length_cons]; omega

/-! ### Chunks -/

structure Chunk where
  name : String
  content : Bytes

def Chunk.bytes (chunk : Chunk) : Bytes :=
  let named := chunk.name.toUTF8.toList ++ chunk.content
  bigEndian chunk.content.length ++ named ++ bigEndian (crc named)

/-- The bytes at the beginning of every file. -/
def signature : Bytes := [0x89, 0x50, 0x4E, 0x47, 0x0D, 0x0A, 0x1A, 0x0A]

def headerName : String := "IHDR"

def contentName : String := "IDAT"

def endName : String := "IEND"

/-- The bits of a sample. -/
def depth : UInt8 := 8

def header (image : Image) : Bytes :=
  bigEndian image.width ++ bigEndian image.height ++ [depth, modeNumber image.mode, 0, 0, 0]

/-- The file of an image. -/
def encode (image : Image) : Bytes :=
  signature ++
    [⟨headerName, header image⟩, ⟨contentName, stream (scanlines image)⟩, ⟨endName, []⟩].flatMap
      Chunk.bytes

/-- The chunks of a file behind its signature; sums are not compared. -/
def chunks? : Bytes → Option (List Chunk)
  | [] => some []
  | first :: second :: third :: fourth :: rest => do
      let length := number [first, second, third, fourth]
      if rest.length < length + 8 then none
      else
        let name ← String.fromUTF8? ⟨(rest.take 4).toArray⟩
        let following ← chunks? (rest.drop (length + 8))
        return ⟨name, (rest.drop 4).take length⟩ :: following
  | _ => none
termination_by bytes => bytes.length
decreasing_by simp only [List.length_drop, List.length_cons]; omega

/-- An image of a size whose rows are these bytes, each behind the number of its filter. -/
def ofScanlines (width height : Nat) (mode : ImageMode) (bytes : Bytes) : Image :=
  let stored := bytes.toArray
  let count := sampleCount mode
  { width, height, mode
    pixel := fun column row =>
      let start := row * (1 + width * count) + 1 + column * count
      pixelOf (stored.extract start (start + count)).toList }

/-- Whether no row is filtered. -/
def isPlain (width height : Nat) (mode : ImageMode) (bytes : Bytes) : Bool :=
  let stored := bytes.toArray
  let length := 1 + width * sampleCount mode
  stored.size == height * length &&
    (List.range height).all fun row => stored[row * length]? == some 0

/-- The image of a file, if it is stored as `encode` stores one. -/
def decode? (bytes : Bytes) : Option Image := do
  let chunks ← if bytes.take 8 = signature then chunks? (bytes.drop 8) else none
  let head ← chunks.find? fun chunk => chunk.name == headerName
  let mode ← head.content[9]?.bind modeOf?
  let width := number (head.content.take 4)
  let height := number ((head.content.drop 4).take 4)
  let content := (chunks.filter fun chunk => chunk.name == contentName).flatMap Chunk.content
  let rows ← blocksContent? (content.drop streamHeader.length)
  if head.content[8]? = some depth ∧ isPlain width height mode rows then
    some (ofScanlines width height mode rows)
  else none

end MapStyle.Png
