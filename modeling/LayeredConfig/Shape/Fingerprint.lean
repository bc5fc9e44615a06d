import LayeredConfig.Digest.Sha256
import LayeredConfig.Shape
import LayeredConfig.Text.Utf8

/-
  Fingerprints of shapes. A shape is written as bytes: each name ends with a zero byte and the
  fields of a record with a closing brace, so the bytes can be read back. The fingerprint is
  the SHA-256 digest of the bytes.
-/

namespace LayeredConfig.Shape

/-- A name and the zero byte that ends it. -/
def nameBytes (s : String) : List UInt8 := Text.utf8 s ++ [0]

/-- The byte that ends the fields of a record. -/
def closingByte : UInt8 := 125

mutual

/-- The bytes of a shape. -/
def bytes : Shape → List UInt8
  | .text => nameBytes "String" ++ nameBytes "string"
  | .flag => nameBytes "bool" ++ nameBytes "bool"
  | .number => nameBytes "i64" ++ nameBytes "int"
  | .list element => nameBytes "Vec" ++ nameBytes "list" ++ element.bytes
  | .optional inner => nameBytes "Option" ++ nameBytes "optional" ++ inner.bytes
  | .record name fields =>
    nameBytes name ++ nameBytes "record" ++ fieldBytes fields ++ [closingByte]

/-- The bytes of the fields of a record. -/
def fieldBytes : List (Declared Shape) → List UInt8
  | [] => []
  | ⟨name, tag, shape⟩ :: rest =>
    nameBytes name ++ nameBytes tag ++ shape.bytes ++ fieldBytes rest

end

/-- The hexadecimal digest of the bytes of a shape. -/
def fingerprint (shape : Shape) : String := Sha256.hexText (Sha256.digest shape.bytes)

end LayeredConfig.Shape
