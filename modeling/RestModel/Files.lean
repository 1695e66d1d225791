import RestModel.Failure

/-!
# Files — the texts that names stand for

What is on a disk is, for reading, a partial function from names to bytes.
A text is a file whose bytes are UTF-8.
-/

namespace RestModel

/-- The contents of files by name. -/
abbrev Files := String → Option ByteArray

/-- The text of a file. -/
def Files.read (files : Files) (name : String) : Except FileFault String :=
  match files name with
  | none => .error .notFound
  | some bytes =>
    match String.fromUTF8? bytes with
    | none => .error .notUtf8
    | some text => .ok text

end RestModel
