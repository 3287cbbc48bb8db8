import ShuntingYard.Text.Joined

/-!
# Building text

A text is built in a buffer of bytes. What is written goes to its end, and the bytes are read as
text when the last of them is there. Bytes need not be text, so that reading may fail; a failure is
reported with what was being built, the outermost message first.
-/
namespace ShuntingYard.Text

variable {β : Type}

/-- The operations of a kind of buffer. -/
structure Builder (β : Type) where
  /-- An empty buffer with room for some bytes, which may grow beyond it. -/
  create : Nat → β
  append : β → String → β
  push : β → Char → β
  /-- The contents as text, or what is wrong with them. -/
  finish : β → Except String String

namespace Builder

/-- What is written is added to the bytes of the buffer in UTF-8, and valid bytes are read as the
text that they encode. -/
structure HoldsUTF8 (b : Builder β) (bytes : β → ByteArray) : Prop where
  create : ∀ capacity, bytes (b.create capacity) = ByteArray.empty
  append : ∀ buffer s, bytes (b.append buffer s) = bytes buffer ++ s.toByteArray
  push : ∀ buffer c, bytes (b.push buffer c) = bytes buffer ++ (String.singleton c).toByteArray
  finish : ∀ buffer, (valid : (bytes buffer).IsValidUTF8) →
    b.finish buffer = .ok (String.fromUTF8 (bytes buffer) valid)

/-- Writes the symbol at a position. Every symbol but the first has the separator before it. -/
def write (b : Builder β) (separator : String) (buffer : β) (entry : Char × Nat) : β :=
  b.push (if entry.2 > 0 then b.append buffer separator else buffer) entry.1

/-- Writes the symbols one after the other into a buffer, and reads it. -/
def join (b : Builder β) (separator : String) (symbols : List Char) :
    Except (List String) String :=
  let buffer := b.create (symbols.length * (1 + separator.utf8ByteSize))
  (b.finish (symbols.zipIdx.foldl (b.write separator) buffer)).mapError fun cause =>
    ["Failed to build symbol string", cause]

end Builder

/-- Bytes as their own buffer. -/
def byteBuilder : Builder ByteArray where
  create := ByteArray.emptyWithCapacity
  append := fun buffer s => buffer ++ s.toByteArray
  push := fun buffer c => buffer ++ (String.singleton c).toByteArray
  finish := fun buffer =>
    if valid : buffer.IsValidUTF8 then .ok (String.fromUTF8 buffer valid)
    else .error "invalid utf-8 sequence"

theorem byteBuilder_holdsUTF8 : byteBuilder.HoldsUTF8 id where
  create := fun _ => rfl
  append := fun _ _ => rfl
  push := fun _ _ => rfl
  finish := fun _ valid => dif_pos valid

end ShuntingYard.Text
