import RemoteSigning.Asn1.Der

/-!
# The fields of a sequence

The items of a sequence are read in order, each one as what its place asks for. A field that may be absent is told by
its tag, and a field with a default is not written when it has that value.

- `Fields` reads items from the front; `sequence?` reads a whole sequence with one, and leaves nothing over;
- `Fields.explicit` and `Fields.implicit` are the two ways in which a number tells a field that may be absent.
-/

namespace RemoteSigning.Der

/-- What reads items, from the first on. -/
abbrev Fields (α : Type) := StateT (List Element) Option α

namespace Fields

variable {α β : Type}

def next : Fields Element := fun
  | [] => none
  | e :: rest => some (e, rest)

/-- The next item, read as what is expected. -/
def item (read : Element → Option α) : Fields α := do
  let e ← next
  read e

/-- The next item if it is of a kind; then it has to be readable. -/
def itemIf (isKind : Element → Bool) (read : Element → Option α) : Fields (Option α) := fun
  | [] => some (none, [])
  | e :: rest => if isKind e then (read e).map fun a => (some a, rest) else some (none, e :: rest)

/-- The next item if it has a tag. -/
def tagged (tag : UInt8) (read : Element → Option α) : Fields (Option α) := itemIf (·.hasTag tag) read

/-- The item inside the next one, if that has a number. -/
def explicit (n : Nat) (read : Element → Option α) : Fields (Option α) :=
  tagged (contextTag n) fun e => (single? e.content).bind read

/-- The next item if it has a number in the place of its tag. -/
def implicit (n : Nat) (tag : UInt8) (read : Element → Option α) : Fields (Option α) :=
  tagged (plainContextTag n ||| tag &&& 0x20) fun e => read { e with lead := tag }

/-- A value that is not written when it is the default. -/
def orDefault [DecidableEq α] (default : α) (field : Fields (Option α)) : Fields α := do
  match ← field with
  | none => return default
  | some a => if a = default then failure else return a

/-- Nothing is left over. -/
def all? (fields : Fields α) (items : List Element) : Option α :=
  match fields items with
  | some (a, []) => some a
  | _ => none

end Fields

def sequence? {α : Type} (fields : Fields α) (e : Element) : Option α := e.items?.bind fields.all?

/-- A sequence of items of one kind. -/
def listOf? {α : Type} (read : Element → Option α) (e : Element) : Option (List α) := e.items?.bind (List.mapM read)

/-- The contents of an element and nothing else, read as one element. -/
def whole? {α : Type} (read : Element → Option α) (bs : Bytes) : Option α := (single? bs).bind read

/-- An element is not before another one in the order of bytes. -/
def inOrder : Bytes → Bytes → Bool
  | [], _ => true
  | _ :: _, [] => false
  | a :: as, b :: bs => a < b || (a = b && inOrder as bs)

/-- Elements in the order in which a set has them. -/
def ascending : List Element → Bool
  | a :: b :: rest => inOrder a.bytes b.bytes && ascending (b :: rest)
  | _ => true

/-- A set of items of one kind, in order. -/
def setOf? {α : Type} (read : Element → Option α) (e : Element) : Option (List α) :=
  match e.within? setTag with
  | some items => if ascending items then items.mapM read else none
  | none => none

/-- A sequence of a number, a truth value that is false unless it is there, and a text that may be there. -/
example : ((single? [0x30, 0x06, 0x02, 0x01, 0x05, 0x81, 0x01, 0x41]).bind (sequence? do
    let n ← Fields.item Element.natural?
    let b ← Fields.orDefault false (Fields.tagged booleanTag Element.boolean?)
    let t ← Fields.implicit 1 octetStringTag Element.octets?
    return (n, b, t))) = some (5, false, some [0x41]) := by cbv

end RemoteSigning.Der
