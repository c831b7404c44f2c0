import RemoteSigning.Crypto.Sha2

/-!
# Distinguished encoding rules

An element is a tag, a length and that many bytes; tags and lengths have one form only, the shortest. The contents of a
constructed element are elements again.

- `Der.read?` reads one element off the front, and `Der.elements?` splits bytes into elements;
- `length_rest_lt`: what follows an element is shorter than what it was read from;
- the primitive types have one form per value: `Element.integer?`, `Element.oid?`, `Element.bits?`, and so on.
-/

namespace RemoteSigning

/-- An object identifier, by its arcs. -/
abbrev Oid := List Nat

namespace Der

/-- A tag with its bytes. -/
structure Element where
  /-- The first byte of the tag. -/
  lead : UInt8
  /-- The further bytes of a long tag. -/
  more : Bytes
  /-- What the length counts. -/
  content : Bytes
  deriving DecidableEq, Repr

def booleanTag : UInt8 := 0x01
def integerTag : UInt8 := 0x02
def bitStringTag : UInt8 := 0x03
def octetStringTag : UInt8 := 0x04
def nullTag : UInt8 := 0x05
def oidTag : UInt8 := 0x06
def utf8StringTag : UInt8 := 0x0C
def printableStringTag : UInt8 := 0x13
def ia5StringTag : UInt8 := 0x16
def utcTimeTag : UInt8 := 0x17
def generalizedTimeTag : UInt8 := 0x18
def visibleStringTag : UInt8 := 0x1A
def universalStringTag : UInt8 := 0x1C
def bmpStringTag : UInt8 := 0x1E
def sequenceTag : UInt8 := 0x30
def setTag : UInt8 := 0x31

/-- The tag of a constructed element whose meaning depends on the place. -/
def contextTag (n : Nat) : UInt8 := (0xA0 + n).toUInt8

/-- The tag of a primitive element whose meaning depends on the place. -/
def plainContextTag (n : Nat) : UInt8 := (0x80 + n).toUInt8

/-- The further bytes of a long tag, and the rest. -/
def longTag? : Bytes → Option (Bytes × Bytes)
  | [] => none
  | b :: rest =>
    if b < 0x80 then some ([b], rest)
    else (longTag? rest).map fun (more, rest) => (b :: more, rest)

/-- The number in the further bytes of a long tag. -/
def tagNumber (more : Bytes) : Nat := more.foldl (fun n b => n * 128 + b.toNat % 128) 0

/-- A long tag has no leading zeros, is not used for a number below 31, and has 32 bits at most. -/
def isLongTag (more : Bytes) : Bool := more.head? ≠ some 0x80 && 31 ≤ tagNumber more && tagNumber more < 1 <<< 32

/-- A length, and the rest. The long form has to be the shortest, and is not used for less than 128. -/
def length? : Bytes → Option (Nat × Bytes)
  | [] => none
  | b :: rest =>
    if b < 0x80 then some (b.toNat, rest)
    else
      let count := b.toNat - 0x80
      let field := rest.take count
      let n := Sha2.ofBytes field
      if count = 0 || count > 4 || field.length < count || field.head? = some 0 || n < 0x80 then none
      else some (n, rest.drop count)

/-- The further bytes of the tag that a byte begins, and the rest. -/
def tagTail? (lead : UInt8) (rest : Bytes) : Option (Bytes × Bytes) :=
  if lead &&& 0x1F = 0x1F then (longTag? rest).filter fun (more, _) => isLongTag more else some ([], rest)

/-- One element off the front, and the rest. -/
def read? : Bytes → Option (Element × Bytes)
  | [] => none
  | lead :: rest =>
    match tagTail? lead rest with
    | none => none
    | some (more, rest) =>
      match length? rest with
      | none => none
      | some (n, rest) => if rest.length < n then none else some (⟨lead, more, rest.take n⟩, rest.drop n)

theorem length_longTag {bs more rest : Bytes} (h : longTag? bs = some (more, rest)) : rest.length < bs.length := by
  induction bs generalizing more rest with
  | nil => simp [longTag?] at h
  | cons b bs ih =>
    unfold longTag? at h
    split at h
    · simp only [Option.some.injEq, Prod.mk.injEq] at h
      rw [← h.2]; simp
    · simp only [Option.map_eq_some_iff, Prod.mk.injEq] at h
      obtain ⟨⟨m, r⟩, hr, _, rfl⟩ := h
      have := ih hr
      simp only [List.length_cons]; omega

theorem length_length {bs rest : Bytes} {n : Nat} (h : length? bs = some (n, rest)) : rest.length < bs.length := by
  cases bs with
  | nil => simp [length?] at h
  | cons b bs =>
    simp only [length?] at h
    split at h
    · simp only [Option.some.injEq, Prod.mk.injEq] at h
      rw [← h.2]; simp
    · split at h
      · simp at h
      · simp only [Option.some.injEq, Prod.mk.injEq] at h
        rw [← h.2]; simp only [List.length_drop, List.length_cons]; omega

theorem length_rest_lt {bs rest : Bytes} {e : Element} (h : read? bs = some (e, rest)) : rest.length < bs.length := by
  cases bs with
  | nil => simp [read?] at h
  | cons lead bs =>
    simp only [read?] at h
    split at h
    · simp at h
    next more r ht =>
      have h1 : r.length ≤ bs.length := by
        unfold tagTail? at ht
        split at ht
        · exact Nat.le_of_lt (length_longTag (Option.filter_eq_some_iff.mp ht).1)
        · simp only [Option.some.injEq, Prod.mk.injEq] at ht; exact Nat.le_of_eq (congrArg List.length ht.2.symm)
      split at h
      · simp at h
      next n r' hl =>
        have h2 := length_length hl
        split at h
        · simp at h
        · simp only [Option.some.injEq, Prod.mk.injEq] at h
          rw [← h.2]; simp only [List.length_drop, List.length_cons]; omega

/-- The elements that bytes consist of. -/
def elements? (bs : Bytes) : Option (List Element) :=
  match bs with
  | [] => some []
  | b :: bs' =>
    match _h : read? (b :: bs') with
    | none => none
    | some (e, rest) => (elements? rest).map (e :: ·)
termination_by bs.length
decreasing_by exact length_rest_lt _h

/-- The only element that bytes consist of. -/
def single? (bs : Bytes) : Option Element :=
  match read? bs with
  | some (e, []) => some e
  | _ => none

namespace Element

def expect? (e : Element) (tag : UInt8) : Option Bytes := if e.lead = tag && e.more.isEmpty then some e.content else none

def within? (e : Element) (tag : UInt8) : Option (List Element) := e.expect? tag >>= elements?

def items? (e : Element) : Option (List Element) := e.within? sequenceTag

/-- The elements at the front of which a tag can be told. -/
def hasTag (e : Element) (tag : UInt8) : Bool := e.lead = tag && e.more.isEmpty

/-- The number of an integer in the fewest bytes. -/
def integer? (e : Element) : Option Int :=
  match e.expect? integerTag with
  | some (b :: rest) =>
    let bs := b :: rest
    let padded := match rest with
      | c :: _ => (b = 0 && c < 0x80) || (b = 0xFF && c ≥ 0x80)
      | [] => false
    if padded then none
    else if b < 0x80 then some (Sha2.ofBytes bs : Int)
    else some (Int.ofNat (Sha2.ofBytes bs) - Int.ofNat (1 <<< (8 * bs.length)))
  | _ => none

/-- An integer that is not negative. -/
def natural? (e : Element) : Option Nat :=
  match e.integer? with
  | some (.ofNat n) => some n
  | _ => none

/-- An integer that is not negative, of so many bits at most. -/
def word? (bits : Nat) (e : Element) : Option Nat := e.natural?.filter fun n => n < 1 <<< bits

/-- A truth value: no bits or all bits of one byte. -/
def boolean? (e : Element) : Option Bool :=
  match e.expect? booleanTag with
  | some [b] => if b = 0 then some false else if b = 0xFF then some true else none
  | _ => none

/-- The element is the empty one. -/
def isNull (e : Element) : Bool := e.expect? nullTag = some []

def octets? (e : Element) : Option Bytes := e.expect? octetStringTag

/-- A bit string: the number of unused bits at its end, all of them zero, and its bytes. -/
def bits? (e : Element) : Option (Nat × Bytes) :=
  match e.expect? bitStringTag with
  | some (unused :: bs) =>
    match bs.getLast? with
    | none => if unused = 0 then some (0, []) else none
    | some last => if unused ≤ 7 && last.toNat % (1 <<< unused.toNat) = 0 then some (unused.toNat, bs) else none
  | _ => none

/-- The numbers in base 128 that bytes consist of; `acc?` is the number that is begun. -/
def arcs? (acc? : Option Nat) : Bytes → Option (List Nat)
  | [] => if acc?.isSome then none else some []
  | b :: rest =>
    if acc? = none && b = 0x80 then none
    else
      let n := acc?.getD 0 * 128 + b.toNat % 128
      if b < 0x80 then (arcs? none rest).map (n :: ·) else arcs? (some n) rest

/-- The arcs of an object identifier; its first number holds two. An identifier has 63 bytes at most, and an arc 128
bits. -/
def oid? (e : Element) : Option Oid := do
  let content ← e.expect? oidTag
  if content.length > 63 then none
  match ← arcs? none content with
  | [] => none
  | n :: rest =>
    if (n :: rest).any (· ≥ 1 <<< 128) then none
    else some (min (n / 40) 2 :: (n - 40 * min (n / 40) 2) :: rest)

end Element

/-- The shortest form of a length. -/
def lengthBytes (n : Nat) : Bytes :=
  let width := (n.log2 / 8) + 1
  if n < 0x80 then [n.toUInt8] else (0x80 + width).toUInt8 :: Sha2.toBytes width n

def encode (tag : UInt8) (content : Bytes) : Bytes := tag :: lengthBytes content.length ++ content

def Element.bytes (e : Element) : Bytes := e.lead :: e.more ++ lengthBytes e.content.length ++ e.content

/-- A sequence of three: an identifier, the empty element, and a number below zero. -/
example : ((single? [0x30, 0x0A, 0x06, 0x03, 0x55, 0x1D, 0x0F, 0x05, 0x00, 0x02, 0x01, 0xFF]).bind Element.items?).map
    (fun es => (es.map Element.oid?, es.map Element.isNull, es.map Element.integer?)) =
    some ([some [2, 5, 29, 15], none, none], [false, true, false], [none, none, some (-1)]) := by cbv

end Der

end RemoteSigning
