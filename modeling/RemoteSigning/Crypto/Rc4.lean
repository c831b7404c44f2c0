import RemoteSigning.Text.CodePoint

/-!
# RC4

A stream of bytes is drawn from a key, and combined with a text byte by byte; doing it again undoes it.

- `Rc4.apply` combines a text with the stream of a key; `apply_apply`: it undoes itself.
-/

namespace RemoteSigning.Rc4

/-- The bytes in some order, and two places among them. -/
structure State where
  bytes : Array UInt8
  i : UInt8
  j : UInt8

def State.look (s : State) (place : UInt8) : UInt8 := s.bytes.getD place.toNat 0

/-- Exchanges the bytes at the two places. -/
def State.exchange (s : State) : State :=
  { s with bytes := (s.bytes.setIfInBounds s.i.toNat (s.look s.j)).setIfInBounds s.j.toNat (s.look s.i) }

/-- The state that a key leads to. -/
def State.ofKey (key : Array UInt8) : State :=
  let start : State := ⟨((List.range 256).map Nat.toUInt8).toArray, 0, 0⟩
  let mixed := Nat.fold 256 (fun i _ (s : State) =>
    let i' := i.toUInt8
    ({ s with i := i', j := s.j + s.look i' + key.getD (i % key.size) 0 } : State).exchange) start
  { mixed with i := 0, j := 0 }

/-- The next byte of the stream, and the state after it. -/
def State.next (s : State) : UInt8 × State :=
  let i := s.i + 1
  let s : State := ({ s with i := i, j := s.j + s.look i } : State).exchange
  (s.look (s.look s.i + s.look s.j), s)

/-- Combines a text with the stream that follows a state. -/
def applyFrom : State → Bytes → Bytes
  | _, [] => []
  | s, b :: rest =>
    let (k, s) := s.next
    (b ^^^ k) :: applyFrom s rest

/-- Combines a text with the stream of a key. -/
def apply (key text : Bytes) : Bytes := applyFrom (State.ofKey key.toArray) text

theorem applyFrom_applyFrom (s : State) (text : Bytes) : applyFrom s (applyFrom s text) = text := by
  induction text generalizing s with
  | nil => rfl
  | cons b rest ih => simp only [applyFrom, ih, UInt8.xor_assoc, UInt8.xor_self, UInt8.xor_zero]

/-- What was combined with the stream of a key is opened by combining it again. -/
theorem apply_apply (key text : Bytes) : apply key (apply key text) = text := applyFrom_applyFrom _ _

end RemoteSigning.Rc4
