import RemoteSigning.Crypto.Sha2

/-!
# Signed timestamps

A log of certificates promises with a signed timestamp that it has taken one in. The timestamps in a certificate are a
list, and both the list and the timestamps stand behind their lengths in two bytes.

- `SignedTimestamp.isList` accepts such lists; what follows the list does not count.
-/

namespace RemoteSigning.X509.SignedTimestamp

/-- So many bytes off the front, and the rest. -/
def take? (n : Nat) (bs : Bytes) : Option (Bytes × Bytes) := if bs.length < n then none else some (bs.splitAt n)

theorem length_take {n : Nat} {bs front rest : Bytes} (h : take? n bs = some (front, rest)) :
    front.length + rest.length = bs.length ∧ front.length = n := by
  unfold take? at h
  split at h
  · simp at h
  next hn =>
    simp only [Option.some.injEq, List.splitAt_eq, Prod.mk.injEq] at h
    rw [← h.1, ← h.2]
    simp only [List.length_take, List.length_drop]
    omega

/-- Bytes behind their length, and the rest. -/
def prefixed? (bs : Bytes) : Option (Bytes × Bytes) :=
  match bs with
  | a :: b :: rest => take? (a.toNat * 256 + b.toNat) rest
  | _ => none

theorem length_prefixed {bs front rest : Bytes} (h : prefixed? bs = some (front, rest)) : rest.length < bs.length := by
  unfold prefixed? at h
  split at h
  · have := (length_take h).1
    simp only [List.length_cons]; omega
  · simp at h

/-- A timestamp: the first version, the log, the time, extensions, and a signature with the numbers of its digest and of
its kind. -/
def isTimestamp (bs : Bytes) : Bool :=
  let parts : Option (UInt8 × UInt8 × UInt8 × Bytes) := do
    let (version, rest) ← take? 1 bs
    let (_, rest) ← take? 40 rest
    let (_, rest) ← prefixed? rest
    let (numbers, rest) ← take? 2 rest
    let (_, rest) ← prefixed? rest
    match version, numbers with
    | [v], [digest, kind] => some (v, digest, kind, rest)
    | _, _ => none
  match parts with
  | some (v, digest, kind, rest) => v = 0 && 1 ≤ digest && digest ≤ 6 && kind ≤ 3 && rest.isEmpty
  | none => false

/-- Timestamps, each behind its length. -/
def areTimestamps (bs : Bytes) : Bool :=
  match bs with
  | [] => true
  | b :: bs' =>
    match _h : prefixed? (b :: bs') with
    | some (t, rest) => isTimestamp t && areTimestamps rest
    | none => false
termination_by bs.length
decreasing_by exact length_prefixed _h

def isList (bs : Bytes) : Bool :=
  match prefixed? bs with
  | some (list, _) => areTimestamps list
  | none => false

example : isList [0, 0] = true := by cbv
example : isList [0, 5, 0] = false := by cbv

end RemoteSigning.X509.SignedTimestamp
