import RemoteSigning.Text.CodePoint

/-!
# Host names in ASCII

A label of a host name that is not ASCII is written as its ASCII code points, a hyphen, and a sequence of digits that
says which other code points are inserted where, in ascending order of the code points. A number is written with digits
of growing weight; it ends with the first digit below a threshold.

- `Punycode.adapt` fits the thresholds to the numbers that were written;
- `Punycode.digits` writes a number;
- `Punycode.encode` writes a label, `Punycode.decode?` reads it;
- `readNumber?_digits`: a number is read as it was written.
-/

namespace RemoteSigning.Punycode

/-- The least digit that does not end a number, at a weight. -/
def threshold (weight bias : Nat) : Nat := min 26 (max 1 (weight - bias))

theorem threshold_pos (weight bias : Nat) : 0 < threshold weight bias := by
  simp only [threshold]; omega

theorem threshold_le (weight bias : Nat) : threshold weight bias ≤ 26 := by
  simp only [threshold]; omega

/-- The bias for an average number. -/
def settle (weight average : Nat) : Nat :=
  if 455 < average then settle (weight + 36) (average / 35) else weight + 36 * average / (average + 38)
termination_by average
decreasing_by omega

/-- The bias after a number, the first one or a later one, when so many code points are in place. -/
def adapt (number inPlace : Nat) (isFirst : Bool) : Nat :=
  let half := if isFirst then number / 700 else number / 2
  settle 0 (half + half / inPlace)

/-- The letters are the digits below 26, and `0` to `9` follow. -/
def digit (d : Nat) : CodePoint := CodePoint.ofNat (if d < 26 then 0x61 + d else 0x30 + (d - 26))

/-- The digits of a number, from a weight on. -/
def digits (bias weight number : Nat) : Text :=
  let t := threshold weight bias
  if number < t then [digit number]
  else digit (t + (number - t) % (36 - t)) :: digits bias (weight + 36) ((number - t) / (36 - t))
termination_by number
decreasing_by
  have hp := threshold_pos weight bias
  have hl := Nat.div_le_self (number - threshold weight bias) (36 - threshold weight bias)
  omega

/-- What was written of a label. -/
structure Progress where
  written : Text := []
  /-- How many places were passed since the last insertion. -/
  passed : Nat := 0
  bias : Nat := 72
  /-- How many code points are in place. -/
  inPlace : Nat

/-- Passes one code point of the label while `point` is inserted; `basic` code points were in place at first. -/
def Progress.pass (basic point : Nat) (p : Progress) (c : CodePoint) : Progress :=
  if c.val < point then { p with passed := p.passed + 1 }
  else if c.val = point then
    { written := p.written ++ digits p.bias 36 p.passed
      passed := 0
      bias := adapt p.passed (p.inPlace + 1) (p.inPlace = basic)
      inPlace := p.inPlace + 1 }
  else p

/-- Inserts the code points from `next` on, which are given in ascending order. -/
def insertAll (label : Text) (basic : Nat) : (next : Nat) → List Nat → Progress → Progress
  | _, [], p => p
  | next, point :: points, p =>
    let skipped := { p with passed := p.passed + (point - next) * (p.inPlace + 1) }
    let done := label.foldl (Progress.pass basic point) skipped
    insertAll label basic (point + 1) points { done with passed := done.passed + 1 }

/-- The ASCII form of a label, without its mark. -/
def encode (label : Text) : Text :=
  let basic := label.filter CodePoint.isAscii
  let others := ((label.filter (! CodePoint.isAscii ·)).map Fin.val).eraseDups.mergeSort (· ≤ ·)
  basic ++ (if basic.isEmpty then [] else [CodePoint.ofChar '-']) ++
    (insertAll label basic.length 128 others { inPlace := basic.length }).written

/-! ## Reading -/

def digitValue? (c : CodePoint) : Option Nat :=
  if 0x61 ≤ c.val ∧ c.val ≤ 0x7A then some (c.val - 0x61)
  else if 0x30 ≤ c.val ∧ c.val ≤ 0x39 then some (c.val - 0x30 + 26)
  else none

theorem digitValue?_digit {d : Nat} (h : d < 36) : digitValue? (digit d) = some d := by
  have hv : ∀ n, n < 0x110000 → (CodePoint.ofNat n).val = n := fun n hn => by simp [CodePoint.ofNat, hn]
  unfold digit digitValue?
  split
  · rw [hv _ (by omega)]
    rw [if_pos (by omega)]
    simp
  · rw [hv _ (by omega)]
    rw [if_neg (by omega), if_pos (by omega)]
    simp only [Option.some.injEq]
    omega

/-- A number and what follows it. A digit counts `scale` times. -/
def readNumber? (bias : Nat) : (weight scale number : Nat) → Text → Option (Nat × Text)
  | _, _, _, [] => none
  | weight, scale, number, c :: rest =>
    match digitValue? c with
    | none => none
    | some d =>
      let t := threshold weight bias
      if d < t then some (number + d * scale, rest)
      else readNumber? bias (weight + 36) (scale * (36 - t)) (number + d * scale) rest

theorem length_readNumber? {bias : Nat} {t rest : Text} {weight scale number n : Nat}
    (h : readNumber? bias weight scale number t = some (n, rest)) : rest.length < t.length := by
  induction t generalizing weight scale number with
  | nil => simp [readNumber?] at h
  | cons c t ih =>
    simp only [readNumber?] at h
    split at h
    · simp at h
    · split at h
      · simp only [Option.some.injEq, Prod.mk.injEq] at h
        simp [h.2]
      · have := ih h
        simp only [List.length_cons]; omega

theorem readNumber?_digits (bias weight number scale before : Nat) (rest : Text) :
    readNumber? bias weight scale before (digits bias weight number ++ rest) = some (before + number * scale, rest) := by
  induction number using Nat.strongRecOn generalizing weight scale before with
  | _ number ih =>
    have hp := threshold_pos weight bias
    have hl := threshold_le weight bias
    rw [digits]
    split
    next h => simp [readNumber?, digitValue?_digit (show number < 36 by omega), h]
    next h =>
      have hm := Nat.mod_lt (number - threshold weight bias) (show 0 < 36 - threshold weight bias by omega)
      have hd := Nat.div_add_mod (number - threshold weight bias) (36 - threshold weight bias)
      have hs := Nat.div_le_self (number - threshold weight bias) (36 - threshold weight bias)
      generalize hq : (number - threshold weight bias) / (36 - threshold weight bias) = q at *
      generalize hr : (number - threshold weight bias) % (36 - threshold weight bias) = r at *
      simp only [List.cons_append, readNumber?, digitValue?_digit (show threshold weight bias + r < 36 by omega)]
      rw [if_neg (by omega), ih q (by omega)]
      have hn : number = threshold weight bias + r + (36 - threshold weight bias) * q := by omega
      have : (threshold weight bias + r) * scale + q * (scale * (36 - threshold weight bias)) = number * scale := by
        rw [hn, Nat.add_mul, Nat.add_mul, Nat.add_mul, Nat.mul_comm scale, ← Nat.mul_assoc, Nat.mul_comm q]
      simp only [Option.some.injEq, Prod.mk.injEq, and_true]
      omega

/-- Inserts the code points that digits stand for into what is read already; the next one is `point` or later, and comes
at `place` or later. -/
def insertRead? (bias point place : Nat) (isFirst : Bool) (read written : Text) : Option Text :=
  match written with
  | [] => some read
  | c :: cs =>
    match _h : readNumber? bias 36 1 0 (c :: cs) with
    | none => none
    | some (number, rest) =>
      let places := read.length + 1
      let point := point + (place + number) / places
      let place := (place + number) % places
      if h : point < 0x110000 then
        insertRead? (adapt number places isFirst) point (place + 1) false
          (read.take place ++ ⟨point, h⟩ :: read.drop place) rest
      else none
termination_by written.length
decreasing_by exact length_readNumber? _h

/-- The label that an ASCII form without its mark stands for. -/
def decode? (written : Text) : Option Text :=
  let digits := (written.reverse.takeWhile (· ≠ CodePoint.ofChar '-')).reverse
  insertRead? 72 128 0 true (written.take (written.length - digits.length)).dropLast digits

example : encode "bücher" = Text.ofString "bcher-kva" ∧ decode? "bcher-kva" = some (Text.ofString "bücher") := by
  decide +kernel

end RemoteSigning.Punycode
