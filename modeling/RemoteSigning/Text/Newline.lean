import RemoteSigning.Text.CodePoint

/-!
# Line ends

A text file may end its lines with a line feed, a carriage return, or both in this order; a text read from it has line
feeds only.

- `unifyNewlines_of_not_mem`: a text without carriage returns is unchanged.
-/

namespace RemoteSigning.Text

/-- The text after a carriage return (`afterReturn`) or after anything else, with every carriage return, and the line
feed that may follow it, made one line feed. -/
def unifyFrom (afterReturn : Bool) : Text → Text
  | [] => []
  | c :: t =>
    if c = '\r' then CodePoint.ofChar '\n' :: unifyFrom true t
    else if afterReturn && c = CodePoint.ofChar '\n' then unifyFrom false t
    else c :: unifyFrom false t

/-- Every carriage return, with the line feed that may follow it, becomes one line feed. -/
def unifyNewlines (t : Text) : Text := unifyFrom false t

theorem unifyNewlines_of_not_mem {t : Text} (h : CodePoint.ofChar '\r' ∉ t) : unifyNewlines t = t := by
  unfold unifyNewlines
  induction t with
  | nil => rfl
  | cons c t ih =>
    simp only [List.mem_cons, not_or] at h
    rw [unifyFrom, if_neg (Ne.symm h.1), ih h.2]
    simp

/-- A line end is one line feed, however it was written. -/
example : unifyNewlines "a\r\nb\rc\n" = Text.ofString "a\nb\nc\n" := by decide

/-- The line and the column, counted from one, of the place after the given text. -/
def position (before : Text) : Nat × Nat :=
  (before.count (CodePoint.ofChar '\n') + 1, (before.reverse.takeWhile (· ≠ CodePoint.ofChar '\n')).length + 1)

end RemoteSigning.Text
