/-!
# Arithmetic modulo a number

- `powMod_eq`: `powMod b e m` is the power `b ^ e`, reduced.
-/

namespace RemoteSigning

/-- `b ^ e` modulo `m`, by squaring. -/
def powMod (b e m : Nat) : Nat :=
  if e = 0 then 1 % m
  else
    let half := powMod b (e / 2) m
    let square := half * half % m
    if e % 2 = 0 then square else square * b % m
termination_by e
decreasing_by omega

theorem powMod_eq (b e m : Nat) : powMod b e m = Nat.pow b e % m := by
  induction e using Nat.strongRecOn with
  | ind e ih =>
    unfold powMod
    by_cases he : e = 0
    · simp [he]
    · have h := ih (e / 2) (by omega)
      simp only [he, if_false, h]
      have hs : Nat.pow b (e / 2) % m * (Nat.pow b (e / 2) % m) % m = Nat.pow b (2 * (e / 2)) % m := by
        rw [← Nat.mul_mod, Nat.two_mul]
        exact congrArg (· % m) (Nat.pow_add b (e / 2) (e / 2)).symm
      rw [hs]
      split
      · rw [show 2 * (e / 2) = e by omega]
      · have he' : Nat.pow b (2 * (e / 2)) * b = Nat.pow b e := by
          have hp : Nat.pow b (2 * (e / 2) + 1) = Nat.pow b (2 * (e / 2)) * b := rfl
          rw [← hp, show 2 * (e / 2) + 1 = e by omega]
        rw [Nat.mod_mul_mod, he']

/-- The difference of two reduced numbers, reduced. -/
def subMod (a b m : Nat) : Nat := (a + m - b) % m

/-- The inverse modulo a prime. -/
def invMod (a p : Nat) : Nat := powMod a (p - 2) p

end RemoteSigning
