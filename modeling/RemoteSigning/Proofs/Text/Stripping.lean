import Mathlib.Data.List.DropRight
import RemoteSigning.Text.Blank

/-!
# Blanks around a text

`Text.strip` takes blanks away from the two ends of a text, and nothing else (`Text.Surrounds`).

- `surrounds_strip`: what is taken away are blanks at the ends;
- `strip_append_blank`: blanks behind a text do not survive, as `strip_blank_append` has it for those in front;
- `strip_eq_of_surrounds`: a text that has no blanks comes out of one that has blanks around it.
-/

namespace RemoteSigning.Text

variable {t b core : Text}

/-- The one text is the other with blanks around it. -/
def Surrounds (t core : Text) : Prop :=
  ∃ before after : Text, t = before ++ core ++ after ∧ before.all CodePoint.isBlank = true ∧
    after.all CodePoint.isBlank = true

theorem dropWhileEnd_append {p : CodePoint → Bool} (h : b.all p = true) (t : Text) :
    dropWhileEnd p (t ++ b) = dropWhileEnd p t := by
  have hb : b.reverse.dropWhile p = [] :=
    List.dropWhile_eq_nil_iff.mpr fun c hc => List.all_eq_true.mp h c (List.mem_reverse.mp hc)
  rw [dropWhileEnd, List.reverse_append, List.dropWhile_append, hb]
  rfl

/-- Blanks behind a text do not survive. -/
theorem strip_append_blank (h : b.all CodePoint.isBlank = true) (t : Text) : strip (t ++ b) = strip t := by
  rw [strip, trim, List.dropWhile_append]
  split
  next hnone =>
    -- Nothing but blanks in front: then nothing is left of the text with the blanks behind it either.
    have hb : b.dropWhile CodePoint.isBlank = [] := List.dropWhile_eq_nil_iff.mpr (List.all_eq_true.mp h)
    rw [hb, strip, trim, List.isEmpty_iff.mp hnone]
  · exact dropWhileEnd_append h _

/-- What is taken away are blanks at the ends. -/
theorem surrounds_strip (t : Text) : t.Surrounds t.strip := by
  refine ⟨t.takeWhile CodePoint.isBlank, (t.dropWhile CodePoint.isBlank).rtakeWhile CodePoint.isBlank, ?_, ?_, ?_⟩
  · have hend : t.strip ++ (t.dropWhile CodePoint.isBlank).rtakeWhile CodePoint.isBlank =
        t.dropWhile CodePoint.isBlank := List.rdropWhile_append_rtakeWhile
    rw [List.append_assoc, hend, List.takeWhile_append_dropWhile]
  · exact List.all_eq_true.mpr fun _ => List.mem_takeWhile_imp
  · exact List.all_eq_true.mpr fun _ => List.mem_rtakeWhile_imp

/-- A text that has no blanks is left alone. -/
theorem strip_of_not_blank (h : ∀ c ∈ core, c.isBlank = false) : core.strip = core := by
  have hfront : core.dropWhile CodePoint.isBlank = core :=
    List.dropWhile_eq_self_iff.mpr fun hl => by simp [h _ (List.getElem_mem hl)]
  rw [strip, trim, hfront]
  exact List.rdropWhile_eq_self_iff.mpr fun hl => by simp [h _ (List.getLast_mem hl)]

/-- A text that has no blanks comes out of one that has blanks around it. -/
theorem strip_eq_of_surrounds (h : ∀ c ∈ core, c.isBlank = false) (ht : t.Surrounds core) : t.strip = core := by
  obtain ⟨before, after, rfl, hbefore, hafter⟩ := ht
  rw [strip_append_blank hafter, strip_blank_append hbefore, strip_of_not_blank h]

/-- What is no blank is in the text around which the blanks are. -/
theorem Surrounds.mem (ht : t.Surrounds core) {c : CodePoint} (hc : c ∈ t) (h : c.isBlank = false) : c ∈ core := by
  obtain ⟨before, after, rfl, hbefore, hafter⟩ := ht
  have hblank {s : Text} (hs : s.all CodePoint.isBlank = true) : c ∉ s := fun hm =>
    Bool.false_ne_true (h.symm.trans (List.all_eq_true.mp hs c hm))
  simpa [hblank hbefore, hblank hafter] using hc

end RemoteSigning.Text
