import Mathlib.Data.List.Induction
import WalletWatch.Proofs.Hex

/-!
# Trimming

`trim` takes the blanks from the two ends of a text, and `dropMark?` a mark from its front.
-/

namespace WalletWatch

namespace Text

theorem dropMark?_eq_some_iff {mark cs rest : List Char} : dropMark? mark cs = some rest ↔ cs = mark ++ rest := by
  induction mark generalizing cs with
  | nil => simp [dropMark?]
  | cons m mark ih =>
      cases cs with
      | nil => simp [dropMark?]
      | cons c cs =>
          rw [dropMark?, List.cons_append, List.cons.injEq]
          split
          · next same => simp [ih, same]
          · next other => simp [Ne.symm other]

theorem exists_trimStart (cs : List Char) :
    ∃ front, cs = front ++ trimStart cs ∧ ∀ c ∈ front, isBlank c = true :=
  ⟨cs.takeWhile isBlank, List.takeWhile_append_dropWhile.symm,
    fun _ hc => List.all_eq_true.1 List.all_takeWhile _ hc⟩

theorem exists_trim (cs : List Char) :
    ∃ front back, cs = front ++ trim cs ++ back ∧ ∀ c ∈ front ++ back, isBlank c = true := by
  obtain ⟨front, opened, before⟩ := exists_trimStart cs
  obtain ⟨back, closed, behind⟩ := exists_trimStart (trimStart cs).reverse
  refine ⟨front, back.reverse, ?_, List.forall_mem_append.2 ⟨before, fun c hc => ?_⟩⟩
  · rw [trim, List.append_assoc, ← List.reverse_append, ← closed, List.reverse_reverse, ← opened]
  · exact behind c (List.mem_reverse.1 hc)

theorem trim_append {front cs back : List Char} (blank : ∀ c ∈ front ++ back, isBlank c = true)
    (plain : ∀ c ∈ cs, isBlank c = false) : trim (front ++ cs ++ back) = cs := by
  obtain ⟨before, behind⟩ := List.forall_mem_append.1 blank
  rw [trim, trimStart, trimStart, List.append_assoc, List.dropWhile_append_of_pos before]
  cases cs with
  | nil => rw [List.nil_append, List.dropWhile_eq_nil_iff.2 behind]; rfl
  | cons c cs =>
      have solid : ¬isBlank c = true := by simp [plain c (.head _)]
      have reversed : ∀ c ∈ back.reverse, isBlank c = true := fun c hc => behind c (List.mem_reverse.1 hc)
      have back : ∀ d ∈ (c :: cs).reverse, isBlank d = false := fun d hd => plain d (List.mem_reverse.1 hd)
      rw [List.cons_append, List.dropWhile_cons_of_neg solid, ← List.cons_append, List.reverse_append,
        List.dropWhile_append_of_pos reversed, ← trimStart, trimStart_of_not_blank back, List.reverse_reverse]

end Text

end WalletWatch
