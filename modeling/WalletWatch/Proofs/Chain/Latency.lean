import WalletWatch.Chain.Latency

/-!
# The number of requests on their way

`Timeline.Fits` is the invariant of a timeline: the errands in the window do not exceed its size, and only
errands in the window are on their way. So the peak of a scan is bounded by the size of its window, with any
latencies.
-/

namespace WalletWatch

namespace Timeline

/-- The window does not exceed `size`, and only errands in the window are counted as on their way. -/
structure Fits (size : Nat) (t : Timeline) : Prop where
  room : t.ready.length + t.running.length + t.answered.length ≤ size
  inFlight : t.inFlight = t.running.length + t.ready.countP fun e => e.2
  peak : t.peak ≤ size

theorem fits_start (size : Nat) (errands : List Errand) : Fits size (start errands) where
  room := Nat.zero_le _
  inFlight := rfl
  peak := Nat.zero_le _

theorem Fits.refill {size : Nat} {t : Timeline} (h : Fits size t) : Fits size (t.refill size) where
  room := by
    have room := h.room
    simp only [Timeline.refill, List.length_append, List.length_map, List.length_take]
    omega
  inFlight := by
    have new (es : List Errand) : ((es.map fun e => (e, false)).countP fun e => e.2) = 0 := by
      rw [List.countP_map]
      exact congrFun List.countP_false es
    rw [Timeline.refill, List.countP_append, h.inFlight, new]
    rfl
  peak := h.peak

theorem Fits.passTo {size : Nat} {t : Timeline} (h : Fits size t) (time : Nat) :
    Fits size (t.passTo time) := by
  have parts : (t.running.filter fun r => r.1 ≤ time).length +
      (t.running.filter fun r => time < r.1).length = t.running.length := by
    have all := List.length_eq_countP_add_countP (fun r : Nat × Errand => decide (r.1 ≤ time))
      (l := t.running)
    rw [← List.countP_eq_length_filter, ← List.countP_eq_length_filter, all]
    simp
  constructor
  case room =>
    have room := h.room
    simp only [Timeline.passTo, List.length_append, List.length_map, List.length_mergeSort]
    omega
  case inFlight =>
    have inFlight := h.inFlight
    simp only [Timeline.passTo, List.countP_append, List.countP_map, Function.comp_def,
      List.countP_true, List.length_mergeSort]
    omega
  case peak => exact h.peak

theorem Fits.step {size : Nat} {t : Timeline} (h : Fits size t) : Fits size (t.step size) := by
  have h := h.refill
  unfold Timeline.step
  generalize t.refill size = t at h
  dsimp only
  split
  · next e he =>
      have taken : Fits size { t with answered := t.answered.erase e, next := t.next + 1 } := by
        refine ⟨?_, h.inFlight, h.peak⟩
        have room := h.room
        have fewer : (t.answered.erase e).length ≤ t.answered.length := List.length_erase_le
        dsimp only
        omega
      exact taken.passTo _
  · obtain ⟨room, inFlight, peak⟩ := h
    split
    · next e rest ready =>
        simp only [ready, List.length_cons, List.countP_cons, if_true] at room inFlight
        constructor
        case room =>
          simp only [List.length_append, List.length_singleton]
          omega
        case inFlight =>
          dsimp only
          omega
        case peak => exact peak
    · next e rest ready =>
        -- What is on its way already is in the window, which the errand leaves room for.
        have fewer : (rest.countP fun e => e.2) ≤ rest.length := List.countP_le_length
        simp only [ready, List.length_cons, List.countP_cons, Bool.false_eq_true, if_false,
          Nat.add_zero] at room inFlight
        have peak : max t.peak (t.inFlight + 1) ≤ size := by omega
        split
        · constructor
          case room =>
            simp only [List.length_append, List.length_singleton]
            omega
          case inFlight => exact inFlight
          case peak => exact peak
        · constructor
          case room =>
            simp only [List.length_append, List.length_singleton]
            omega
          case inFlight =>
            simp only [List.length_append, List.length_singleton]
            omega
          case peak => exact peak
    · split
      · exact Fits.passTo ⟨room, inFlight, peak⟩ _
      · exact ⟨room, inFlight, peak⟩

theorem Fits.run {size : Nat} {t : Timeline} (h : Fits size t) (n : Nat) : Fits size (run size n t) := by
  induction n generalizing t with
  | zero => exact h
  | succ n ih => exact ih h.step

end Timeline

namespace Scanner

theorem peak_le (sc : Scanner) (node : Node) (l : Latency) (hash : String) (a : Address)
    (s : Session) : sc.peak node l hash a s ≤ sc.windowSize := by
  unfold peak
  split
  · exact Nat.zero_le _
  · exact ((Timeline.fits_start _ _).run _).peak

end Scanner

end WalletWatch
