import WalletWatch.Proofs.Listener.Publication
import WalletWatch.Proofs.Tracker.Projection

/-!
# Grounds for a publication

A listener that was left by its last subscriber may still have activities in its queue when the address gets
new subscribers. The order of its two looks keeps it from notifying them: it looks for subscribers first and
for its cancellation afterwards, and a listener that is not cancelled at the second look was the registered
one at the first.
-/

namespace WalletWatch

namespace Tracker

/-- What the `i`-th listener saw at its look for subscribers, which made the notification `n`, and at its
later look for a cancellation. -/
structure Grounds (i : Nat) (n : Notification) (look check : Moment) : Prop where
  looked : look.event = .listener i (.prepare n.time)
  checked : check.event = .listener i .clear
  registered : look.before.registered.get? n.address = some i
  listener : ∃ l, look.before.listeners[i]? = some l ∧ l.address = n.address ∧ l.cancelled = false
  uncancelled : ∃ l, check.before.listeners[i]? = some l ∧ l.cancelled = false
  subscribers : n.subscribers = look.before.subscribersOf n.address
  nonempty : n.subscribers ≠ []

theorem Runs.step_of_listener {t u : Tracker} {h h₁ h₂ : List Moment} {m : Moment} {i : Nat}
    {e : Listener.Event} (run : Runs t h u) (hh : h = h₁ ++ m :: h₂) (he : m.event = .listener i e) :
    ∃ l l', m.before.listeners[i]? = some l ∧
      Listener.Step m.before.capacity (m.before.subscribersOf l.address) l e l' m.effects ∧
      own i [m] = [⟨l, m.before.subscribersOf l.address, e, m.effects, l'⟩] := by
  have now := (Machine.Runs.split_step? run hh).2.1
  rcases step?_listener i now with ⟨l, e', l', hl, -, step, he', hm⟩ | ⟨-, other, -⟩
  · rw [he] at he'
    cases he'
    exact ⟨l, l', hl, step, hm⟩
  · exact absurd he (other e)

theorem Runs.event_ne {t u : Tracker} {h : List Moment} {i : Nat} {e : Listener.Event}
    (run : Runs t h u) (silent : ∀ m' ∈ own i h, m'.event ≠ e) :
    ∀ m ∈ h, m.event ≠ .listener i e := by
  intro m mem he
  obtain ⟨h₁, h₂, hh⟩ := List.append_of_mem mem
  obtain ⟨l, l', -, -, hm⟩ := run.step_of_listener hh he
  refine silent ⟨l, m.before.subscribersOf l.address, e, m.effects, l'⟩ ?_ rfl
  rw [hh, own_append, own_cons, hm]
  simp

theorem publish_not_mem_add (t : Tracker) (a : Address) (user : UserId) (n : Notification) :
    Effect.publish n ∉ (t.add a user).2 := by
  unfold add
  dsimp only
  split <;> simp

theorem publish_not_mem_remove (t : Tracker) (a : Address) (user : UserId) (n : Notification) :
    Effect.publish n ∉ (t.remove a user).2 := by
  unfold remove
  split
  · simp
  · split
    · dsimp only
      split <;> simp
    · simp

theorem cleared_of_publish_mem {t t' : Tracker} {e : Event} {effects : List Effect}
    {n : Notification} (h : t.step? e = some (t', effects)) (hn : .publish n ∈ effects) :
    ∃ i l scan queue, e = .listener i .publish ∧ t.listeners[i]? = some l ∧
      l.phase = .running scan (.cleared n) queue := by
  cases e with
  | add a user =>
      obtain rfl : (t.add a user).2 = effects := congrArg Prod.snd (Option.some.inj h)
      exact absurd hn (publish_not_mem_add t a user n)
  | remove a user =>
      obtain rfl : (t.remove a user).2 = effects := congrArg Prod.snd (Option.some.inj h)
      exact absurd hn (publish_not_mem_remove t a user n)
  | command c =>
      obtain rfl : (t.handle c).2 = effects := congrArg Prod.snd (Option.some.inj h)
      unfold handle at hn
      split at hn
      · exact absurd hn (publish_not_mem_add t _ _ n)
      · exact absurd hn (publish_not_mem_remove t _ _ n)
      · simp at hn
  | stopAll =>
      cases h
      simp at hn
  | close =>
      cases h
      cases hn
  | listener i e =>
      rcases step?_cases h with ⟨i', e', l, l', he, hl, step, -⟩ | ⟨other, -⟩
      · cases he
        cases step with
        | publish hp =>
            obtain rfl := Effect.publish.inj (List.mem_singleton.1 hn)
            exact ⟨i, l, _, _, rfl, hl, hp⟩
        | _ => simp at hn
      · exact absurd rfl (other i e)

/-- A listener with a cleared notification had grounds for it. -/
theorem Runs.grounds {capacity : Nat} {h : List Moment} {t : Tracker} {i : Nat} {l : Listener}
    {scan : ScanHalf} {n : Notification} {queue : List Activity} (run : Runs (start capacity) h t)
    (hl : t.listeners[i]? = some l) (hp : l.phase = .running scan (.cleared n) queue) :
    ∃ h₁ look h₂ check h₃, h = (h₁ ++ look :: h₂) ++ check :: h₃ ∧ Grounds i n look check ∧
      ∀ m ∈ h₂ ++ h₃, ∀ now, m.event ≠ .listener i (.prepare now) := by
  obtain ⟨a, closed, trace⟩ := run.trace_start hl
  -- Both looks are in the trace of the listener, and from there they are found in the run.
  obtain ⟨k, check', k₃, hk, ⟨k₁, look', k₂, rfl, makes, none₂⟩, clear, live, none₃⟩ := trace.checked hp
  have between := ((trace.split hk).1.split rfl).2
  obtain ⟨g, check, h₃, rfl, hg, hcheck, rfl⟩ := own_split hk
  obtain ⟨h₁, look, h₂, rfl, -, hlook, rfl⟩ := own_split hg
  obtain ⟨run₁, -, run₃⟩ := Machine.Runs.split run rfl
  obtain ⟨run₀, -, run₂⟩ := run₁.split rfl
  obtain ⟨looked, hbefore, seen, -⟩ := own_eq_singleton hlook
  obtain ⟨checked, hbefore', -, -⟩ := own_eq_singleton hcheck
  have fit : Consistent look.before := (consistent_start capacity).runs run₀
  refine ⟨h₁, look, h₂, check, h₃, rfl, ?_, ?_⟩
  · constructor
    case looked => rw [looked, makes.event]
    case checked => rw [checked, clear]
    -- A listener stays cancelled, so it was not cancelled at its look for subscribers either.
    case registered => exact makes.address ▸ fit.live i _ hbefore (between.live live)
    case listener => exact ⟨_, hbefore, makes.address.symm, between.live live⟩
    case uncancelled => exact ⟨_, hbefore', live⟩
    case subscribers => rw [makes.subscribers, seen, makes.address]
    case nonempty => exact makes.subscribers ▸ makes.nonempty
  · intro m hm now
    rcases List.mem_append.1 hm with hm | hm
    · exact Runs.event_ne run₂ (fun m' hm' => none₂ m' hm' now) m hm
    · exact Runs.event_ne run₃ (fun m' hm' => none₃ m' hm' now) m hm

/-- A cleared notification is about an activity of an earlier scan of the listener. -/
theorem Runs.scanned_of_cleared {capacity : Nat} {h : List Moment} {t : Tracker} {i : Nat}
    {l : Listener} {scan : ScanHalf} {n : Notification} {queue : List Activity}
    (run : Runs (start capacity) h t) (hl : t.listeners[i]? = some l)
    (hp : l.phase = .running scan (.cleared n) queue) :
    ∃ m ∈ h, ∃ l' found header publish queue, m.event = .listener i (.scanned (.ok found)) ∧
      m.before.listeners[i]? = some l' ∧ l'.phase = .running (.scanning header) publish queue ∧
      l'.address = n.address ∧ n.activity ∈ found := by
  obtain ⟨a, closed, trace⟩ := run.trace_start hl
  obtain ⟨rfl, found⟩ := trace.found_of_cleared hp
  obtain ⟨m', hm', activities, header, publish, queue', he, hp', hx⟩ := Listener.mem_found found
  obtain ⟨k₁, k₂, hk⟩ := List.append_of_mem hm'
  obtain ⟨h₁, m, h₂, rfl, -, hm, -⟩ := own_split hk
  obtain ⟨event, before, -, -⟩ := own_eq_singleton hm
  exact ⟨m, by simp, m'.before, activities, header, publish, queue', he ▸ event, before, hp',
    (trace.split hk).1.address, hx⟩

theorem Runs.silent_of_barred {t u : Tracker} {h : List Moment} {i : Nat} {l : Listener}
    (run : Runs t h u) (hl : t.listeners[i]? = some l) (barred : l.Barred) :
    ∀ m ∈ h, m.event ≠ .listener i .publish := by
  cases hu : u.listeners[i]? with
  | none => exact absurd hl (by simp [(run.unborn hu).1])
  | some l' =>
      obtain ⟨l₀, hl₀ | ⟨hn, -⟩, trace⟩ := run.trace hu
      · rw [hl, Option.some.injEq] at hl₀
        subst hl₀
        exact run.event_ne (trace.barred barred).2
      · simp [hn] at hl

theorem Runs.cancelled_of_unaddressed {capacity : Nat} {h : List Moment} {t : Tracker} {i : Nat}
    {l : Listener} (run : Runs (start capacity) h t) (hl : t.listeners[i]? = some l)
    (none : t.subscribersOf l.address = []) : l.cancelled = true := by
  have fit : Consistent t := (consistent_start capacity).runs run
  cases live : l.cancelled with
  | true => rfl
  | false => exact absurd none (fit.subscribersOf_ne_nil hl live)

end Tracker

end WalletWatch
