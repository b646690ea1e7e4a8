import WalletWatch.Proofs.Listener.Step

/-!
# Traces of a listener

`Trace capacity l₀ h l` says that `h` lists the steps of a listener from the stage `l₀` to the stage `l`,
with cancellations from outside in between. The subscribers that it saw are a part of each moment. What a
trace found, attempted and dropped are functions of `h` alone, with a lemma each for appended lists.
-/

namespace WalletWatch

def Effect.notification? : Effect → Option Notification
  | .publish n => some n
  | .log _ | .subscribe | .unsubscribe => none

@[simp] theorem Effect.notification?_publish (n : Notification) :
    (Effect.publish n).notification? = some n := rfl

@[simp] theorem Effect.notification?_log (entry : LogEntry) :
    (Effect.log entry).notification? = none := rfl

def Notification.activity (n : Notification) : Activity :=
  ⟨n.transaction, n.transfers⟩

def ScanHalf.headers : ScanHalf → List Header
  | .scanning header => [header]
  | .reading | .ended => []

def PublishHalf.inHand : PublishHalf → List Activity
  | .holding activity => [activity]
  | .ready n | .cleared n => [n.activity]
  | .idle | .publishing _ | .ended => []

namespace Listener

def queue (l : Listener) : List Activity :=
  match l.phase with
  | .running _ _ queue => queue
  | _ => []

def inHand (l : Listener) : List Activity :=
  match l.phase with
  | .running _ publish _ => publish.inHand
  | _ => []

def scanning (l : Listener) : List Header :=
  match l.phase with
  | .running scan _ _ => scan.headers
  | _ => []

/-- A step of a listener, with the subscribers that it saw. -/
structure Moment where
  before : Listener
  subscribers : List UserId
  event : Event
  effects : List Effect
  after : Listener

inductive Trace (capacity : Nat) (l₀ : Listener) : List Moment → Listener → Prop
  | nil : Trace capacity l₀ [] l₀
  | cancel {h : List Moment} {l : Listener} : Trace capacity l₀ h l → Trace capacity l₀ h l.cancel
  | snoc {h : List Moment} {l l' : Listener} {subscribers : List UserId} {e : Event}
      {effects : List Effect} : Trace capacity l₀ h l → Step capacity subscribers l e l' effects →
      Trace capacity l₀ (h ++ [⟨l, subscribers, e, effects, l'⟩]) l'

def delivered (h : List Moment) : List Header :=
  h.flatMap fun m => match m.event with
    | .receive (some (.ok header)) => [header]
    | _ => []

def scans (h : List Moment) : List (Header × Except Failure (List Activity)) :=
  h.flatMap fun m => match m.event, m.before.phase with
    | .scanned result, .running (.scanning header) _ _ => [(header, result)]
    | _, _ => []

def found (h : List Moment) : List Activity :=
  (scans h).flatMap fun scan => match scan.2 with
    | .ok activities => activities
    | .error _ => []

def queued (h : List Moment) : List Activity :=
  h.flatMap fun m => match m.event with
    | .scanned (.ok _) => m.after.queue.drop m.before.queue.length
    | _ => []

def drops (h : List Moment) : List Effect :=
  h.flatMap fun m => match m.event with
    | .scanned (.ok _) => m.effects
    | _ => []

def attempts (h : List Moment) : List Notification :=
  h.flatMap fun m => m.effects.filterMap Effect.notification?

def answers (h : List Moment) : List (Except ChannelError Unit) :=
  h.flatMap fun m => match m.event with
    | .published reply => [reply]
    | _ => []

theorem delivered_append (h₁ h₂ : List Moment) :
    delivered (h₁ ++ h₂) = delivered h₁ ++ delivered h₂ :=
  List.flatMap_append

theorem scans_append (h₁ h₂ : List Moment) : scans (h₁ ++ h₂) = scans h₁ ++ scans h₂ :=
  List.flatMap_append

theorem found_append (h₁ h₂ : List Moment) : found (h₁ ++ h₂) = found h₁ ++ found h₂ := by
  rw [found, scans_append]
  exact List.flatMap_append

theorem queued_append (h₁ h₂ : List Moment) : queued (h₁ ++ h₂) = queued h₁ ++ queued h₂ :=
  List.flatMap_append

theorem drops_append (h₁ h₂ : List Moment) : drops (h₁ ++ h₂) = drops h₁ ++ drops h₂ :=
  List.flatMap_append

theorem attempts_append (h₁ h₂ : List Moment) :
    attempts (h₁ ++ h₂) = attempts h₁ ++ attempts h₂ :=
  List.flatMap_append

theorem answers_append (h₁ h₂ : List Moment) : answers (h₁ ++ h₂) = answers h₁ ++ answers h₂ :=
  List.flatMap_append

theorem mem_found {x : Activity} {h : List Moment} (hx : x ∈ found h) :
    ∃ m ∈ h, ∃ activities header publish queue, m.event = .scanned (.ok activities) ∧
      m.before.phase = .running (.scanning header) publish queue ∧ x ∈ activities := by
  obtain ⟨scan, hs, hx⟩ := List.mem_flatMap.1 hx
  obtain ⟨m, hm, hs⟩ := List.mem_flatMap.1 hs
  split at hs
  · next he hp =>
      rw [List.mem_singleton.1 hs] at hx
      dsimp only at hx
      split at hx
      · exact ⟨m, hm, _, _, _, _, he, hp, hx⟩
      · cases hx
  · cases hs

theorem Trace.trans {capacity : Nat} {l₀ l₁ l₂ : Listener} {h₁ h₂ : List Moment}
    (first : Trace capacity l₀ h₁ l₁) (second : Trace capacity l₁ h₂ l₂) :
    Trace capacity l₀ (h₁ ++ h₂) l₂ := by
  induction second with
  | nil => simpa using first
  | cancel _ ih => exact ih.cancel
  | snoc _ step ih =>
      rw [← List.append_assoc]
      exact ih.snoc step

theorem Trace.cons {capacity : Nat} {l l' l'' : Listener} {subscribers : List UserId} {e : Event}
    {effects : List Effect} {h : List Moment} (step : Step capacity subscribers l e l' effects)
    (rest : Trace capacity l' h l'') :
    Trace capacity l (⟨l, subscribers, e, effects, l'⟩ :: h) l'' :=
  (Trace.nil.snoc step).trans rest

theorem Trace.split {capacity : Nat} {l₀ l : Listener} {h h₁ h₂ : List Moment} {m : Moment}
    (trace : Trace capacity l₀ h l) (hh : h = h₁ ++ m :: h₂) :
    Trace capacity l₀ h₁ m.before ∧ Trace capacity m.before (m :: h₂) l := by
  induction trace generalizing h₂ with
  | nil => simp at hh
  | cancel _ ih => exact ⟨(ih hh).1, (ih hh).2.cancel⟩
  | @snoc h l l' subscribers e effects trace step ih =>
      rcases List.eq_nil_or_concat h₂ with rfl | ⟨h₂', last, rfl⟩
      · obtain ⟨rfl, hm⟩ := List.append_inj' hh rfl
        cases hm
        exact ⟨trace, Trace.nil.snoc step⟩
      · rw [List.concat_eq_append] at hh ⊢
        rw [← List.cons_append, ← List.append_assoc] at hh
        obtain ⟨hh', hm⟩ := List.append_inj' hh rfl
        cases hm
        obtain ⟨before, behind⟩ := ih hh'
        exact ⟨before, behind.snoc step⟩

theorem Trace.address {capacity : Nat} {l₀ l : Listener} {h : List Moment}
    (trace : Trace capacity l₀ h l) : l.address = l₀.address := by
  induction trace with
  | nil => rfl
  | cancel _ ih => exact ih
  | snoc _ step ih => rw [step.address, ih]

theorem Trace.live {capacity : Nat} {l₀ l : Listener} {h : List Moment}
    (trace : Trace capacity l₀ h l) (hc : l.cancelled = false) : l₀.cancelled = false := by
  induction trace with
  | nil => exact hc
  | cancel => cases hc
  | snoc _ step ih => exact ih (step.cancelled ▸ hc)

theorem Trace.step_of_mem {capacity : Nat} {l₀ l : Listener} {h : List Moment} {m : Moment}
    (trace : Trace capacity l₀ h l) (hm : m ∈ h) :
    Step capacity m.subscribers m.before m.event m.after m.effects := by
  induction trace with
  | nil => cases hm
  | cancel _ ih => exact ih hm
  | snoc _ step ih =>
      rcases List.mem_append.1 hm with hm | hm
      · exact ih hm
      · rw [List.mem_singleton.1 hm]
        exact step

end Listener

end WalletWatch
