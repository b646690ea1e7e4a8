/-!
# Runs of a machine

A machine changes by one event at a time, and an event that cannot happen now has no next state. A run is
the list of what happened, each event with the state that it found and the state that it left. The
events of a run decide the order in which the parts of the machine go on, so what holds after every run
holds for every order.

Where a step also does something to the world outside, `next?` forgets it and `effects` recovers it from a
moment, so that runs are of one kind for all machines. A machine may have another machine as a part, and
`history` is what a run means for this part.
-/

namespace WalletWatch

namespace Machine

structure Moment (σ ε : Type) where
  before : σ
  event : ε
  after : σ

/-- `Runs step? s h u`: the moments of `h` lead from `s` to `u`, one step after the other. -/
inductive Runs {σ ε : Type} (step? : σ → ε → Option σ) (s : σ) : List (Moment σ ε) → σ → Prop
  | nil : Runs step? s [] s
  | snoc {h : List (Moment σ ε)} {u u' : σ} (e : ε) :
      Runs step? s h u → step? u e = some u' → Runs step? s (h ++ [⟨u, e, u'⟩]) u'

def replay? {σ ε : Type} (step? : σ → ε → Option σ) (s : σ) :
    List ε → Option (List (Moment σ ε) × σ)
  | [] => some ([], s)
  | e :: es => match step? s e with
    | none => none
    | some s' => (replay? step? s' es).map fun (h, u) => (⟨s, e, s'⟩ :: h, u)

def next? {σ ε ω : Type} (step? : σ → ε → Option (σ × List ω)) (s : σ) (e : ε) : Option σ :=
  (step? s e).map (·.1)

def effects {σ ε ω : Type} (step? : σ → ε → Option (σ × List ω)) (m : Moment σ ε) : List ω :=
  (step? m.before m.event).elim [] (·.2)

/-- What a run does to a part of the machine, where `happens?` gives the events of the part. -/
def history {σ τ ε ε' : Type} (part : σ → τ) (happens? : σ → ε → Option ε') (h : List (Moment σ ε)) :
    List (Moment τ ε') :=
  h.filterMap fun m => (happens? m.before m.event).map fun e => ⟨part m.before, e, part m.after⟩

end Machine

end WalletWatch
