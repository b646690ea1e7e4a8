import WalletWatch.Proofs.Chain.Sweep

/-!
# A sweep finds activities of its address

`Activity.of?` is the only way in which a sweep makes an activity. So with any answers, in any order, what a
sweep finds satisfies `Activity.Concerns` for the address of its search.
-/

namespace WalletWatch

/-- The transfers of the activity are those of its transaction that involve `a`, and there is one. -/
structure Activity.Concerns (x : Activity) (a : Address) : Prop where
  narrowed : x.transfers = Transfer.narrow x.transaction.transfers a
  nonempty : x.transfers ≠ []

theorem Activity.concerns_of_of? {transaction : TransactionRecord} {a : Address} {x : Activity}
    (h : of? transaction a = some x) : x.Concerns a := by
  obtain ⟨rfl, some⟩ := of?_eq_some_iff.1 h
  exact ⟨rfl, some⟩

theorem Sweep.Step.concerns {q : Search} {v v' : Sweep} {e : Sweep.Event} (step : Step q v e v')
    (concerns : ∀ x ∈ v.found, x.Concerns q.address) : ∀ x ∈ v'.found, x.Concerns q.address := by
  cases step with
  | settle =>
      intro x hx
      rcases List.mem_append.1 hx with hx | hx
      · exact concerns x hx
      · exact Activity.concerns_of_of? (Option.mem_toList.1 hx)
  | request | answer | take | read | told | finish | elsewhere => exact concerns

end WalletWatch
