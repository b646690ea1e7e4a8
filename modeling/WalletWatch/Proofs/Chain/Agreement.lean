import WalletWatch.Proofs.Chain.Reference
import WalletWatch.Proofs.Token.Concurrency

/-!
# Scans and queries agree

A scan takes the block and then the receipts, a query the transaction, its receipt and then the block of the
receipt. A node that `Indexes` a block gives both the same data. The symbols come from a cache that depends
on all earlier questions, but every session that is `Reached` has a genuine cache, and genuine caches show
the same symbols.
-/

namespace WalletWatch

/-- The node has the block under `hash`, its transactions under their own hashes as mined ones, and their
receipts, if any, with the hash of this block. -/
structure Node.Indexes (node : Node) (hash : String) (block : Block) : Prop where
  found : node.block hash = .ok block
  transactions : ∀ tx ∈ block.transactions, ∃ n,
    node.transaction tx.hash = .ok (some { tx with blockNumber := some n })
  receipts : ∀ tx ∈ block.transactions, ∀ receipt, node.receipt tx.hash = .ok receipt →
    receipt.blockHash = hash ∧ receipt.blockNumber = block.number

namespace Session

/-- The sessions that scans, queries and lookups lead to. Lookups may run side by side, and some may
never end. -/
inductive Reached (sc : Scanner) (node : Node) : Session → Prop
  | start : Reached sc node .start
  | lookups {s : Session} {tokens : List Address} {h : List Token.Lookups.Moment}
      {u : Token.Lookups} : Reached sc node s →
      Token.Lookups.Runs (.start sc.directory s.cache tokens) h u →
      (∀ m ∈ h, Token.Lookups.AnsweredBy node.answerOf m) → Reached sc node { s with cache := u.cache }
  | scan {s : Session} (hash : String) (a : Address) : Reached sc node s →
      Reached sc node (sc.scan node hash a s).2
  | details {s : Session} (hash : TxHash) : Reached sc node s →
      Reached sc node (sc.details node hash s).2
  | transfersFor {s : Session} (hash : TxHash) (a : Address) : Reached sc node s →
      Reached sc node (sc.transfersFor node hash a s).2

theorem Reached.genuine {sc : Scanner} {node : Node} {s : Session} (reached : Reached sc node s) :
    s.cache.Genuine sc.directory node.answerOf := by
  induction reached with
  | start => exact Token.Cache.genuine_empty
  | @lookups s tokens h u _ run answered ih =>
      exact ((Token.Lookups.sound_start ih tokens).runs run answered).genuine
  | scan hash a _ ih => exact Scanner.genuine_scan hash a ih
  | details hash _ ih => exact Scanner.genuine_details hash ih
  | transfersFor hash a _ ih => exact Scanner.genuine_details hash ih

theorem Reached.shown_eq {sc : Scanner} {node : Node} {s s' : Session} (reached : Reached sc node s)
    (reached' : Reached sc node s') :
    s.shown sc.directory node = s'.shown sc.directory node :=
  funext fun token => (reached.genuine.shown_eq token).trans (reached'.genuine.shown_eq token).symm

end Session

namespace Scanner

theorem details_of_scan {sc : Scanner} {node : Node} {hash : String} {block : Block} {a : Address}
    {s s' : Session} {found : List Activity} {x : Activity} (indexed : node.Indexes hash block)
    (reached : s.Reached sc node) (scanned : (sc.scan node hash a s).1 = .ok found) (hx : x ∈ found)
    (reached' : s'.Reached sc node) :
    (sc.details node x.transaction.hash s').1 = .ok x.transaction ∧
      (sc.transfersFor node x.transaction.hash a s').1 = .ok x.transfers := by
  obtain ⟨block', time, hb, ht, rfl⟩ := exists_of_scan_eq_ok scanned
  obtain rfl : block = block' := Except.ok.inj (indexed.found.symm.trans hb)
  obtain ⟨tx, mem, receipt, hr, record, own⟩ := exists_of_mem_report hx
  obtain ⟨n, htx⟩ := indexed.transactions tx mem
  obtain ⟨place, number⟩ := indexed.receipts tx mem receipt hr
  have hash : x.transaction.hash = tx.hash := by
    rw [record]
    rfl
  have found : (sc.details node x.transaction.hash s').1 = .ok x.transaction := by
    rw [hash, details_eq sc s' htx rfl hr (place ▸ hb) ht, number, record, reached.shown_eq reached']
    rfl
  refine ⟨found, ?_⟩
  rw [own]
  exact congrArg (Except.map fun t => Transfer.narrow t.transfers a) found

end Scanner

end WalletWatch
