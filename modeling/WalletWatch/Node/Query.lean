import WalletWatch.Chain.Basic

/-!
# Questions to the node

A question names a method and its parameters. It travels as one object with a number that the answer
repeats.
-/

namespace WalletWatch

inductive Query where
  | chainId
  /-- The number of the latest block. -/
  | blockNumber
  | block (hash : String)
  | latestBlock
  | transaction (hash : TxHash)
  | receipt (hash : TxHash)
  /-- A call of a contract at the latest block, which changes nothing. -/
  | call (contract : Address) (data : String)
  deriving DecidableEq

namespace Query

def method : Query → String
  | chainId => "eth_chainId"
  | blockNumber => "eth_blockNumber"
  | block _ => "eth_getBlockByHash"
  | latestBlock => "eth_getBlockByNumber"
  | transaction _ => "eth_getTransactionByHash"
  | receipt _ => "eth_getTransactionReceipt"
  | call _ _ => "eth_call"

/-- The parameters of a question. A block is asked for with its transactions. -/
def params : Query → List Json
  | chainId => []
  | blockNumber => []
  | block hash => [.str hash, .bool true]
  | latestBlock => [.str "latest", .bool true]
  | transaction hash => [hash.toJson]
  | receipt hash => [hash.toJson]
  | call contract data => [.obj [("data", .str data), ("to", contract.toJson)], .str "latest"]

def request (q : Query) (id : Nat) : Json :=
  .obj [("jsonrpc", .str "2.0"), ("method", .str q.method), ("params", .array q.params),
    ("id", .nat id)]

end Query

end WalletWatch
