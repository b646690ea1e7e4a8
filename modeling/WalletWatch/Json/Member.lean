import WalletWatch.Json.Basic

/-!
# Taking documents apart

Short ways to a part of a document whose shape is known. Each gives nothing where the part is missing or
of another shape.
-/

namespace WalletWatch

namespace Json

def int? : Json → Option Int
  | number l => if l = "-0" then some 0 else intOfLiteral? l
  | _ => none

def nat? (v : Json) : Option Nat := do
  let n ← v.int?
  if 0 ≤ n then some n.toNat else none

def bool? : Json → Option Bool
  | bool b => some b
  | _ => none

def items? : Json → Option (List Json)
  | array items => some items
  | _ => none

def members? : Json → Option (List (String × Json))
  | object members => members.mapM fun (key, v) => key.map fun key => (key, v)
  | _ => none

def given? (key : String) (v : Json) : Option Json :=
  match v.member? key with
  | some null => none
  | m => m

end Json

end WalletWatch
