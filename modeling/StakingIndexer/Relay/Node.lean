import StakingIndexer.Relay.Client

/-!
# A relay chain node in memory

The node answers from tables, after the faults that it is told to show. Keys are looked up
in lower case.
-/

namespace StakingIndexer

/-- The tables of a node: headers by block hash, block hashes by decimal height, and stored
values by block hash and key. A block that is not listed has the hash `hashStem` followed by
its height; `sharedStorage` has the values of every block, for keys that the block does not
list. -/
structure RelayNode where
  finalized : Json
  headers : List (String × Json)
  hashes : List (String × Json)
  hashStem : Option String
  storage : List (String × List (String × Json))
  sharedStorage : List (String × Json)
  faults : List Rpc.Fault

namespace RelayNode

/-- The value that the tables hold for a request. -/
def tableValue (n : RelayNode) : Relay.Request → Json
  | .finalizedHead => n.finalized
  | .header hash =>
    match (Rpc.lookup n.headers hash).getD .null with
    | .string number => .object [("number", .string number)]
    | header => header
  | .blockHash number =>
    let height := toString number.toNat
    match Rpc.lookup n.hashes height with
    | some hash => hash
    | none => (n.hashStem.map fun stem => Json.string (stem ++ height)).getD .null
  | .storage key hash =>
    let key := Bytes.toHex key
    let own := (Rpc.lookup n.storage hash).getD []
    ((Rpc.lookup own key).or (Rpc.lookup n.sharedStorage key)).getD .null

/-- Reply to a request. -/
def reply (request : Relay.Request) : StateM RelayNode Rpc.Reply := fun n =>
  let (reply, faults) := Rpc.replyWith n.faults request.method (.value (n.tableValue request))
  (reply, { n with faults })

/-- Replace the named tables by those of another node. -/
def patch (n other : RelayNode) (names : List String) : RelayNode :=
  let pick {α : Type} (name : String) (old new : α) : α := if names.contains name then new else old
  { finalized := pick "finalized" n.finalized other.finalized
    headers := pick "headers" n.headers other.headers
    hashes := pick "hashes" n.hashes other.hashes
    hashStem := pick "hashes" n.hashStem other.hashStem
    storage := pick "storage" n.storage other.storage
    sharedStorage := pick "storage" n.sharedStorage other.sharedStorage
    faults := pick "faults" n.faults other.faults }

end RelayNode
end StakingIndexer
