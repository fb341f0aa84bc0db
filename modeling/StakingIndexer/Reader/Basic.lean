import StakingIndexer.Decimal.Shortest
import StakingIndexer.Endpoint.Pool
import StakingIndexer.Store.Basic

/-!
# Reading a chain through its endpoints

A call is tried on one endpoint after another until one answers. Endpoints that cannot be
reached, fail or do not answer in time are put into quarantine and lose their connection;
an answer that cannot be used is final.
-/

namespace StakingIndexer

/-- Why a single call fails: the endpoint was not reached or answered with an error, it
refuses a query for events because it has too many results, or its answer cannot be read. -/
inductive CallError where
  | transport (detail : String)
  | rangeTooLarge (detail : String)
  | decode (detail : String)
deriving DecidableEq

namespace CallError

def message : CallError → String
  | transport detail => "transport error: " ++ detail
  | rangeTooLarge detail => "range too large: " ++ detail
  | decode detail => "decode error: " ++ detail

/-- What nodes say when a query for events has too many results. -/
def rangeMarkers : List String :=
  ["more than 10000 results", "too many results", "query returned more than"]

/-- Whether a list occurs within another. -/
def occursIn (needle : List Char) : List Char → Bool
  | [] => needle.isEmpty
  | c :: cs => needle.isPrefixOf (c :: cs) || occursIn needle cs

/-- Whether a node asks for a narrower query, in letters of any case. Only the ASCII letters
have a lower case among the characters of the markers. -/
def isRangeTooLarge (reply : String) : Bool :=
  let reply := reply.toList.map Char.toLower
  rangeMarkers.any fun marker => occursIn marker.toList reply

end CallError

/-- How a call ends without an answer: with an error, or never. -/
inductive Interruption where
  | failed (error : CallError)
  | hung
deriving DecidableEq

/-- Why a chain cannot be read. It is unavailable if every attempt failed or no endpoint was
left. -/
inductive ReadError where
  | unavailable (chain : Chain) (attempts : Nat) (lastError : String) (timedOut : Bool)
  | rangeTooLarge (chain : Chain) (detail : String)
  | decode (detail : String)
deriving DecidableEq

namespace ReadError

def message : ReadError → String
  | unavailable chain attempts lastError _ =>
    chain.name ++ " unavailable after " ++ toString attempts ++ " attempts: " ++ lastError
  | rangeTooLarge chain detail => chain.name ++ " rejected the block range: " ++ detail
  | decode detail => "decode error: " ++ detail

end ReadError

/-- What a reader meets outside: the time, which may pass during a call, connections and
the call itself. -/
structure Access (σ α : Type) where
  now : σ → Nat
  connect : Endpoint → Action σ Interruption Unit
  call : Endpoint → Action σ Interruption α

/-- The limits of a reader: how long a call may take, in milliseconds, how often it is
tried, by default once more than there are endpoints, and how many blocks one query for
events may cover. -/
structure ReaderConfig where
  callTimeout : Nat
  maxAttempts : Option Nat
  maxRange : UInt64

/-- A reader of one chain, and the endpoints to which it has a connection. -/
structure ChainReader where
  pool : EndpointPool
  connected : List Nat
  config : ReaderConfig

namespace ChainReader

variable {σ α : Type}

def new (pool : EndpointPool) (config : ReaderConfig) : ChainReader := ⟨pool, [], config⟩

def chain (r : ChainReader) : Chain := r.pool.chain

/-- How often a call is tried, at least once. -/
def attemptLimit (r : ChainReader) : Nat :=
  max (r.config.maxAttempts.getD (r.pool.size + 1)) 1

/-- The text of a number of milliseconds in seconds. -/
def secondsText (milliseconds : Nat) : String :=
  Decimal.floatText ((milliseconds / 1000).toFloat
    + (milliseconds % 1000 * 1000000).toFloat / 1000000000.0)

/-- Put an endpoint into quarantine and drop its connection. -/
def fail (r : ChainReader) (now : Nat) (e : Endpoint) : ChainReader :=
  { r with pool := r.pool.report now e.id .failure, connected := r.connected.filter (· ≠ e.id) }

def succeed (r : ChainReader) (now : Nat) (e : Endpoint) : ChainReader :=
  { r with pool := r.pool.report now e.id .success }

/-- Connect to an endpoint unless it has a connection. -/
def connectTo (a : Access σ α) (r : ChainReader) (e : Endpoint) (s : σ) :
    Except CallError ChainReader × σ :=
  if r.connected.contains e.id then (.ok r, s)
  else
    match a.connect e s with
    | (.ok (), s) => (.ok { r with connected := e.id :: r.connected }, s)
    | (.error (.failed error), s) => (.error error, s)
    | (.error .hung, s) => (.error (.transport ("connecting to " ++ e.url ++ " timed out")), s)

/-- What is known about the last attempt. -/
structure LastAttempt where
  error : String
  timedOut : Bool

/-- How an attempt on an endpoint goes on: with an answer, with an error that is final, or
with the next attempt. -/
inductive Attempt (α : Type) where
  | answered (value : α)
  | refused (error : ReadError)
  | again (last : LastAttempt)

/-- Try a call on one endpoint. -/
def attempt (a : Access σ α) (op : String) (r : ChainReader) (e : Endpoint) (s : σ) :
    Attempt α × ChainReader × σ :=
  match connectTo a r e s with
  | (.error error, s) => (.again ⟨error.message, false⟩, r.fail (a.now s) e, s)
  | (.ok r, s) =>
    match a.call e s with
    | (.ok value, s) => (.answered value, r.succeed (a.now s) e, s)
    | (.error (.failed (.rangeTooLarge detail)), s) =>
      (.refused (.rangeTooLarge r.chain detail), r.succeed (a.now s) e, s)
    | (.error (.failed (.decode detail)), s) => (.refused (.decode detail), r, s)
    | (.error (.failed (.transport detail)), s) => (.again ⟨detail, false⟩, r.fail (a.now s) e, s)
    | (.error .hung, s) =>
      (.again ⟨op ++ " timed out after " ++ secondsText r.config.callTimeout ++ "s", true⟩,
        r.fail (a.now s) e, s)

/-- Try a call up to `left` times more, after `made` attempts. -/
def attempts (a : Access σ α) (op : String) :
    (left made : Nat) → LastAttempt → ChainReader → σ → Except ReadError α × ChainReader × σ
  | 0, made, last, r, s => (.error (.unavailable r.chain made last.error last.timedOut), r, s)
  | left + 1, made, last, r, s =>
    match r.pool.acquire (a.now s) with
    | (.error error, pool) =>
      (.error (.unavailable r.chain made error.message last.timedOut), { r with pool }, s)
    | (.ok e, pool) =>
      match attempt a op { r with pool } e s with
      | (.answered value, r, s) => (.ok value, r, s)
      | (.refused error, r, s) => (.error error, r, s)
      | (.again last, r, s) => attempts a op left (made + 1) last r s

/-- Call an endpoint, going on to the next one where a call fails. -/
def withClient (a : Access σ α) (op : String) (r : ChainReader) (s : σ) :
    Except ReadError α × ChainReader × σ :=
  attempts a op r.attemptLimit 0 ⟨"no attempt made", false⟩ r s

end ChainReader

/-- How the nodes of a chain are reached from a state `σ` that holds the reader. -/
structure Link (σ : Type) where
  reader : σ → ChainReader
  setReader : ChainReader → σ → σ
  now : σ → Nat
  connect : Endpoint → Action σ Interruption Unit

namespace Link

variable {σ α : Type}

/-- Read a chain through the reader that the state holds. -/
def run (l : Link σ) (op : String) (call : Endpoint → Action σ Interruption α) :
    Action σ ReadError α := fun s =>
  let (answer, reader, s) := ChainReader.withClient ⟨l.now, l.connect, call⟩ op (l.reader s) s
  (answer, l.setReader reader s)

end Link
end StakingIndexer
