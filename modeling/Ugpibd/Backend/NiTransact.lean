import Mathlib

/-! The NI adapter's bulk pipe: each exchange is a request and the reply that answers it, and a
reply nobody waited for is still delivered. A step runs from one await to the next, in the holder
of the I/O lock, on the adapter or on the clock. -/
namespace Ugpibd.Backend.Ni

def bulkReplyMarginMs : Nat := 2000
def drainPollMs : Nat := 100
def drainReads : Nat := 16
def maxResync : Nat := 4

def niusbTermId : UInt8 := 0x04
def niusbRegReadId : UInt8 := 0x08
def niusbDataReadOp : UInt8 := 0x0a
def niusbRegisterReadDataStartId : UInt8 := 0x34
def niusbRegisterReadDataEndId : UInt8 := 0x35
def niusbIbrdDataId : UInt8 := 0x36
def niusbIbrdExtendedDataId : UInt8 := 0x37
def niusbIbrdStatusId : UInt8 := 0x38

def termination : List UInt8 := [niusbTermId, 0, 0, 0]

/-- How long to wait for a reply: the adapter's own deadline plus delivery margin. -/
def bulkTimeout (adapterWaitMs : UInt32) : Nat := adapterWaitMs.toNat + bulkReplyMarginMs

/-- Whether the reply can be the answer to the request, by their leading id byte. -/
def replyAnswersRequest (request reply : List UInt8) : Bool :=
  match request.head? with
  | none => true
  | some op => match reply.head? with
    | none => true
    | some id =>
      if op = niusbDataReadOp then
        id == niusbIbrdDataId || id == niusbIbrdExtendedDataId || id == niusbIbrdStatusId
      else if op = niusbRegReadId then
        id == niusbRegisterReadDataStartId || id == niusbRegisterReadDataEndId
      else id == op

/-- Does the read loop of `bulk_in_locked` stop with what it has? -/
def bulkInDone (maxLen : Nat) (data : List UInt8) : Bool :=
  maxLen ≤ data.length || termination.isSuffixOf data

/-- One call of `transact`; every caller leaves room for a reply. -/
structure Exchange where
  number : Nat
  req : List UInt8
  respLen : Nat
  adapterWaitMs : UInt32
  respLen_pos : 0 < respLen
  deriving DecidableEq

def Exchange.timeout (exchange : Exchange) : Nat := bulkTimeout exchange.adapterWaitMs

/-- What one completed transfer brings, and the number of the exchange whose request the adapter
answers with it. The program sees the bytes only. -/
structure Chunk where
  request : Nat
  bytes : List UInt8
  deriving DecidableEq, Repr

def bytesOf (chunks : List Chunk) : List UInt8 := chunks.flatMap (·.bytes)

/-- An answer the adapter still owes, and the instant by which it is there. -/
structure Owed where
  exchange : Exchange
  due : Nat
  deriving DecidableEq

/-- Where the call that holds the I/O lock is: reading stale replies until an instant, with so many
reads left; in its bulk-out; or in a bulk-in, with the transfers it has and the attempts left. -/
inductive Phase
  | idle
  | draining (exchange : Exchange) (waitUntil left : Nat)
  | sending (exchange : Exchange)
  | reading (exchange : Exchange) (data : List Chunk) (left : Nat)
  deriving DecidableEq

/-- The endpoints with their note, the transfers on the way in, and what the adapter owes.
`returned` is not part of the program: every reply a call returned with success. -/
structure BulkIo where
  now : Nat := 0
  abandoned : Option Nat := none
  begun : Nat := 0
  phase : Phase := .idle
  owed : List Owed := []
  pipe : List Chunk := []
  returned : List (Exchange × List Chunk) := []

/-- `tick` lets time pass to an instant and `answer` is the adapter's next answer, as the transfers
it arrives in. A call may `cancel` at every await; a `failure` is a transfer that ends in error or
a reply that does not come, and says whether the adapter has got the request. -/
inductive Action
  | tick (instant : Nat)
  | answer (transfers : List (List UInt8))
  | transact (req : List UInt8) (respLen : {n : Nat // 0 < n}) (adapterWaitMs : UInt32)
  | sent
  | transfer
  | drainTimeout
  | failure (taken : Bool)
  | cancel

namespace BulkIo

/-- Assume the worst until the pair completes, and send the request. -/
def send (s : BulkIo) (exchange : Exchange) : BulkIo :=
  { s with
    abandoned := some (s.now + exchange.timeout)
    phase := .sending exchange
    owed := s.owed ++ [⟨exchange, s.now + exchange.timeout⟩] }

/-- The end of one bulk-in: its reply is returned, or discarded as one to an earlier request. -/
def replyRead (s : BulkIo) (exchange : Exchange) (data : List Chunk) (left : Nat) : BulkIo :=
  if replyAnswersRequest exchange.req (bytesOf data) then
    { s with abandoned := none, phase := .idle, returned := (exchange, data) :: s.returned }
  else if left ≤ 1 then { s with phase := .idle }
  else { s with phase := .reading exchange [] (left - 1) }

/-- The head of the bulk-in loop. -/
def readOn (s : BulkIo) (exchange : Exchange) (data : List Chunk) (left : Nat) : BulkIo :=
  if bulkInDone exchange.respLen (bytesOf data) then s.replyRead exchange data left
  else { s with phase := .reading exchange data left }

def step (s : BulkIo) : Action → Option BulkIo
  | .tick instant =>
    if s.now ≤ instant ∧ ∀ owed ∈ s.owed, instant < owed.due then some { s with now := instant }
    else none
  | .answer transfers => match s.owed with
    | owed :: rest => some { s with
        owed := rest
        pipe := s.pipe ++ transfers.map (Chunk.mk owed.exchange.number) }
    | [] => none
  | .transact req respLen adapterWaitMs => match s.phase with
    | .idle =>
      let exchange : Exchange := ⟨s.begun, req, respLen.1, adapterWaitMs, respLen.2⟩
      let s := { s with begun := s.begun + 1 }
      match s.abandoned with
      | some deadline => some { s with
          -- the note is taken before the drain
          abandoned := none
          phase := .draining exchange (s.now + max (deadline - s.now) drainPollMs) drainReads }
      | none => some (s.send exchange)
    | _ => none
  | .sent => match s.phase with
    | .sending exchange => some (s.readOn exchange [] maxResync)
    | _ => none
  | .transfer => match s.pipe with
    | chunk :: rest =>
      let s := { s with pipe := rest }
      match s.phase with
      | .draining exchange _ left =>
        if chunk.bytes = [] ∨ left ≤ 1 then some (s.send exchange)
        else some { s with phase := .draining exchange (s.now + drainPollMs) (left - 1) }
      | .reading exchange data left =>
        -- an empty packet ends the transfer
        if chunk.bytes = [] then some (s.replyRead exchange data left)
        else some (s.readOn exchange (data ++ [chunk]) left)
      | _ => none
    | [] => none
  | .drainTimeout => match s.phase with
    | .draining exchange waitUntil _ =>
      if s.pipe = [] ∧ waitUntil ≤ s.now then some (s.send exchange) else none
    | _ => none
  | .failure taken => match s.phase with
    | .draining exchange _ _ => some (s.send exchange)
    | .sending exchange => some { s with
        phase := .idle
        owed := if taken then s.owed
          else s.owed.filter (·.exchange.number != exchange.number) }
    | .reading _ _ _ => some { s with phase := .idle }
    | .idle => none
  | .cancel => match s.phase with
    | .idle => none
    | _ => some { s with phase := .idle }

end BulkIo
end Ugpibd.Backend.Ni
