import Ugpibd.Hislip.Replies

/-! One command given to the instrument: written, and its output drained where there is any. A
service request that a poll takes on the way is handed back with the output. -/
namespace Ugpibd.Hislip

/-- Whether a command looks like a query, from where the scan is inside a string literal or not. -/
def queryHintFrom : Option UInt8 → List UInt8 → Bool
  | _, [] => false
  | some quote, b :: rest => queryHintFrom (if b = quote then none else some quote) rest
  | none, b :: rest =>
    if b = 0x22 ∨ b = 0x27 then queryHintFrom (some b) rest
    else if b = 0x3f then true
    else queryHintFrom none rest

def queryHint (cmd : List UInt8) : Bool := queryHintFrom none cmd

/-- What the bus answers while a command is executed. `srqFired` says whether a service request has
come since the execution began, `srqAfter` what the line reads after the output was taken. -/
structure BusAnswers where
  write : Except String Unit := .ok ()
  srqAsserted : Except String Bool := .ok false
  poll : Except String UInt8 := .ok 0
  read : Except String (List UInt8 × Bool) := .ok ([], true)
  srqFired : Bool := false
  srqAfter : Except String Bool := .ok false

/-- What an execution returns: the output, if any was read, and the status byte of a service
request. -/
structure Execution where
  data : Option (List UInt8)
  serviceRequest : Option UInt8
  deriving DecidableEq, Repr

/-- A status byte is a service request if RQS is set. -/
def serviceRequestOf (stb : UInt8) : Option UInt8 := if stb &&& stbRqs ≠ 0 then some stb else none

/-- The poll between the write and the read: the service request it took, and whether to read. -/
def pollBeforeRead (expectResponse : Bool) (bus : BusAnswers) : Option UInt8 × Bool :=
  if !expectResponse then match bus.poll with
    | .ok stb => (serviceRequestOf stb, stb &&& stbMav != 0)
    | .error _ => (none, false)
  else match bus.srqAsserted with
    | .ok true => match bus.poll with
      | .ok stb => (serviceRequestOf stb, true)
      | .error _ => (none, true)
    | _ => (none, true)

/-- A service request that the read itself took back is reported as one for the output. -/
def reconstructed (data : List UInt8) (bus : BusAnswers) : Option UInt8 :=
  if data ≠ [] ∧ bus.srqFired then match bus.srqAfter with
    | .ok false => some (stbRqs ||| stbMav)
    | _ => none
  else none

def execute (expectResponse : Bool) (bus : BusAnswers) : Except String Execution :=
  match bus.write with
  | .error e => .error e
  | .ok () =>
    let (serviceRequest, output) := pollBeforeRead expectResponse bus
    if !output then .ok ⟨none, serviceRequest⟩
    else match bus.read with
      | .error e => .error e
      | .ok (data, eom) =>
        if data = [] ∧ !eom then .error "instrument returned no data (is the query supported?)"
        else .ok ⟨some data, serviceRequest.or (reconstructed data bus)⟩

/-- The service request a poll takes from the instrument in the course of an execution, whatever
becomes of it. -/
def polledByExecute (expectResponse : Bool) (bus : BusAnswers) : Option UInt8 :=
  match bus.write with
  | .error _ => none
  | .ok () => (pollBeforeRead expectResponse bus).1

section
variable {expectResponse : Bool} {bus : BusAnswers} {execution : Execution} {stb : UInt8}

theorem rqs_of_serviceRequestOf {polled : UInt8} (h : serviceRequestOf polled = some stb) :
    stb &&& stbRqs ≠ 0 := by
  unfold serviceRequestOf at h
  split_ifs at h with hrqs
  exact Option.some.inj h ▸ hrqs

theorem rqs_of_pollBeforeRead (h : (pollBeforeRead expectResponse bus).1 = some stb) :
    stb &&& stbRqs ≠ 0 := by
  unfold pollBeforeRead at h
  split_ifs at h
  · split at h
    · exact rqs_of_serviceRequestOf h
    · cases h
  · split at h
    · split at h
      · exact rqs_of_serviceRequestOf h
      · cases h
    · cases h

theorem rqs_of_reconstructed {data : List UInt8} (h : reconstructed data bus = some stb) :
    stb &&& stbRqs ≠ 0 := by
  unfold reconstructed at h
  split_ifs at h
  split at h
  · obtain rfl := Option.some.inj h
    decide
  · cases h

/-- An execution that returns hands back the service request its poll took, and reports none
without RQS. -/
theorem execute_serviceRequest (h : execute expectResponse bus = .ok execution) :
    (∀ stb, polledByExecute expectResponse bus = some stb → execution.serviceRequest = some stb) ∧
    ∀ stb, execution.serviceRequest = some stb → stb &&& stbRqs ≠ 0 := by
  unfold execute at h
  unfold polledByExecute
  split at h
  · cases h
  · have hpoll : ∀ stb, (pollBeforeRead expectResponse bus).1 = some stb → stb &&& stbRqs ≠ 0 :=
      fun stb => rqs_of_pollBeforeRead
    dsimp only at h
    split_ifs at h
    · cases h
      exact ⟨fun stb h => h, hpoll⟩
    · split at h
      · cases h
      · rename_i data _ _
        split_ifs at h
        cases h
        constructor
        · intro stb h
          dsimp only at h ⊢
          rw [h, Option.some_or]
        · intro stb h
          rcases Option.or_eq_some_iff.mp h with h | ⟨-, h⟩
          · exact hpoll stb h
          · exact rqs_of_reconstructed h

end
end Ugpibd.Hislip
