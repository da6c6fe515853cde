import Ugpibd.Vxi11.Messages

/-! The portmapper's messages. A dump is a chain: each entry is announced by a word that says one
more follows. -/
namespace Ugpibd.Vxi11.Portmap
open Library Xdr Messages

/-- One (program, version, protocol) to port entry. -/
structure Mapping where
  prog : UInt32
  vers : UInt32
  prot : UInt32
  port : UInt32
  deriving DecidableEq, Repr

namespace Mapping

def encode (m : Mapping) : List UInt8 :=
  [putU32 m.prog, putU32 m.vers, putU32 m.prot, putU32 m.port].flatten

def decode : Cursor Mapping := do
  let prog ← Cursor.u32
  let vers ← Cursor.u32
  let prot ← Cursor.u32
  let port ← Cursor.u32
  return { prog, vers, prot, port }

theorem decode_reads (m : Mapping) : Reads .truncated decode m.encode m := by
  refine (Cursor.u32_reads _).bind ?_
  refine (Cursor.u32_reads _).bind ?_
  refine (Cursor.u32_reads _).bind ?_
  refine (Cursor.u32_reads _).bind ?_
  exact reads_pure _ m

theorem decode_consumes : Consumes decode 16 := by
  change Consumes decode (4 + (4 + (4 + (4 + 0))))
  refine Cursor.u32_consumes.bind fun _ => Cursor.u32_consumes.bind fun _ => ?_
  exact Cursor.u32_consumes.bind fun _ => Cursor.u32_consumes.bind fun _ => consumes_pure _

end Mapping

def encodeGetportReply (port : UInt32) : List UInt8 := putU32 port

def encodeDumpReply (mappings : List Mapping) : List UInt8 :=
  (mappings.flatMap fun m => putBool true ++ m.encode) ++ putBool false

/-- The loop over the chain, with the mappings it has. -/
def readMappings (mappings : List Mapping) (data : List UInt8) :
    Except XdrError (List Mapping × List UInt8) :=
  match _hbool : Cursor.bool.run data with
  | .error e => .error e
  | .ok (false, rest) => .ok (mappings, rest)
  | .ok (true, rest) => match _hmapping : Mapping.decode.run rest with
    | .error e => .error e
    | .ok (m, rest) => readMappings (mappings ++ [m]) rest
termination_by data.length
decreasing_by
  have := Cursor.bool_consumes _ _ _ _hbool
  have := Mapping.decode_consumes _ _ _ _hmapping
  omega

def mappingChain (mappings : List Mapping) : Cursor (List Mapping) := fun data =>
  readMappings mappings data

def decodeDumpReply : List UInt8 → Except XdrError (List Mapping) :=
  Cursor.decode (mappingChain [])

/-- One turn of the loop. -/
theorem mappingChain_eq (mappings : List Mapping) : mappingChain mappings = do
    if ← Cursor.bool then
      let m ← Mapping.decode
      mappingChain (mappings ++ [m])
    else return mappings := by
  funext data
  change readMappings mappings data = StateT.run _ data
  rw [readMappings]
  split
  · rename_i e hbool
    rw [run_bind_error hbool]
  · rename_i rest hbool
    rw [run_bind_ok hbool]
    rfl
  · rename_i rest hbool
    rw [run_bind_ok hbool, if_pos rfl]
    split
    · rename_i e hmapping
      rw [run_bind_error hmapping]
    · rename_i m rest' hmapping
      rw [run_bind_ok hmapping]
      rfl

/-- The chain is read back behind whatever was read before it. -/
theorem mappingChain_reads (mappings read : List Mapping) :
    Reads .truncated (mappingChain read) (encodeDumpReply mappings) (read ++ mappings) := by
  induction mappings generalizing read with
  | nil =>
    rw [mappingChain_eq, encodeDumpReply, List.flatMap_nil, List.nil_append, List.append_nil,
      ← List.append_nil (putBool false)]
    refine (Cursor.bool_reads false).bind ?_
    exact reads_pure _ read
  | cons m mappings ih =>
    have hread := ih (read ++ [m])
    rw [List.append_assoc, List.singleton_append] at hread
    rw [mappingChain_eq, encodeDumpReply, List.flatMap_cons, List.append_assoc, List.append_assoc]
    refine (Cursor.bool_reads true).bind ?_
    exact m.decode_reads.bind hread

theorem mapping_faithful : Faithful Mapping.encode (Cursor.decode Mapping.decode) fun _ => True :=
  faithful_of_reads fun m _ => m.decode_reads

theorem getportReply_faithful :
    Faithful encodeGetportReply (Cursor.decode Cursor.u32) fun _ => True :=
  faithful_of_reads fun port _ => Cursor.u32_reads port

theorem dumpReply_faithful : Faithful encodeDumpReply decodeDumpReply fun _ => True :=
  faithful_of_reads fun mappings _ => mappingChain_reads mappings []

end Ugpibd.Vxi11.Portmap
