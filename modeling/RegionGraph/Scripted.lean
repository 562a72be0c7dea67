import RegionGraph.Builtin.Basic

/-!
# Region types made of data

A script describes a region type completely: its endpoints and parameters, how its
instances save themselves and answer questions, and a list of instructions that
are carried out in every cycle. The first instruction that fails ends the cycle,
with everything before it done.
-/

namespace RegionGraph

/-- How the length of an output is found. -/
inductive CountRule where
  | const (count : Nat)
  /-- The value of a parameter. -/
  | param (name : String)
  /-- The lengths of inputs together. -/
  | sum (inputs : List String)
deriving DecidableEq

/-- One instruction of a cycle. -/
inductive Instruction where
  /-- Fail from a cycle on. -/
  | fail (since : UInt64) (text : String)
  /-- Fail unless an input has links. -/
  | require (input : String)
  /-- Copy an input to an output. -/
  | copy (input output : String) (type : ElementType)
  /-- Copy with a constant added. -/
  | add (input output : String) (amount : Int32)
  /-- Write given elements at the beginning of an output. -/
  | write (output : String) (type : ElementType) (elements : List type.Carrier)
  /-- Replace the elements of an input by their running sums. -/
  | scratch (input : String)
  /-- Read an input. -/
  | read (input : String) (type : ElementType)
  /-- Look an output up. -/
  | look (output : String)
  /-- Write starts, computations and the cycle. -/
  | state (output : String)
  /-- Fill an output with a parameter. -/
  | param (name output : String)
deriving DecidableEq

/-- The description of a region type. -/
structure Script where
  spec : Spec
  /-- With a text, no instance can be made. -/
  createError : Option String
  /-- How many attempts to start an instance fail. -/
  startFailures : UInt64
  /-- Whether starts and computations are saved. -/
  stateful : Bool
  /-- With a text, no instance can be saved. -/
  saveError : Option String
  /-- Parameters that instances answer. -/
  tracks : List String
  /-- Parameters that instances take. -/
  accepts : List String
  counts : List (String × CountRule)
  /-- Whether instances do nothing but compute. -/
  minimal : Bool
  program : List Instruction
deriving DecidableEq

/-- An instance of a scripted type. -/
structure Scripted where
  script : Script
  params : Params
  starts : UInt64
  computes : UInt64
deriving DecidableEq

namespace Scripted

/-- Sums of the elements up to each. -/
def runningSums (sum : Int32) : List Int32 → List Int32
  | [] => []
  | element :: rest => (sum + element) :: runningSums (sum + element) rest

/-- The first elements of a list replaced by others. -/
def overwriteFront {α : Type} (elements former : List α) : List α :=
  elements.take former.length ++ former.drop elements.length

/-- Carry one instruction out. -/
def perform (instance_ : Scripted) (io : Exchange) : Instruction → Except GraphError Exchange
  | .fail since text =>
    if since ≤ io.iteration then throw (.implementation (io.region ++ " failed: " ++ text))
    else return io
  | .require input =>
    if io.isConnected input then return io
    else throw (.implementation (input ++ " is not connected"))
  | .copy input output type => io.mapInto type type input output id
  | .add input output amount =>
    io.mapInto .int32 .int32 input output (fun element : Int32 => element + amount)
  | .write output type elements => io.modifyOutput type output (overwriteFront elements)
  | .scratch input => io.modifyInput .int32 input (runningSums 0)
  | .read input type => do
    let _ ← io.readInput type input
    return io
  | .look output => do
    let _ ← io.output output
    return io
  | .state output =>
    io.modifyOutput .int32 output (overwriteFront
      [instance_.starts.toUInt32.toInt32, instance_.computes.toUInt32.toInt32,
        io.iteration.toUInt32.toInt32])
  | .param name output => do
    let value ← liftData (instance_.params.element .int32 name)
    io.modifyOutput .int32 output (fun former => former.map (fun _ => value))

/-- Carry instructions out until one fails. -/
def performAll (instance_ : Scripted) (io : Exchange) :
    List Instruction → Exchange × Except GraphError Unit
  | [] => (io, .ok ())
  | instruction :: rest =>
    match instance_.perform io instruction with
    | .ok io => instance_.performAll io rest
    | .error fault => (io, .error fault)

/-- The length that a rule gives. -/
def count? (params : Params) (widths : NameMap Nat) : CountRule → Option Nat
  | .const count => some count
  | .param name => (params.element .uint32 name).toOption.map UInt32.toNat
  | .sum inputs => (inputs.mapM widths.get?).map fun counts => counts.foldr (· + ·) 0

/-- Starts and computations as they are saved. -/
def stateCodec : Codec (UInt64 × UInt64) := Codec.pair Codec.uint64 Codec.uint64

instance : Implementation Scripted where
  start self :=
    if self.script.minimal then (self, .ok ())
    else
      let started := { self with starts := self.starts + 1 }
      if started.starts ≤ self.script.startFailures then
        (started, .error (.implementation
          ("initialize attempt " ++ Nat.repr started.starts.toNat)))
      else (started, .ok ())
  compute self io :=
    let self := { self with computes := self.computes + 1 }
    let (io, result) := self.performAll io self.script.program
    ⟨self, io, result⟩
  save self :=
    if self.script.minimal then .ok []
    else
      match self.script.saveError with
      | some text => .error (.implementation text)
      | none =>
        .ok (if self.script.stateful then stateCodec.encode (self.starts, self.computes) else [])
  parameter? self name :=
    if ¬self.script.minimal ∧ name ∈ self.script.tracks then self.params.get? name else none
  setParameter self name value :=
    if self.script.minimal then (self, .error (.invalidParameter name .unsupported))
    else if name ∈ self.script.accepts then
      ({ self with params := self.params.insert name value }, .ok ())
    else (self, .error (.invalidParameter name .refused))
  outputCount? self output widths :=
    if self.script.minimal then none
    else (self.script.counts.lookup output).bind (count? self.params widths)

end Scripted

namespace Script

/-- The region type that a script describes. -/
def type (script : Script) : RegionType Scripted where
  spec := script.spec
  create params region name :=
    match script.createError with
    | some text => .error (.implementation (region ++ " (" ++ name ++ "): " ++ text))
    | none => .ok ⟨script, params, 0, 0⟩
  restore record _ _ := do
    let (starts, computes) ←
      if script.stateful then decodeState Scripted.stateCodec record.state else pure (0, 0)
    return ⟨script, record.params, starts, computes⟩

end Script

/-- The state of an instance of any type that the program knows. -/
inductive Worker where
  | builtin (state : Builtin)
  | scripted (state : Scripted)
deriving DecidableEq

namespace Worker

instance : Implementation Worker where
  start
    | builtin s => let (s, result) := Implementation.start s; (builtin s, result)
    | scripted s => let (s, result) := Implementation.start s; (scripted s, result)
  compute
    | builtin s, io => (Implementation.compute s io).map builtin
    | scripted s, io => (Implementation.compute s io).map scripted
  save
    | builtin s => Implementation.save s
    | scripted s => Implementation.save s
  parameter?
    | builtin s, name => Implementation.parameter? s name
    | scripted s, name => Implementation.parameter? s name
  setParameter
    | builtin s, name, value =>
      let (s, result) := Implementation.setParameter s name value; (builtin s, result)
    | scripted s, name, value =>
      let (s, result) := Implementation.setParameter s name value; (scripted s, result)
  outputCount?
    | builtin s, output, widths => Implementation.outputCount? s output widths
    | scripted s, output, widths => Implementation.outputCount? s output widths

/-- The built-in types. -/
def builtins : List (String × RegionType Worker) :=
  Builtin.types.map (fun (name, type) => (name, type.map builtin))

end Worker

end RegionGraph
