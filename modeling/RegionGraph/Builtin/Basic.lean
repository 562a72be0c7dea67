import RegionGraph.Builtin.Accumulator
import RegionGraph.Builtin.CounterSource
import RegionGraph.Builtin.Incrementer
import RegionGraph.Builtin.Scaler
import RegionGraph.Registry

/-!
# The built-in region types

Four small deterministic types under one kind of state, each registered under
its own name.
-/

namespace RegionGraph

/-- The state of an instance of a built-in type. -/
inductive Builtin where
  | counterSource (state : CounterSource)
  | incrementer (state : Incrementer)
  | accumulator (state : Accumulator)
  | scaler (state : Scaler)
deriving DecidableEq

/-- An outcome with its state inside a wider kind of state. -/
def Outcome.map {κ μ : Type} (outcome : Outcome κ) (embed : κ → μ) : Outcome μ :=
  ⟨embed outcome.state, outcome.exchange, outcome.result⟩

namespace Builtin

instance : Implementation Builtin where
  start
    | counterSource s => let (s, result) := Implementation.start s; (counterSource s, result)
    | incrementer s => let (s, result) := Implementation.start s; (incrementer s, result)
    | accumulator s => let (s, result) := Implementation.start s; (accumulator s, result)
    | scaler s => let (s, result) := Implementation.start s; (scaler s, result)
  compute
    | counterSource s, io => (Implementation.compute s io).map counterSource
    | incrementer s, io => (Implementation.compute s io).map incrementer
    | accumulator s, io => (Implementation.compute s io).map accumulator
    | scaler s, io => (Implementation.compute s io).map scaler
  save
    | counterSource s => Implementation.save s
    | incrementer s => Implementation.save s
    | accumulator s => Implementation.save s
    | scaler s => Implementation.save s
  parameter?
    | counterSource s, name => Implementation.parameter? s name
    | incrementer s, name => Implementation.parameter? s name
    | accumulator s, name => Implementation.parameter? s name
    | scaler s, name => Implementation.parameter? s name
  setParameter
    | counterSource s, name, value =>
      let (s, result) := Implementation.setParameter s name value; (counterSource s, result)
    | incrementer s, name, value =>
      let (s, result) := Implementation.setParameter s name value; (incrementer s, result)
    | accumulator s, name, value =>
      let (s, result) := Implementation.setParameter s name value; (accumulator s, result)
    | scaler s, name, value =>
      let (s, result) := Implementation.setParameter s name value; (scaler s, result)
  outputCount?
    | counterSource s, output, widths => Implementation.outputCount? s output widths
    | incrementer s, output, widths => Implementation.outputCount? s output widths
    | accumulator s, output, widths => Implementation.outputCount? s output widths
    | scaler s, output, widths => Implementation.outputCount? s output widths

/-- The built-in types and their names. -/
def types : List (String × RegionType Builtin) :=
  [("CounterSource", CounterSource.type.map counterSource),
    ("Incrementer", Incrementer.type.map incrementer),
    ("Accumulator", Accumulator.type.map accumulator),
    ("Scaler", Scaler.type.map scaler)]

end Builtin

end RegionGraph
