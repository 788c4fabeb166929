import DsigRegistry.Transform.Basic

/-!
# Chains of transforms

A chain is executed in two passes: first the transforms of all steps are constructed, so that a
chain with an unknown step fails without doing any work, and then they run in order, each on
what the one before it left.
-/

namespace DsigRegistry

/-- One step of a chain. -/
structure Step where
  uri : String
  params : Params := .empty

/-- The steps of one reference, in order. -/
abbrev Chain := List Step

/-- The failure of a chain at a step; the step behind the last one is the conversion to octets. -/
structure PipelineError where
  stepIndex : Nat
  uri : String
  cause : Error
deriving DecidableEq

/-- The failure in words. -/
def PipelineError.message (e : PipelineError) : String :=
  "transform step " ++ toString e.stepIndex ++ " (" ++ e.uri ++ ") failed: " ++ e.cause.message

/-- The registries that chains are executed against. -/
structure Pipeline where
  transforms : Registry Transform
  canonicalizers : Registry Canonicalizer

namespace Pipeline

/-- The steps from number `index` on with their transforms, constructed in order. -/
def construct (p : Pipeline) (index : Nat) :
    Chain → Traced (Except PipelineError (List (Step × Transform)))
  | [] => return .ok []
  | step :: steps => do
    match ← p.transforms.create step.uri with
    | .error cause => return .error ⟨index, step.uri, cause⟩
    | .ok transform =>
      match ← p.construct (index + 1) steps with
      | .error e => return .error e
      | .ok constructed => return .ok ((step, transform) :: constructed)

/-- Run the steps from number `index` on over the data. -/
def run (p : Pipeline) (index : Nat) :
    List (Step × Transform) → TransformData → Traced (Except PipelineError TransformData)
  | [], data => return .ok data
  | (step, transform) :: rest, data => do
    Traced.record (.executed step.uri)
    match ← transform.execute data step.params p.canonicalizers with
    | .error cause =>
      Traced.report (.transformFailed index step.uri cause)
      return .error ⟨index, step.uri, cause⟩
    | .ok data => p.run (index + 1) rest data

/-- Execute a chain over the data. -/
def execute (p : Pipeline) (chain : Chain) (data : TransformData) :
    Traced (Except PipelineError TransformData) := do
  match ← p.construct 0 chain with
  | .error e => return .error e
  | .ok steps => p.run 0 steps data

/-- Execute a chain and convert what it leaves to octets, ready for digesting. -/
def executeToOctets (p : Pipeline) (chain : Chain) (data : TransformData) :
    Traced (Except PipelineError Octets) := do
  match ← p.execute chain data with
  | .error e => return .error e
  | .ok data =>
    match ← data.toOctets p.canonicalizers with
    | .error cause => return .error ⟨chain.length, Algorithm.c14n, cause⟩
    | .ok octets => return .ok octets

end Pipeline

end DsigRegistry
