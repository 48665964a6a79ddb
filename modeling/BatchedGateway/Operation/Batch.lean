/- Lists cut into batches of a fixed size. -/
import BatchedGateway.Operation.Basic

namespace BatchedGateway

structure Batch (α : Type) where
  index : Nat
  operations : List α
  deriving DecidableEq, Repr

inductive BatchError
  | zeroSize
  deriving DecidableEq, Repr

def BatchError.message : BatchError → String
  | .zeroSize => "max batch size must be at least 1"

namespace Batch

variable {α : Type}

/-- Puts items into the open batch, which is closed once it holds `size` of them. -/
def fill (size index : Nat) (opened : List α) : List α → List (Batch α)
  | [] => if opened.isEmpty then [] else [⟨index, opened⟩]
  | item :: rest =>
      if size ≤ opened.length + 1 then
        ⟨index, opened ++ [item]⟩ :: fill size (index + 1) [] rest
      else fill size index (opened ++ [item]) rest

def toJson (item : α → Json) (b : Batch α) : Json := .obj [
  ("index", .ofNat b.index), ("operations", .arr (b.operations.map item))]

def decoder (item : Json.Decoder α) : Json.Decoder (Batch α) := fun w => do
  match (← Json.fields ["index", "operations"] w) with
  | [index, operations] =>
      .ok {
        index := ← index.required .nat64
        operations := ← operations.required (.list item) }
  | _ => .error .wrongShape

end Batch

/-- Batches in order, numbered from zero, all of them full but the last. -/
def partition {α : Type} (items : List α) (size : Nat) : Except BatchError (List (Batch α)) :=
  if size = 0 then .error .zeroSize else .ok (Batch.fill size 0 [] items)

end BatchedGateway
