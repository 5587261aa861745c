/-
# The layered secret store

Secrets are kept in the keyring of the operating system, the primary layer, and in a file with
restricted rights, the fallback, for the times when the keyring cannot be reached.  Each operation
is a sequence of calls to the two layers; a call to the primary layer is given up after a while.
-/
import OzonSuite.Lib.Calls
import OzonSuite.Node.State

namespace OzonSuite

open Lib

/-- Why a store has refused. -/
inductive SecretStoreError
  | backendUnavailable
  | accessDenied
  | invalidName
  | invalidEncoding
deriving DecidableEq

/-- What comes of waiting for a call that is given up after a while. -/
inductive Timed (α : Type)
  | completed (result : Except SecretStoreError α)
  | elapsed

/-- A call to one of the layers. -/
inductive LayerCall
  | primaryPut (name : SecretName) (value : String)
  | primaryGet (name : SecretName)
  | primaryDelete (name : SecretName)
  | fallbackPut (name : SecretName) (value : String)
  | fallbackGet (name : SecretName)
  | fallbackDelete (name : SecretName)
deriving DecidableEq

/-- What a call to a layer answers. -/
@[reducible] def LayerCall.Response : LayerCall → Type
  | .primaryPut _ _ | .primaryDelete _ => Timed Unit
  | .primaryGet _ => Timed (Option String)
  | .fallbackPut _ _ | .fallbackDelete _ => Except SecretStoreError Unit
  | .fallbackGet _ => Except SecretStoreError (Option String)

/-- An operation of the layered store. -/
abbrev LayerCalls := Calls LayerCall LayerCall.Response

namespace LayeredSecretStore

/-- Put a value into the keyring. -/
def primaryPut (name : SecretName) (value : String) : LayerCalls (Timed Unit) :=
  Calls.perform (LayerCall.primaryPut name value)

/-- Look a value up in the keyring. -/
def primaryGet (name : SecretName) : LayerCalls (Timed (Option String)) :=
  Calls.perform (LayerCall.primaryGet name)

/-- Delete a value from the keyring. -/
def primaryDelete (name : SecretName) : LayerCalls (Timed Unit) :=
  Calls.perform (LayerCall.primaryDelete name)

/-- Put a value into the file. -/
def fallbackPut (name : SecretName) (value : String) : LayerCalls (Except SecretStoreError Unit) :=
  Calls.perform (LayerCall.fallbackPut name value)

/-- Look a value up in the file. -/
def fallbackGet (name : SecretName) : LayerCalls (Except SecretStoreError (Option String)) :=
  Calls.perform (LayerCall.fallbackGet name)

/-- Delete a value from the file. -/
def fallbackDelete (name : SecretName) : LayerCalls (Except SecretStoreError Unit) :=
  Calls.perform (LayerCall.fallbackDelete name)

section Binds

variable {α : Type} {name : SecretName} {value : String}

@[simp] lemma primaryPut_bind (f : Timed Unit → LayerCalls α) :
    (primaryPut name value >>= f) = .call (.primaryPut name value) f := rfl

@[simp] lemma primaryGet_bind (f : Timed (Option String) → LayerCalls α) :
    (primaryGet name >>= f) = .call (.primaryGet name) f := rfl

@[simp] lemma primaryDelete_bind (f : Timed Unit → LayerCalls α) :
    (primaryDelete name >>= f) = .call (.primaryDelete name) f := rfl

@[simp] lemma fallbackPut_bind (f : Except SecretStoreError Unit → LayerCalls α) :
    (fallbackPut name value >>= f) = .call (.fallbackPut name value) f := rfl

@[simp] lemma fallbackGet_bind (f : Except SecretStoreError (Option String) → LayerCalls α) :
    (fallbackGet name >>= f) = .call (.fallbackGet name) f := rfl

@[simp] lemma fallbackDelete_bind (f : Except SecretStoreError Unit → LayerCalls α) :
    (fallbackDelete name >>= f) = .call (.fallbackDelete name) f := rfl

end Binds

/-- Put a value, into the file if the keyring does not take it. -/
def put (name : SecretName) (value : String) : LayerCalls (Except SecretStoreError Unit) := do
  match ← primaryPut name value with
  | .completed (.ok ()) =>
    let _ ← fallbackDelete name
    return .ok ()
  | .completed (.error _) | .elapsed => fallbackPut name value

/-- Look a value up, and move it to the keyring if only the file has it. -/
def get (name : SecretName) : LayerCalls (Except SecretStoreError (Option String)) := do
  match ← primaryGet name with
  | .completed (.ok (some value)) =>
    let _ ← fallbackDelete name
    return .ok (some value)
  | .completed (.ok none) =>
    match ← fallbackGet name with
    | .ok (some value) =>
      -- the fallback's value moves into the keyring
      match ← primaryPut name value with
      | .completed (.ok ()) =>
        let _ ← fallbackDelete name
        return .ok (some value)
      | .completed (.error _) | .elapsed => return .ok (some value)
    | .ok none => return .ok none
    | .error e => return .error e
  | .completed (.error _) | .elapsed => fallbackGet name

/-- Delete a value from both layers. -/
def delete (name : SecretName) : LayerCalls (Except SecretStoreError Unit) := do
  let primary := match ← primaryDelete name with
    | .completed result => result
    | .elapsed => .error .backendUnavailable
  -- both layers are asked before the first error is handed on
  let fallback ← fallbackDelete name
  return primary >>= fun _ => fallback

end LayeredSecretStore

/-! ## The layers -/

/-- What the two layers hold. -/
structure Layers where
  primary : SecretName → Option String
  fallback : SecretName → Option String

/-- Layers that hold nothing. -/
def Layers.empty : Layers := ⟨fun _ => none, fun _ => none⟩

/-- What the store holds under a name as long as the keyring answers. -/
def Layers.stored (s : Layers) (name : SecretName) : Option String :=
  (s.primary name).or (s.fallback name)

/-- How the keyring takes a call. -/
inductive Keyring
  | working
  | failing (error : SecretStoreError)
  | hanging
deriving DecidableEq

/-- What is heard of a call to the keyring that would answer `a`. -/
def Keyring.response {α : Type} (a : α) : Keyring → Timed α
  | .working => .completed (.ok a)
  | .failing error => .completed (.error error)
  | .hanging => .elapsed

/-- A call to a layer.  A call that the keyring fails to take has no effect; the fallback always
works. -/
def Layers.handle (keyring : Keyring) : (c : LayerCall) → Layers → c.Response × Layers
  | .primaryPut name value, s =>
    (keyring.response (),
      if keyring = .working then { s with primary := Function.update s.primary name (some value) }
      else s)
  | .primaryGet name, s => (keyring.response (s.primary name), s)
  | .primaryDelete name, s =>
    (keyring.response (),
      if keyring = .working then { s with primary := Function.update s.primary name none } else s)
  | .fallbackPut name value, s =>
    (.ok (), { s with fallback := Function.update s.fallback name (some value) })
  | .fallbackGet name, s => (.ok (s.fallback name), s)
  | .fallbackDelete name, s =>
    (.ok (), { s with fallback := Function.update s.fallback name none })

/-! ## Requests -/

/-- An operation of a secret store. -/
inductive SecretRequest
  | put (name : SecretName) (value : String)
  | get (name : SecretName)
  | delete (name : SecretName)
deriving DecidableEq

/-- The name that the operation is about. -/
def SecretRequest.name : SecretRequest → SecretName
  | .put name _ => name
  | .get name => name
  | .delete name => name

/-- The answer to a request. -/
inductive SecretReply
  | done (result : Except SecretStoreError Unit)
  | value (result : Except SecretStoreError (Option String))

/-- The operation that serves a request. -/
def SecretRequest.serve : SecretRequest → LayerCalls SecretReply
  | .put name value => do return .done (← LayeredSecretStore.put name value)
  | .get name => do return .value (← LayeredSecretStore.get name)
  | .delete name => do return .done (← LayeredSecretStore.delete name)

end OzonSuite
