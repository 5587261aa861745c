/-
# What the services share

The errors that a service answers with, the JSON values that the programs of the suite exchange, and
the comparison of tokens.  The cloud, the local node and the desktop shell have each their own
function that compares tokens without telling by its time where they part.  Two of them fold the
difference of the lengths into what they collect, the third looks at the lengths first; all of them
decide equality.
-/
import OzonSuite.Lib.MachineWords

namespace OzonSuite

open Lib

/-! ## Errors of a service -/

/-- The status of an HTTP answer that reports an error. -/
inductive StatusCode
  | badRequest
  | unauthorized
  | forbidden
  | notFound
  | conflict
  | badGateway
  | serviceUnavailable
  | internalServerError
deriving DecidableEq

/-- An error, as the caller is told of it. -/
structure ApiError where
  status : StatusCode
  message : String
deriving DecidableEq

namespace ApiError

/-- The request cannot be read, or asks for what is not allowed. -/
def badRequest (message : String) : ApiError := ⟨.badRequest, message⟩

/-- It is not known who asks. -/
def unauthorized (message : String) : ApiError := ⟨.unauthorized, message⟩

/-- Who asks is not allowed to. -/
def forbidden (message : String) : ApiError := ⟨.forbidden, message⟩

/-- What is asked for is not there. -/
def notFound (message : String) : ApiError := ⟨.notFound, message⟩

/-- Something else is there already. -/
def conflict (message : String) : ApiError := ⟨.conflict, message⟩

/-- Another service has answered wrongly, or not at all. -/
def badGateway (message : String) : ApiError := ⟨.badGateway, message⟩

/-- The service is not set up for the request. -/
def serviceUnavailable (message : String) : ApiError := ⟨.serviceUnavailable, message⟩

/-- The service itself has failed. -/
def internal (message : String) : ApiError := ⟨.internalServerError, message⟩

end ApiError

/-! ## Values of an answer -/

/-- A JSON value; a number by its text. -/
inductive Json
  | null
  | bool (value : Bool)
  | number (text : String)
  | string (value : String)
  | array (values : List Json)
  | object (fields : List (String × Json))

namespace Json

/-- The field of an object. -/
def get? (key : String) : Json → Option Json
  | object fields => fields.lookup key
  | _ => none

/-- The field of an object, or `null`. -/
def index (value : Json) (key : String) : Json := (value.get? key).getD null

/-- The values of an array. -/
def asArray : Json → Option (List Json)
  | array values => some values
  | _ => none

/-- A number of 64 bits without a sign. -/
def asU64 : Json → Option ℕ
  | number text => text.toNat?.filter (· < 2 ^ 64)
  | _ => none

end Json

/-! ## Three comparisons of tokens -/

/-- `constant_time_eq` of the cloud. -/
def Cloud.constantTimeEq (p : PointerWidth) (left right : String) : Bool :=
  foldedEq p (utf8Bytes left) (utf8Bytes right)

/-- `constant_time_eq` of the local node. -/
def Node.constantTimeEq (p : PointerWidth) (left right : String) : Bool :=
  foldedEq p (utf8Bytes left) (utf8Bytes right)

/-- `constant_time_eq` of the desktop shell. -/
def constantTimeEq (left right : Bytes) : Bool :=
  if left.length ≠ right.length then false
  else (left.zip right).foldl (fun diff ab => diff ||| (ab.1 ^^^ ab.2)) 0 == 0

lemma constantTimeEq_iff {left right : Bytes} :
    constantTimeEq left right = true ↔ left = right := by
  have heq : constantTimeEq left right = true ↔
      left.length = right.length ∧ ∀ ab ∈ left.zip right, ab.1 = ab.2 := by
    unfold constantTimeEq
    split
    · next h => simp [h]
    · next h => simp [not_not.mp h, foldl_or_eq_zero]
  rw [heq]
  constructor
  · rintro ⟨hlen, hall⟩
    refine List.ext_getElem hlen fun i hi hi' => ?_
    have hmem := List.getElem_mem (l := left.zip right) (n := i) (by simp; omega)
    rw [List.getElem_zip] at hmem
    exact hall _ hmem
  · rintro rfl
    refine ⟨rfl, fun ab hab => ?_⟩
    obtain ⟨i, hi, rfl⟩ := List.mem_iff_getElem.mp hab
    rw [List.getElem_zip]

/-- **The three comparisons agree.**  On every machine, each of them is true of two texts just if
the texts are equal. -/
theorem constant_time_eq_exact (p : PointerWidth) (left right : Str p) :
    (Cloud.constantTimeEq p left.text right.text = true ↔ left.text = right.text) ∧
    (Node.constantTimeEq p left.text right.text = true ↔ left.text = right.text) ∧
    (constantTimeEq (utf8Bytes left.text) (utf8Bytes right.text) = true ↔
      left.text = right.text) := by
  refine ⟨foldedEq_str_iff left right, foldedEq_str_iff left right, ?_⟩
  rw [constantTimeEq_iff, utf8Bytes_injective.eq_iff]

end OzonSuite
