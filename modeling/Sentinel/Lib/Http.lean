/-
# Responses that arrive in pieces

A body arrives in pieces until it is finished or breaks off. A reader keeps
the pieces while they stay within a limit. Where the body is cut does not
matter: what is read depends on its bytes and on how it ended, so a response
may be taken to arrive in one piece.

Key theorems: `Body.read_eq`, `Body.read_whole`.
-/
import Mathlib.Data.List.Basic

namespace Http

/-- A body as it arrives, with the error it broke off with. -/
inductive Body (ε : Type) where
  | finished
  | broken (error : ε)
  | piece (bytes : List UInt8) (rest : Body ε)
  deriving DecidableEq, Repr

/-- What came of reading a body. -/
inductive Reading (ε : Type) where
  | complete (bytes : List UInt8)
  | oversized
  | interrupted (error : ε)
  deriving DecidableEq, Repr

namespace Body

variable {ε : Type}

def bytes : Body ε → List UInt8
  | finished => []
  | broken _ => []
  | piece bytes rest => bytes ++ rest.bytes

def error : Body ε → Option ε
  | finished => none
  | broken error => some error
  | piece _ rest => rest.error

/-- A body in one piece, that ends in this way. -/
def ofBytes (bytes : List UInt8) : Option ε → Body ε
  | none => piece bytes finished
  | some error => piece bytes (broken error)

/-- The same bytes in one piece. -/
def whole (body : Body ε) : Body ε := ofBytes body.bytes body.error

@[simp] theorem bytes_ofBytes (bytes : List UInt8) (error : Option ε) : (ofBytes bytes error).bytes = bytes := by
  cases error <;> simp [ofBytes, Body.bytes]

@[simp] theorem error_ofBytes (bytes : List UInt8) (error : Option ε) : (ofBytes bytes error).error = error := by
  cases error <;> rfl

/-- A piece is kept while the pieces stay within the limit. -/
def readAfter (limit : ℕ) (kept : List UInt8) : Body ε → Reading ε
  | finished => .complete kept
  | broken error => .interrupted error
  | piece bytes rest =>
    if limit < kept.length + bytes.length then .oversized else readAfter limit (kept ++ bytes) rest

def read (limit : ℕ) (body : Body ε) : Reading ε := readAfter limit [] body

/-- The limit is passed at some piece just when all the bytes pass it. -/
theorem readAfter_eq (limit : ℕ) : ∀ (body : Body ε) (kept : List UInt8), kept.length ≤ limit →
    readAfter limit kept body =
      if limit < kept.length + body.bytes.length then .oversized
      else match body.error with
        | none => .complete (kept ++ body.bytes)
        | some error => .interrupted error
  | finished, kept, h => by
    rw [if_neg (by simp only [bytes, List.length_nil]; omega)]
    simp [readAfter, Body.error, bytes]
  | broken error, kept, h => by
    rw [if_neg (by simp only [bytes, List.length_nil]; omega)]
    rfl
  | piece bytes rest, kept, h => by
    unfold readAfter
    by_cases hpassed : limit < kept.length + bytes.length
    · rw [if_pos hpassed, if_pos (by simp only [Body.bytes, List.length_append]; omega)]
    · have hkept : (kept ++ bytes).length ≤ limit := by
        simp only [List.length_append]
        omega
      rw [if_neg hpassed, readAfter_eq limit rest (kept ++ bytes) hkept]
      simp only [Body.bytes, Body.error, List.length_append, List.append_assoc, Nat.add_assoc]

/-- **What is read depends on the bytes and the ending**, however the body is
cut into pieces. -/
theorem read_eq (limit : ℕ) (body : Body ε) :
    body.read limit =
      if limit < body.bytes.length then .oversized
      else match body.error with
        | none => .complete body.bytes
        | some error => .interrupted error := by
  rw [read, readAfter_eq limit body [] (Nat.zero_le limit)]
  simp

/-- **A body may be taken to arrive in one piece.** -/
theorem read_whole (limit : ℕ) (body : Body ε) : body.whole.read limit = body.read limit := by
  rw [read_eq, read_eq, whole, bytes_ofBytes, error_ofBytes]

end Body

/-- A response: its status line, the length it declares, and its body. -/
structure Response (ε : Type) where
  status : UInt16
  contentLength : Option UInt64
  body : Body ε
  deriving DecidableEq, Repr

namespace Response

variable {ε : Type}

def isSuccess (response : Response ε) : Bool := 200 ≤ response.status && response.status < 300

/-- The same response, its body in one piece. -/
def whole (response : Response ε) : Response ε := { response with body := response.body.whole }

end Response

end Http
