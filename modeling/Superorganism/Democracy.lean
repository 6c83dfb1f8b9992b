/-
The replicated models of `democracy/models`: issues, solutions and the votes on them.
Campaigns and pledges are in `Superorganism.Funding`.

What the models take from the Python library beyond the language is a `Runtime`:
`hashlib.sha256`, the parser of `uuid.UUID`, and the two ways `datetime` reads a text. A
`CreatedAt` is a datetime with the text `isoformat` gives it, and `Runtime.IsDatetime` says
that the text is read back as the datetime it was written from.
-/
import Superorganism.Funding

set_option autoImplicit false

open Superorganism.Bytes Superorganism.Py Superorganism.Funding

namespace Superorganism.Democracy

/-! ## The library -/

structure Runtime where
  sha256 : List UInt8 → List UInt8
  /-- `UUID(text)`; `none` stands for its `ValueError`. -/
  uuid : String → Option UUID
  /-- `datetime.fromisoformat(text)`; `none` stands for its `ValueError`. -/
  fromisoformat : String → Option CreatedAt
  /-- `datetime.fromtimestamp(float(text), timezone.utc)`; `none` stands for any exception. -/
  fromtimestamp : String → Option CreatedAt
  /-- `str` and `UUID` are inverse. -/
  uuid_str : ∀ u : UUID, uuid u.str = some u

variable (rt : Runtime)

/-- A datetime: `fromisoformat` reads what `isoformat` writes, and the text has no `Z`. -/
def Runtime.IsDatetime (created_at : CreatedAt) : Prop :=
  rt.fromisoformat created_at.stored = some created_at ∧ 'Z' ∉ created_at.stored.toList ∧
    ∀ stored, created_at ≠ .text stored

/-- `UUID(text)`. -/
def Runtime.parse_uuid (text : String) : Except PyError UUID :=
  match rt.uuid text with
  | none => throw (.ValueError "badly formed hexadecimal UUID string")
  | some u => pure u

/-- `created_at.isoformat()`. -/
def isoformat : CreatedAt → Except PyError String
  | .naive _ stored => pure stored
  | .aware _ stored => pure stored
  | .text _ => throw (.AttributeError "'str' object has no attribute 'isoformat'")

/-- `parse_datetime` of a text. -/
def Runtime.parse_datetime (value : String) : Except PyError CreatedAt :=
  match rt.fromisoformat value with
  | some created_at => pure created_at
  | none =>
    match rt.fromtimestamp value with
    | some created_at => pure created_at
    | none => throw (.ValueError ("Cannot parse string '" ++ value ++ "' as datetime"))

variable {rt}

@[simp] theorem Runtime.parse_uuid_str (u : UUID) : rt.parse_uuid u.str = .ok u := by
  rw [Runtime.parse_uuid, rt.uuid_str]
  rfl

theorem Runtime.IsDatetime.isoformat_eq {created_at : CreatedAt} (h : rt.IsDatetime created_at) :
    isoformat created_at = .ok created_at.stored := by
  cases created_at with
  | naive instant stored => rfl
  | aware instant stored => rfl
  | text stored => exact absurd rfl (h.2.2 stored)

theorem Runtime.IsDatetime.parse_eq {created_at : CreatedAt} (h : rt.IsDatetime created_at) :
    rt.parse_datetime created_at.stored = .ok created_at := by
  rw [Runtime.parse_datetime, h.1]
  rfl

/-! ## The models -/

structure Issue where
  title : String
  creator_id : UUID
  description : String
  id : UUID
  created_at : CreatedAt
deriving DecidableEq, Repr

structure IssueVote where
  voter_id : UUID
  issue_id : UUID
  id : UUID
  created_at : CreatedAt
deriving DecidableEq, Repr

structure Solution where
  title : String
  description : String
  creator_id : UUID
  issue_id : UUID
  id : UUID
  created_at : CreatedAt
deriving DecidableEq, Repr

structure SolutionVote where
  voter_id : UUID
  solution_id : UUID
  id : UUID
  created_at : CreatedAt
deriving DecidableEq, Repr

/-! ## The hash of a solution -/

/-- Four digits after `\u`. -/
def jsonUnicode (n : ℕ) : List Char := '\\' :: 'u' :: (hexChars (beOfNat 2 n))

/-- One character of a JSON string, as `json.dumps` writes it: everything outside printable
ASCII is escaped, and what does not fit in four digits as a pair of surrogates. -/
def jsonChar (c : Char) : List Char :=
  let n := c.toNat
  if n = 34 then ['\\', '"']
  else if n = 92 then ['\\', '\\']
  else if n = 8 then ['\\', 'b']
  else if n = 9 then ['\\', 't']
  else if n = 10 then ['\\', 'n']
  else if n = 12 then ['\\', 'f']
  else if n = 13 then ['\\', 'r']
  else if 32 ≤ n ∧ n < 127 then [c]
  else if n < 0x10000 then jsonUnicode n
  else jsonUnicode (0xd800 + (n - 0x10000) / 1024) ++ jsonUnicode (0xdc00 + (n - 0x10000) % 1024)

def jsonString (s : String) : String := String.ofList ('"' :: (s.toList.flatMap jsonChar ++ ['"']))

/-- `json.dumps(payload, sort_keys=True, separators=(",", ":"))` of texts under sorted keys. -/
def jsonObject (fields : List (String × String)) : String :=
  "\x7b" ++ ",".intercalate (fields.map fun field => jsonString field.1 ++ ":" ++ jsonString field.2) ++
    "\x7d"

def Solution.compute_hash (sha256 : List UInt8 → List UInt8) (solution : Solution) :
    Except PyError String := do
  let created_at ← isoformat solution.created_at
  let encoded := jsonObject [
    ("created_at", created_at),
    ("creator_id", solution.creator_id.str),
    ("description", solution.description),
    ("id", solution.id.str),
    ("issue_id", solution.issue_id.str),
    ("title", solution.title)]
  pure (hex (sha256 (utf8 encoded)))

end Superorganism.Democracy
