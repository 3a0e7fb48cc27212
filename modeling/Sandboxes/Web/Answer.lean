import Sandboxes.Failure
import Sandboxes.Json.Basic
import Sandboxes.Text.Utf8

/-!
# Answers

What the web interface answers. An answer of its own is a document with a code, a message and data;
the code of a failure is the status of the answer.
-/

namespace Sandboxes.Web

/-- A request to the web interface. -/
structure Request where
  method : String
  target : String
  contentType : Option String
  body : Bytes
  deriving DecidableEq, Repr

/-- The body of an answer. -/
inductive Content
  | json (document : Json)
  | text (words : String)
  deriving Repr, BEq

/-- An answer. -/
structure Answer where
  status : Nat
  content : Content
  deriving Repr, BEq

namespace Answer

/-- The document around data. -/
def document (code : Nat) (message : String) (data : Json) : Json :=
  .obj [("code", Json.ofNat code), ("data", data), ("msg", .str message)]

/-- The answer that gives data. -/
def success (data : Json) : Answer where
  status := 200
  content := .json (document 0 "success" data)

/-- The answer that tells of a failure. -/
def failure (status : Nat) (message : String) : Answer where
  status := status
  content := .json (document status message .null)

/-- The status for a failure: whether the request was wrong, or something else. -/
def statusOf (f : Failure) : Nat :=
  if f.isRequestError then 400 else 500

/-- The answer that tells of a failure with sandboxes. -/
def ofFailure (f : Failure) : Answer :=
  failure (statusOf f) f.message

/-- The same for a failure that came up while something was attempted, which is named unless the
request was wrong. -/
def ofFailureIn (attempt : String) (f : Failure) : Answer :=
  if f.isRequestError then ofFailure f
  else failure (statusOf f) (attempt ++ ": " ++ f.message)

/-- An answer in words. -/
def plain (status : Nat) (words : String) : Answer where
  status := status
  content := .text words

/-- The answer without its body. -/
def withoutBody (a : Answer) : Answer :=
  { a with content := .text "" }

end Answer

end Sandboxes.Web
