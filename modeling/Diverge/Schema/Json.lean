import Mathlib.Data.Int.Notation

/-! JSON texts. A JSON string that is the RFC 3339 text of an instant stands as that instant. -/
namespace Diverge.Schema

inductive Json
  | null
  | bool (b : Bool)
  | num (n : ℤ)
  | str (s : String)
  | time (ns : ℤ)
  | arr (items : List Json)
  | obj (members : List (String × Json))

end Diverge.Schema
