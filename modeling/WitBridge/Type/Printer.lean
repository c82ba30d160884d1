import WitBridge.Token.Kind
import WitBridge.Type.Basic

/-!
# Writing type expressions

A type is written as it is read: parameters between angle brackets with a comma and a space
between them, and nothing for a missing side of a result where it may be left out. A name
that spells a reserved word is written with its escape, whether or not it carries one.
-/
namespace WitBridge

/-- A name as it is written: a reserved word takes the escape. -/
def Identifier.written (name : Identifier) : String :=
  if !name.escaped && Token.Kind.isReserved name.text then "%" ++ name.text else name.text

namespace TypeExpr

mutual
/-- A type as it is written. -/
def written : TypeExpr → String
  | primitive kind => kind.spelling
  | named name => name.written
  | list element => "list<" ++ written element ++ ">"
  | option inner => "option<" ++ written inner ++ ">"
  | result none none => "result"
  | result (some ok) none => "result<" ++ written ok ++ ">"
  | result none (some err) => "result<_, " ++ written err ++ ">"
  | result (some ok) (some err) => "result<" ++ written ok ++ ", " ++ written err ++ ">"
  | tuple elements => "tuple<" ++ ", ".intercalate (writtenList elements) ++ ">"
  | handle ownership resource => ownership.spelling ++ "<" ++ resource.written ++ ">"
  | future none => "future"
  | future (some inner) => "future<" ++ written inner ++ ">"
  | stream none => "stream"
  | stream (some element) => "stream<" ++ written element ++ ">"
/-- Each type of a list as it is written. -/
def writtenList : List TypeExpr → List String
  | [] => []
  | first :: rest => written first :: writtenList rest
end

/-- Writing a list is writing each of its types. -/
theorem writtenList_eq_map (types : List TypeExpr) : writtenList types = types.map written := by
  induction types with
  | nil => rfl
  | cons first rest ih => simp [writtenList, ih]

end TypeExpr

end WitBridge
