import WitBridge.Type.Primitive

/-!
# Kinds of tokens

Punctuation marks, keywords and the names of built-in types each have one spelling; the
words among them are reserved, and every other word is an identifier.
-/
namespace WitBridge.Token

/-- A punctuation mark. -/
inductive Mark where
  | leftParen | rightParen | leftBrace | rightBrace | leftAngle | rightAngle
  | comma | colon | semicolon | equal | arrow | star | slash | dot | atSign | percent | underscore
  deriving DecidableEq, Repr

/-- The characters of a mark. -/
def Mark.spelling : Mark → String
  | leftParen => "("
  | rightParen => ")"
  | leftBrace => "\x7b"
  | rightBrace => "\x7d"
  | leftAngle => "<"
  | rightAngle => ">"
  | comma => ","
  | colon => ":"
  | semicolon => ";"
  | equal => "="
  | arrow => "->"
  | star => "*"
  | slash => "/"
  | dot => "."
  | atSign => "@"
  | percent => "%"
  | underscore => "_"

/-- A word with a part in the grammar. -/
inductive Keyword where
  | package | interface | world | func | type | record | variant | enum | flags | resource
  | use | as | importWord | exportWord | includeWord | withWord | constructor | static | async
  | own | borrow
  deriving DecidableEq, Repr

namespace Keyword

/-- Every keyword. -/
def all : List Keyword :=
  [package, interface, world, func, type, record, variant, enum, flags, resource, use, as,
   importWord, exportWord, includeWord, withWord, constructor, static, async, own, borrow]

/-- The word itself. -/
def spelling : Keyword → String
  | package => "package"
  | interface => "interface"
  | world => "world"
  | func => "func"
  | type => "type"
  | record => "record"
  | variant => "variant"
  | enum => "enum"
  | flags => "flags"
  | resource => "resource"
  | use => "use"
  | as => "as"
  | importWord => "import"
  | exportWord => "export"
  | includeWord => "include"
  | withWord => "with"
  | constructor => "constructor"
  | static => "static"
  | async => "async"
  | own => "own"
  | borrow => "borrow"

end Keyword

/-- The name of a built-in type: a primitive type or one that takes parameters. -/
inductive Builtin where
  | primitive (kind : Primitive)
  | list | option | result | tuple | future | stream
  deriving DecidableEq, Repr

namespace Builtin

/-- Every name of a built-in type. -/
def all : List Builtin :=
  Primitive.all.map primitive ++ [list, option, result, tuple, future, stream]

/-- The word itself. -/
def spelling : Builtin → String
  | primitive kind => kind.spelling
  | list => "list"
  | option => "option"
  | result => "result"
  | tuple => "tuple"
  | future => "future"
  | stream => "stream"

end Builtin

/-- What a token is. -/
inductive Kind where
  /-- The end of the text. -/
  | endOfInput
  /-- Characters that begin no token. -/
  | invalid
  /-- A word that is not reserved. -/
  | identifier
  /-- A run of digits. -/
  | integer
  | mark (mark : Mark)
  | keyword (keyword : Keyword)
  | builtin (builtin : Builtin)
  deriving DecidableEq, Repr

namespace Kind

/-- Every reserved word as a kind. -/
def reserved : List Kind :=
  Keyword.all.map keyword ++ Builtin.all.map builtin

/-- The one spelling of a mark or reserved word. -/
def spelling? : Kind → Option String
  | mark m => some m.spelling
  | keyword k => some k.spelling
  | builtin b => some b.spelling
  | _ => none

/-- The kind of a word: reserved, or an identifier. -/
def ofWord (word : String) : Kind :=
  (reserved.find? (·.spelling? = some word)).getD identifier

/-- Whether a word is reserved. -/
def isReserved (word : String) : Bool :=
  ofWord word != identifier

/-- Whether the kind is a keyword. -/
def isKeyword : Kind → Bool
  | keyword _ => true
  | _ => false

/-- Whether the kind names a built-in type. -/
def isBuiltin : Kind → Bool
  | builtin _ => true
  | _ => false

/-- Whether the token is a word, reserved or not. -/
def isWord : Kind → Bool
  | identifier | keyword _ | builtin _ => true
  | _ => false

/-- The kind as messages name it: a spelling in quotes or a description. -/
def display : Kind → String
  | endOfInput => "end of input"
  | invalid => "invalid token"
  | identifier => "identifier"
  | integer => "integer"
  | mark m => s!"'{m.spelling}'"
  | keyword k => s!"'{k.spelling}'"
  | builtin b => s!"'{b.spelling}'"

/-- Every reserved kind is read from its spelling. -/
theorem ofWord_reserved : ∀ kind ∈ reserved, ∀ word, kind.spelling? = some word →
    ofWord word = kind := by
  intro kind member word spelled
  have table : ∀ kind ∈ reserved, kind.spelling?.map ofWord = some kind := by decide
  simpa [spelled] using table kind member

/-- Every word has a word's kind. -/
theorem isWord_ofWord (word : String) : (ofWord word).isWord = true := by
  unfold ofWord
  cases found : reserved.find? (·.spelling? = some word) with
  | none => rfl
  | some kind =>
    have words : ∀ kind ∈ reserved, kind.isWord = true := by decide
    exact words kind (List.mem_of_find?_eq_some found)

end Kind

end WitBridge.Token
