import ResolverHooks.Document.Value

/-!
Nodes of request and response mapping templates, and their Velocity text. Members of an object stand
two columns further in than the object.
-/
namespace ResolverHooks.Mapping

inductive Node where
  /-- A quoted text, not escaped. -/
  | str (value : String)
  /-- A reference, behind a dollar sign. -/
  | ref (value : String)
  /-- A reference evaluated for its effect alone. -/
  | quietRef (value : String)
  | raw (value : String)
  | obj (members : List (String × Node))
  | ifThen (predicate expression : Node)
  | compound (expressions : List Node)
  /-- An expression between two comments that name it. -/
  | block (name : String) (expression : Node)
deriving Repr, Inhabited

/-- As many spaces as an indentation asks for; a negative one asks for none. -/
def spaces (indent : Int) : List Char := List.replicate indent.toNat ' '

/-- Indents every line that is not empty by two columns. -/
def indentLines (lineStart : Bool) : List Char → List Char
  | [] => []
  | c :: rest =>
    if c = '\n' then c :: indentLines true rest
    else if lineStart then ' ' :: ' ' :: c :: indentLines false rest
    else c :: indentLines false rest

namespace Node

mutual

def chars (indent : Int) : Node → List Char
  | str value => '"' :: (value.toList ++ ['"'])
  | ref value => '$' :: value.toList
  | quietRef value => "$util.qr(".toList ++ value.toList ++ [')']
  | raw value => value.toList
  | obj [] => ['\x7b', '\x7d']
  | obj (m :: ms) =>
    '\x7b' :: '\n' :: (List.intercalate [',', '\n'] (memberChars (indent + 2) (m :: ms)) ++
      '\n' :: (spaces indent ++ ['\x7d']))
  | ifThen predicate expression =>
    "#if( ".toList ++ chars 0 predicate ++ " )\n".toList ++
      indentLines true (chars 0 expression) ++ "\n#end".toList
  | compound expressions => List.intercalate ['\n'] (expressionChars indent expressions)
  | block name expression =>
    "## [Start] ".toList ++ name.toList ++ ". **\n".toList ++ chars indent expression ++
      "\n## [End] ".toList ++ name.toList ++ ". **".toList

def memberChars (indent : Int) : List (String × Node) → List (List Char)
  | [] => []
  | (key, n) :: ms =>
    (spaces indent ++ '"' :: (key.toList ++ '"' :: ':' :: ' ' :: chars indent n)) ::
      memberChars indent ms

def expressionChars (indent : Int) : List Node → List (List Char)
  | [] => []
  | n :: ns => chars indent n :: expressionChars indent ns

end

/-- The text of a node at an indentation. -/
def render (n : Node) (indent : Int) : String := String.ofList (n.chars indent)

/-- What is said of a document value that stands where a node is asked for. -/
def unsupported (v : Value) : String := "Unsupported template node: " ++ v.kindName

end Node

end ResolverHooks.Mapping
