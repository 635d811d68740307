/-!
Tokens of a YAML stream, and what can be wrong with a stream. Layout is already settled in them:
indentation has become `blockEnd`s, and a simple key has its `key` mark in front of it.
-/
namespace ResolverHooks.Yaml

inductive Token where
  /-- A directive line: a version, a tag handle with what it stands for, or one to be ignored. -/
  | version (major minor : Nat)
  | handle (name expansion : String)
  | reserved
  | documentStart
  | documentEnd
  | streamEnd
  | blockSequence
  | blockMapping
  | blockEnd
  | flowSequence
  | flowSequenceEnd
  | flowMapping
  | flowMappingEnd
  /-- The dash of a block sequence. -/
  | entry
  /-- The comma of a flow collection. -/
  | comma
  | key
  | value
  | alias (name : String)
  | anchor (name : String)
  | tag (handle : Option String) (suffix : String)
  | scalar (text : String) (plain : Bool)
deriving DecidableEq, Repr, Inhabited

/-- What stops a stream from being read. -/
inductive Fault where
  /-- The text is not a YAML document, or its tags do not fit its nodes. -/
  | malformed
  /-- The text ends where a token has not been finished. -/
  | unfinished
  /-- Bytes that are not UTF-8. -/
  | undecodable
  /-- An escape names a number that is no code point; a far larger one does not even fit a word. -/
  | escapeOutOfRange
  | escapeTooLarge
  /-- A scalar that its explicit tag cannot be read as. -/
  | badNumber
  | emptyNumber
  | numberTooLarge
  | badFlag
  | badDate
  | notTimestamp
  /-- A mapping in the place of a timestamp. -/
  | stampOfMapping
deriving DecidableEq, Repr, Inhabited

end ResolverHooks.Yaml
