/-! The tokens of a YAML text. -/
namespace Courier.Yaml

/-- How a scalar is written, which decides what it may stand for. -/
inductive Style where
  | plain
  | quoted
  | literal
  | folded
  deriving DecidableEq, Repr

/-- The tokens of a text, with the starts and ends of blocks that only indentation shows. -/
inductive Token where
  | versionDirective (major minor : Nat)
  | tagDirective (handle value : String)
  | documentStart
  | documentEnd
  | blockSequence
  | blockMapping
  | blockEnd
  | openSequence
  | closeSequence
  | openMapping
  | closeMapping
  | blockEntry
  | flowEntry
  | key
  | value
  | alias (name : String)
  | anchor (name : String)
  | tag (handle suffix : String)
  | scalar (text : String) (style : Style)
  deriving DecidableEq, Repr

end Courier.Yaml
