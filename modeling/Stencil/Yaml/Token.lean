/-!
# Tokens of YAML

What a YAML text is made of. Blocks are marked by indentation, so that their starts and ends are
tokens without characters of their own. Of a tag only the handle counts, which has to be declared.
-/

namespace Stencil.Yaml

/-- A token of a YAML text. -/
inductive Token where
  | version (major minor : Nat)
  | handle (name : String)
  | documentStart
  | documentEnd
  | blockSequenceStart
  | blockMappingStart
  | blockEnd
  | flowSequenceStart
  | flowSequenceEnd
  | flowMappingStart
  | flowMappingEnd
  | blockEntry
  | flowEntry
  | key
  | value
  | alias (name : String)
  | anchor (name : String)
  | tag (handle : String)
  | scalar (text : String) (plain : Bool)
deriving DecidableEq, Repr

end Stencil.Yaml
