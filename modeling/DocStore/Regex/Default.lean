import DocStore.Regex.Engine
import DocStore.Regex.Syntax
/-!
The engine that a store runs with, if it is given no other. It knows only some of the properties of
characters, and what it takes for the size of a compiled pattern is rough; so theorems are about any
engine, and where they need more of it, about one that does what is documented of plain patterns.
-/
namespace DocStore.Regex

scoped instance standard : Engine where
  read flags pattern := (ofPattern flags pattern).map isMatch

end DocStore.Regex
