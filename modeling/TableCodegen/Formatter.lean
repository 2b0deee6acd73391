import TableCodegen.Failure

/-!
# Source formatters

A source formatter lays out a piece of source text, or refuses it. The library does not depend on any
one of them: they are parameters of everything that renders documents.
-/

namespace TableCodegen

/-- A formatter of source texts. -/
abbrev SourceFormatter := String → Except Failure String

/-- The formatter that changes nothing. -/
def SourceFormatter.verbatim : SourceFormatter := fun source => .ok source

end TableCodegen
