import PhpAudit.Mapping
import PhpAudit.Text.Blank
import PhpAudit.Text.Case
import PhpAudit.Text.Search

/-!
Class names. Segments are divided by backslashes; a leading backslash makes a name fully qualified.
A short name is looked up among the imports of its file without regard to case.
-/

namespace PhpAudit

namespace Name

/-- Without blanks around it and without leading separators. -/
def normalizeChars (cs : List Char) : List Char :=
  (Text.trimChars cs).dropWhile (· == '\\')

def normalize (name : String) : String := String.ofList (normalizeChars name.toList)

/-- The last segment. -/
def short (name : String) : String :=
  String.ofList (Text.afterLast '\\' (normalizeChars name.toList))

/-- Names imported by a file: the lower-cased alias of each with its full name. -/
abbrev Aliases := Mapping String String

/-- The full name a class reference stands for. References that start with a separator lose it;
those whose first segment is no alias stay as they are. -/
def resolve (aliases : Aliases) (reference : String) : String :=
  let trimmed := Text.trimChars reference.toList
  if trimmed.head? = some '\\' then String.ofList (normalizeChars trimmed)
  else
    let (first, rest) := Text.cutAt '\\' trimmed
    match Mapping.get? aliases (String.ofList (Text.lowerChars first)) with
    | none => String.ofList trimmed
    | some target =>
        match rest with
        | some (c :: more) => target ++ "\\" ++ String.ofList (c :: more)
        | _ => target

end Name

end PhpAudit
