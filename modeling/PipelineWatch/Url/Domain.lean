import PipelineWatch.Text.Blank
import PipelineWatch.Url.Dotted
import PipelineWatch.Url.Label
import PipelineWatch.Url.Percent

/-!
The names of hosts in ASCII. Each character is brought to the form that names
have it in, the name is composed and parted at its dots, and each part has to be
a label.
-/
namespace PipelineWatch.Url.Domain

/-- What no name may contain. -/
def isDenied (c : Char) : Bool :=
  isControl c || c == ' ' || c == '%' || c == '#' || c == '/' || c == ':' || c == '<' ||
    c == '>' || c == '?' || c == '@' || c == '[' || c == '\\' || c == ']' || c == '^' || c == '|'

/-- Whether the labels of a name can be told apart in all directions. That is no
question where all of them run from left to right. -/
def isOrdered (labels : List Label) : Bool :=
  !labels.any Label.hasBackward ||
    labels.all fun label => Label.isFirm (label.meant.map Text.direction)

/-- The labels of a name. -/
def labels? (cs : List Char) : Option (List Label) := do
  let name := Text.composed (← cs.mapM mapped?).flatten
  guard (!name.any isDenied)
  let labels ← (splitDots name).mapM Label.read?
  guard (labels.all Label.isSound && isOrdered labels)
  return labels

/-- A name in ASCII, if it is one. -/
def ofText? (cs : List Char) : Option (List Char) :=
  (labels? cs).map fun labels => joinDots (labels.map Label.written)

end PipelineWatch.Url.Domain
