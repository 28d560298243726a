/-!
The parts of a host between its dots.
-/
namespace PipelineWatch.Url

/-- The parts of `cs` between dots, at least one. -/
def splitDots : List Char → List (List Char)
  | [] => [[]]
  | c :: cs =>
    if c = '.' then [] :: splitDots cs
    else
      match splitDots cs with
      | [] => [[c]]
      | part :: parts => (c :: part) :: parts

/-- The parts with a dot between each two. -/
def joinDots (parts : List (List Char)) : List Char :=
  ['.'].intercalate parts

end PipelineWatch.Url
