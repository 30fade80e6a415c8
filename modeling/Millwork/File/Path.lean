namespace Millwork.FilePath

/-- A name in a directory. One with a slash in front starts from the root, wherever the directory
is. -/
def join (directory name : String) : String :=
  if name.startsWith "/" then name
  else if directory.isEmpty || directory.endsWith "/" then directory ++ name
  else directory ++ "/" ++ name

def steps (path : String) : List String := (path.toList.splitOn '/').map String.ofList

def normalSteps (steps : List String) : List String :=
  steps.foldl (fun taken step =>
    if step.isEmpty || step == "." then taken
    else if step == ".." then taken.dropLast
    else taken ++ [step]) []

/-- The root that a path starts from. Two slashes in front may mean a root of their own, three or
more mean one. -/
def root (path : String) : String :=
  if path.startsWith "//" && !path.startsWith "///" then "//"
  else if path.startsWith "/" then "/"
  else ""

def absolute (workingDirectory directory : String) : String :=
  let path := join workingDirectory directory
  root path ++ "/".intercalate (normalSteps (steps path))

/-! ## The last step -/

def last (path : List Char) : List Char := (path.reverse.takeWhile (· != '/')).reverse

theorem slash_not_mem_last (path : List Char) : '/' ∉ last path := fun inside => by
  have passed := List.all_eq_true.1 (List.all_takeWhile (l := path.reverse)) '/'
    (List.mem_reverse.1 inside)
  simp at passed

/-- What stands in front of the last slash. Slashes at the end go too, unless there is nothing
else. -/
def front (path : List Char) : List Char :=
  let leading := path.reverse.dropWhile (· != '/')
  if leading.all (· == '/') then leading.reverse else (leading.dropWhile (· == '/')).reverse

def directory (path : String) : String := .ofList (front path.toList)

end Millwork.FilePath
