namespace IsolatedSite

variable {α : Type} [DecidableEq α]

def splitOn (sep : α) : List α → List (List α)
  | [] => [[]]
  | a :: as =>
    if a = sep then [] :: splitOn sep as
    else
      match splitOn sep as with
      | [] => [[a]]
      | part :: parts => (a :: part) :: parts

def joinWith (sep : List α) : List (List α) → List α
  | [] => []
  | [part] => part
  | part :: parts => part ++ sep ++ joinWith sep parts

def splitFirst (sep : α) : List α → List α × Option (List α)
  | [] => ([], none)
  | a :: as =>
    if a = sep then ([], some as)
    else
      let (before, after) := splitFirst sep as
      (a :: before, after)

def splitLast? (sep : α) (as : List α) : Option (List α × List α) :=
  match splitFirst sep as.reverse with
  | (_, none) => none
  | (after, some before) => some (before.reverse, after.reverse)

end IsolatedSite
