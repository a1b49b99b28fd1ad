namespace TypedRows.Naming

-- `seen` holds the earlier names with their keys.
def conflictAfter (key : String → String) (seen : List (String × String)) :
    List String → Option (String × String)
  | [] => none
  | name :: names =>
    match seen.lookup (key name) with
    | some earlier => some (earlier, name)
    | none => conflictAfter key ((key name, name) :: seen) names

-- An earlier name and the first later one with the same key, both as spelled.
def conflict? (key : String → String) (names : List String) : Option (String × String) :=
  conflictAfter key [] names

end TypedRows.Naming
