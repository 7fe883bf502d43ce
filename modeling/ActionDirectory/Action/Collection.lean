/-
Collections of actions. All of them look at identifiers only, so several actions
of one collection may count as one: a sorted list keeps them all in their former
order, a tree and a hash set keep the first that was put in, the least action is
the first of the least ones and the greatest the last of the greatest.
-/

import ActionDirectory.Action.Basic

namespace ActionDirectory.Collection

/-- The actions in ascending order; equal ones stay in the order of the list. -/
def sorted (actions : List Action) : List Action :=
  actions.mergeSort fun first second => (first.order second).isLE

/-- A tree, listed in ascending order, after one more action was offered to it. -/
def plant : List Action → Action → List Action
  | [], offered => [offered]
  | present :: rest, offered =>
    match offered.order present with
    | .lt => offered :: present :: rest
    | .eq => present :: rest
    | .gt => present :: plant rest offered

/-- The tree that a list of actions fills one by one. -/
def tree (actions : List Action) : List Action :=
  actions.foldl plant []

/-- A hash set, listed in some order, after one more action was offered to it. -/
def offer (members : List Action) (offered : Action) : List Action :=
  if members.any fun member => member.hashed = offered.hashed && member.same offered then members
  else offered :: members

/-- The hash set that a list of actions fills one by one. -/
def hashSet (actions : List Action) : List Action :=
  actions.foldl offer []

/-- The first of the least actions. -/
def least? : List Action → Option Action
  | [] => none
  | first :: rest =>
    some (rest.foldl (fun least action => if action.order least = .lt then action else least) first)

/-- The last of the greatest actions. -/
def greatest? : List Action → Option Action
  | [] => none
  | first :: rest =>
    some (rest.foldl
      (fun greatest action => if action.order greatest = .lt then greatest else action) first)

def neighbours (actions : List Action) : List (Action × Action) :=
  actions.zip (actions.drop 1)

end ActionDirectory.Collection
